import SignerPlugin.Base64
import SignerPlugin.Digest
import SignerPlugin.Script.Filter.Basic
import SignerPlugin.Script.Format

/-! Bytes in readable form: in base64, in digits row by row, and by their digests. -/

namespace SignerPlugin.Script.Filter

/-- The bytes that groups of four letters stand for; and whether all of them are right. -/
def unpacked : Letters → Bytes × Bool
  | [] => ([], true)
  | a :: b :: c :: d :: rest =>
    match Base64.value? a, Base64.value? b with
    | some x, some y =>
      let first := UInt8.ofNat (x * 4 + y / 16)
      match Base64.value? c, Base64.value? d with
      | some z, some w =>
        let (more, whole) := unpacked rest
        (first :: UInt8.ofNat (y % 16 * 16 + z / 4) :: UInt8.ofNat (z % 4 * 64 + w) :: more, whole)
      | some z, none =>
        let pair := [first, UInt8.ofNat (y % 16 * 16 + z / 4)]
        if d ≠ '=' || z % 4 ≠ 0 then (pair, false)
        else
          let (more, whole) := unpacked rest
          (pair ++ more, whole)
      | none, _ =>
        if c ≠ '=' || d ≠ '=' || y % 16 ≠ 0 then ([first], false)
        else
          let (more, whole) := unpacked rest
          (first :: more, whole)
    | _, _ => ([], false)
  | [a, b, c] =>
    match Base64.value? a, Base64.value? b, Base64.value? c with
    | some x, some y, some z =>
      ([UInt8.ofNat (x * 4 + y / 16), UInt8.ofNat (y % 16 * 16 + z / 4)], false)
    | some x, some y, none => ([UInt8.ofNat (x * 4 + y / 16)], false)
    | _, _, _ => ([], false)
  | [a, b] =>
    match Base64.value? a, Base64.value? b with
    | some x, some y => ([UInt8.ofNat (x * 4 + y / 16)], false)
    | _, _ => ([], false)
  | [_] => ([], false)

def base64 : Filter :=
  withArguments { flags := "di", valued := "w", long := [("decode", 'd'),
    ("ignore-garbage", 'i'), ("wrap", 'w')] }
    fun call arguments =>
      match Letters.number? ((arguments.value? 'w').getD ['7', '6']),
        (call.sources arguments.operands) with
      | some width, [(_, some text)] =>
        let drains := drainsFor arguments.operands
        if arguments.has 'd' then
          let isKept (c : Char) : Bool :=
            if arguments.has 'i' then (Base64.value? c).isSome || c = '=' else c ≠ '\n'
          let (bytes, whole) := unpacked (text.filter isKept)
          { output := Letters.ofBytes bytes, status := if whole then 0 else 1, drains }
        else
          let packed := Base64.encodeChars text.toBytes
          let output :=
            if width = 0 then packed else Letters.ofLines (grouped width (packed.length + 1) packed)
          { output, drains }
      | _, _ => refusal

/-- The digits of a number to a base in a field of a width, with something in front. -/
def field (base width : Nat) (filler : Char) (n : Nat) : Letters :=
  let digits := Format.digitsOf base 64 n
  List.replicate (width - digits.length) filler ++ digits

/-- Rows of bytes with their addresses, several equal ones in a row shown by a star. -/
def dumped (address : Nat → Letters) (show_ : Letters → Letters) (verbose : Bool) :
    (position : Nat) → (before : Option Letters) → (starred : Bool) → List Letters → List Letters
  | position, _, _, [] => if (address 0).isEmpty then [] else [address position]
  | position, before, starred, row :: rest =>
    if before = some row && !verbose then
      (if starred then [] else [['*']]) ++ dumped address show_ verbose
        (position + row.length) before true rest
    else (address position ++ show_ row) ::
      dumped address show_ verbose (position + row.length) (some row) false rest

/-- How a byte is shown by a letter or by its name. -/
def character (c : Char) : Letters :=
  match c with
  | '\x00' => ['\\', '0']
  | '\x07' => ['\\', 'a']
  | '\x08' => ['\\', 'b']
  | '\x0c' => ['\\', 'f']
  | '\n' => ['\\', 'n']
  | '\r' => ['\\', 'r']
  | '\t' => ['\\', 't']
  | '\x0b' => ['\\', 'v']
  | c => if 32 ≤ c.toNat && c.toNat < 127 then [c] else field 8 3 '0' c.toNat

def od : Filter :=
  withArguments { flags := "vcbx", valued := "AtNjw" } fun call arguments =>
    let radix := ((arguments.value? 'A').getD ['o']).head?.getD 'o'
    let address (n : Nat) : Letters := match radix with
      | 'd' => field 10 7 '0' n
      | 'x' => field 16 6 '0' n
      | 'n' => []
      | _ => field 8 7 '0' n
    let kind := if arguments.has 'c' then "c" else if arguments.has 'b' then "o1"
      else String.ofList ((arguments.value? 't').getD ['o', '2'])
    let byte (f : Char → Letters) (row : Letters) : Letters := row.flatMap fun c => ' ' :: f c
    let pairs (base width : Nat) (row : Letters) : Letters :=
      (grouped 2 (row.length + 1) row).flatMap fun pair =>
        let low := (pair.head?.getD '\x00').toNat
        let high := ((pair[1]?).getD '\x00').toNat
        ' ' :: field base width '0' (high * 256 + low)
    let show? : Option (Letters → Letters) := match kind with
      | "x1" => some (byte fun c => field 16 2 '0' c.toNat)
      | "o1" => some (byte fun c => field 8 3 '0' c.toNat)
      | "u1" => some (byte fun c => field 10 3 ' ' c.toNat)
      | "d1" => some (byte fun c => right 4 (Letters.ofInt ((c.toNat : Int).bmod 256)))
      | "c" => some (byte fun c => right 3 (character c))
      | "o2" => some (pairs 8 6)
      | "x2" => some (pairs 16 4)
      | _ => none
    let width := ((arguments.value? 'w').bind Letters.number?).getD 16
    match show? with
    | none => refusal
    | some shown =>
      overAll call arguments.operands fun text =>
        let text := text.drop (((arguments.value? 'j').bind quantity?).getD 0)
        let text := match (arguments.value? 'N').bind quantity? with
          | some most => text.take most
          | none => text
        Letters.ofLines (dumped address shown (arguments.has 'v') 0 none false
          (grouped width (text.length + 1) text))

/-- The digest of each source in hexadecimal digits, with the name of the source. -/
def digest (hash : HashFunc) : Filter :=
  withArguments { flags := "bt", long := [("binary", 'b'), ("text", 't')] } fun call arguments =>
    let sources := call.sources arguments.operands
    let rows := sources.filterMap fun (name, content) => content.map fun text =>
      (hash.digest text.toBytes).flatMap (fun byte => field 16 2 '0' byte.toNat) ++
        ' ' :: ' ' :: name
    { output := Letters.ofLines rows
      status := if sources.all (·.2.isSome) then 0 else 1
      drains := drainsFor arguments.operands }

/-- The value of an operand that is named in front of an equals sign. -/
def named? (operands : List Letters) (name : String) : Option Letters :=
  (operands.find? fun operand => (name ++ "=").toList.isPrefixOf operand).map
    (·.drop (name.length + 1))

/-- Copies blocks of a size, after some are passed over. -/
def dd : Filter := fun call =>
  let number (name : String) (default : Nat) : Option Nat :=
    ((named? call.arguments name).map quantity?).getD (some default)
  let source := (named? call.arguments "if").map call.file?
  match number "bs" 512, number "skip" 0, source.getD (some call.input) with
  | some size, some passed, some text =>
    let most := ((named? call.arguments "count").bind quantity?).map (· * size)
    let rest := text.drop (passed * size)
    let output := (most.map rest.take).getD rest
    { output, drains := source.isNone, most := some (text.length - rest.length + output.length) }
  | _, _, _ => refusal

end SignerPlugin.Script.Filter
