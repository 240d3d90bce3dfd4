import SignerPlugin.Script.Sum

/-! Output that a format describes: escapes, and directives that arguments are filled into. -/

namespace SignerPlugin.Script

namespace Format

def isOctal (c : Char) : Bool := '0' ≤ c && c ≤ '7'

/-- Up to so many octal digits at the start of a text as a letter, and what is left. -/
def octal (most : Nat) (text : Letters) : Char × Letters :=
  let digits := (text.take most).takeWhile isOctal
  (Char.ofNat (digits.foldl (fun sum c => sum * 8 + (c.toNat - 48)) 0 % 256),
    text.drop digits.length)

/-- The letter that an escape behind a backslash stands for, and what is left. A backslash in
front of anything else stands for itself. -/
def escape : Letters → Char × Letters
  | 'a' :: rest => ('\x07', rest)
  | 'b' :: rest => ('\x08', rest)
  | 'e' :: rest => ('\x1b', rest)
  | 'f' :: rest => ('\x0c', rest)
  | 'n' :: rest => ('\n', rest)
  | 'r' :: rest => ('\r', rest)
  | 't' :: rest => ('\t', rest)
  | 'v' :: rest => ('\x0b', rest)
  | '\\' :: rest => ('\\', rest)
  | c :: rest => if isOctal c then octal 3 (c :: rest) else ('\\', c :: rest)
  | [] => ('\\', [])

/-- The letters of a text with escapes; and whether one of them ends all output. Octal digits
may have a zero in front here. The fuel bounds the letters. -/
def unescape : (fuel : Nat) → Letters → Letters × Bool
  | 0, _ | _, [] => ([], false)
  | _ + 1, '\\' :: 'c' :: _ => ([], true)
  | fuel + 1, '\\' :: rest =>
    let (c, rest) := match rest with
      | '0' :: rest => octal 3 rest
      | rest => escape rest
    let (text, ended) := unescape fuel rest
    (c :: text, ended)
  | fuel + 1, c :: rest =>
    let (text, ended) := unescape fuel rest
    (c :: text, ended)

/-- A text with its escapes; and whether one of them ends all output. -/
def expand (text : Letters) : Letters × Bool := unescape (text.length + 1) text

/-- How an argument is to be written. -/
structure Directive where
  flags : Letters := []
  width : Nat := 0
  precision : Option Nat := none
  conversion : Char

/-- A text filled up to the width of a directive. -/
def Directive.pad (directive : Directive) (text : Letters) : Letters :=
  let blanks := List.replicate (directive.width - text.length) ' '
  if directive.flags.contains '-' then text ++ blanks else blanks ++ text

/-- The digits of a number to a base, the most significant first. The fuel bounds them. -/
def digitsOf (base : Nat) : (fuel : Nat) → Nat → Letters
  | 0, _ => []
  | fuel + 1, n =>
    if n < base then [Letters.hexDigit n] else digitsOf base fuel (n / base) ++
      [Letters.hexDigit (n % base)]

/-- A number with its sign, zeros in front, and the width of a directive. -/
def Directive.number (directive : Directive) (front : Letters) (digits : Letters) : Letters :=
  let least := match directive.precision with
    | some precision => precision
    | none =>
      if directive.flags.contains '0' &&
        !directive.flags.contains '-' then directive.width - front.length else 1
  directive.pad (front ++ List.replicate (least - digits.length) '0' ++ digits)

def Directive.integer (directive : Directive) (value : Int) : Letters :=
  let front := if value < 0 then ['-'] else if directive.flags.contains '+' then ['+']
    else if directive.flags.contains ' ' then [' '] else []
  let digits :=
    if value = 0 && directive.precision = some 0 then [] else digitsOf 10 64 value.natAbs
  directive.number front digits

/-- A number of 64 bits without a sign, to the base that the conversion names. -/
def Directive.unsigned (directive : Directive) (value : Int) : Letters :=
  let n := (value % 18446744073709551616).toNat
  let base := if directive.conversion = 'o' then 8 else if directive.conversion =
    'u' then 10 else 16
  let digits := if n = 0 && directive.precision = some 0 then [] else digitsOf base 64 n
  let marked := directive.flags.contains '#' && n ≠ 0
  let text :=
    if marked && base = 16 then directive.number ['0', 'x'] digits
    else if marked && base = 8 then directive.number [] ('0' :: digits)
    else directive.number [] digits
  if directive.conversion = 'X' then text.map Char.toUpper else text

/-- The number that an argument writes, and whether it is one in full. A quote in front of a
letter makes it the letter's own number. -/
def numberOf (argument : Letters) : Int × Bool :=
  match argument with
  | [] => (0, true)
  | q :: c :: _ =>
    if q = '"' || q = '\'' then (c.toNat, true) else numeral argument
  | _ => numeral argument
where
  numeral (argument : Letters) : Int × Bool :=
    let text := argument.dropWhile isSpace
    let (negated, magnitude) := match text with
      | '-' :: rest => (true, rest)
      | '+' :: rest => (false, rest)
      | rest => (false, rest)
    let (value, rest) := Sum.literal magnitude
    let value : Int := if negated then -value else value
    (Sum.clamp value, rest.isEmpty && magnitude.head?.any Char.isDigit && Sum.clamp value = value)

/-- What filling a format has come to. -/
structure Filling where
  /-- What is to be put out, the last part first. -/
  parts : List Letters := []
  arguments : List Letters
  status : Nat := 0
  /-- Whether nothing more is to be put out. -/
  ended : Bool := false

def Filling.put (filling : Filling) (text : Letters) : Filling :=
  { filling with parts := text :: filling.parts }

/-- The next argument, which is empty if there is none, and the rest. -/
def Filling.take (filling : Filling) : Letters × Filling :=
  (filling.arguments.head?.getD [], { filling with arguments := filling.arguments.drop 1 })

/-- The next argument as a number. -/
def Filling.takeNumber (filling : Filling) : Int × Filling :=
  let (argument, filling) := filling.take
  let (value, whole) := numberOf argument
  (value, if whole then filling else { filling with status := 1 })

/-- A number that stands in a directive, or that an argument gives for a star. -/
def Filling.measure (filling : Filling) : Letters → Int × Letters × Filling
  | '*' :: rest =>
    let (value, filling) := filling.takeNumber
    (value, rest, filling)
  | rest =>
    let digits := rest.takeWhile Char.isDigit
    (((Letters.number? digits).getD 0 : Nat), rest.drop digits.length, filling)

/-- Writes an argument as a directive says. -/
def Filling.convert (filling : Filling) (directive : Directive) : Filling :=
  let cut (text : Letters) : Letters := match directive.precision with
    | some most => text.take most
    | none => text
  match directive.conversion with
  | 's' =>
    let (text, filling) := filling.take
    filling.put (directive.pad (cut text))
  | 'b' =>
    let (text, filling) := filling.take
    let (text, ended) := expand text
    { filling.put (directive.pad (cut text)) with ended }
  | 'c' =>
    let (text, filling) := filling.take
    filling.put (directive.pad [text.head?.getD '\x00'])
  | 'd' | 'i' =>
    let (value, filling) := filling.takeNumber
    filling.put (directive.integer value)
  | 'o' | 'u' | 'x' | 'X' =>
    let (value, filling) := filling.takeNumber
    filling.put (directive.unsigned value)
  | _ => { filling with status := 2, ended := true }

/-- Fills the arguments into a format once. The fuel bounds the letters. -/
def fill : (fuel : Nat) → Letters → Filling → Filling
  | 0, _, filling | _, [], filling => filling
  | fuel + 1, c :: rest, filling =>
    if filling.ended then filling
    else match c, rest with
      | '\\', rest =>
        let (c, rest) := escape rest
        fill fuel rest (filling.put [c])
      | '%', '%' :: rest => fill fuel rest (filling.put ['%'])
      | '%', rest =>
        let isFlag (c : Char) : Bool := ['#', '-', '+', ' ', '0'].contains c
        let flags := rest.takeWhile isFlag
        let (width, rest, filling) := filling.measure (rest.dropWhile isFlag)
        let flags := if width < 0 then '-' :: flags else flags
        let (precision, rest, filling) := match rest with
          | '.' :: rest =>
            let (precision, rest, filling) := filling.measure rest
            (if precision < 0 then none else some precision.toNat, rest, filling)
          | rest => (none, rest, filling)
        match rest with
        | conversion :: rest =>
          fill fuel rest (filling.convert ⟨flags, width.natAbs, precision, conversion⟩)
        | [] => { filling with status := 2, ended := true }
      | c, rest => fill fuel rest (filling.put [c])

/-- Fills a format as often as it takes to use up the arguments; the fuel bounds their number. -/
def fillAll : (fuel : Nat) → Letters → Filling → Filling
  | 0, _, filling => filling
  | fuel + 1, format, filling =>
    let next := fill (format.length + 1) format filling
    if next.ended || next.arguments.isEmpty || next.arguments.length =
      filling.arguments.length then next
    else fillAll fuel format next

end Format

/-- What a format with its arguments puts out, and the status. -/
def format (pattern : Letters) (arguments : List Letters) : Letters × Nat :=
  let filling := Format.fillAll (arguments.length + 1) pattern { arguments }
  (filling.parts.reverse.flatten, filling.status)

/-- The line that words make up, in which escapes only count if an option in front says so. -/
def plainEcho (words : List Letters) : Letters :=
  let isOption (word : Letters) : Bool :=
    word.length > 1 && word.head? = some '-' && (word.drop 1).all ['n', 'e', 'E'].contains
  let options := (words.takeWhile isOption).flatten
  let line := [' '].intercalate (words.dropWhile isOption)
  let escapes := (options.filter fun c => c = 'e' || c = 'E').getLast? = some 'e'
  let (text, ended) := if escapes then Format.expand line else (line, false)
  if ended || options.contains 'n' then text else text ++ ['\n']

/-- The line that words make up; the escapes in them count, and one of them ends the output. -/
def echo (words : List Letters) : Letters :=
  let (words, ending) := match words with
    | ['-', 'n'] :: words => (words, [])
    | words => (words, ['\n'])
  let (text, ended) := Format.expand ([' '].intercalate words)
  if ended then text else text ++ ending

end SignerPlugin.Script
