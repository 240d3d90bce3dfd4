import SignerPlugin.Script.Statement

/-! Reading scripts. A script is read line by line, so what stands before a mistake can still
be run. Fuel bounds the depth of the recursion; a mistake of its own is reported when it runs
out, which a fuel in proportion to the length of the text excludes. -/

namespace SignerPlugin.Script

/-- A document that has been announced: its text begins behind the line. -/
structure Announcement where
  number : Nat
  ending : Letters
  literal : Bool
  /-- Whether tabs in front of its lines are left out. -/
  outdented : Bool

structure Input where
  rest : Letters
  awaited : List Announcement := []
  documents : List (Nat × Word) := []
  /-- The number of the next document. -/
  next : Nat := 0

abbrev Reader := StateT Input Option

/-- Where pieces of a word stand. -/
inductive Place
  | bare
  | quotes
  /-- In the braces of an expansion. -/
  | braces (quoted : Bool)
  | document
  /-- In an arithmetic expression, within so many parentheses of its own. -/
  | sum (depth : Nat)
  deriving DecidableEq, Repr

def Place.isQuoted : Place → Bool
  | .bare => false
  | .braces quoted => quoted
  | _ => true

/-- Whether a letter that is not quoted ends a word. -/
def endsWord (c : Char) : Bool := isBlank c || ['\n', ';', '&', '|', '<', '>', '(', ')'].contains c

def reserved : List String :=
  ["if", "then", "elif", "else", "fi", "while", "until", "do", "done", "for", "case", "esac",
    "!", "\x7b", "\x7d"]

namespace Reader

/-- The text behind blanks, continued lines and a comment. -/
def skipBlanks : Letters → Letters
  | '\\' :: '\n' :: rest => skipBlanks rest
  | c :: rest =>
    if isBlank c then skipBlanks rest
    else if c = '#' then rest.dropWhile (· ≠ '\n')
    else c :: rest
  | [] => []

/-- What is left of the input behind blanks. -/
def upcoming : Reader Letters := do
  let input ← get
  let rest := skipBlanks input.rest
  set { input with rest }
  return rest

def advance (count : Nat) : Reader Unit :=
  modify fun input => { input with rest := input.rest.drop count }

def resume (rest : Letters) : Reader Unit := modify fun input => { input with rest }

/-- What is left behind a reserved word, if the text begins with it. -/
def after? (word : String) (text : Letters) : Option Letters :=
  if word.toList.isPrefixOf text then
    let rest := text.drop word.length
    if rest.head?.all endsWord then some rest else none
  else none

/-- The reserved word that the text begins with. -/
def reserved? (text : Letters) : Option String :=
  reserved.find? fun word => (after? word text).isSome

/-- Reads a reserved word that must be there. -/
def expect (word : String) : Reader Unit := do
  match after? word (← upcoming) with
  | some rest => resume rest
  | none => failure

/-- A piece in front of others; a text is joined with one behind it of its kind. -/
def join (piece : Piece) (pieces : List Piece) : List Piece :=
  match piece, pieces with
  | .text [] false, pieces => pieces
  | .text a false, .text b false :: rest => .text (a ++ b) false :: rest
  | .text (a :: as) true, .text (b :: bs) true :: rest => .text (a :: as ++ b :: bs) true :: rest
  | piece, pieces => piece :: pieces

/-- The text that a word stands for without any expansion, and whether a part of it is quoted. -/
def plain? : Word → Option (Letters × Bool)
  | [] => some ([], false)
  | .text letters quoted :: rest => do
    let (more, also) ← plain? rest
    return (letters ++ more, quoted || also)
  | _ => none

/-- The text between backquotes, where a backslash protects some letters, and what is left
behind it. -/
def backquoted? (quoted : Bool) : Letters → Option (Letters × Letters)
  | [] => none
  | '\\' :: c :: rest => do
    let (text, left) ← backquoted? quoted rest
    if c = '$' || c = '\x60' || c = '\\' || (quoted && c = '"') then return (c :: text, left)
    else return ('\\' :: c :: text, left)
  | c :: rest =>
    if c = '\x60' then some ([], rest)
    else do
      let (text, left) ← backquoted? quoted rest
      return (c :: text, left)

/-- The use of a parameter that the text after its name tells, and what is left. -/
def useOf : Letters → Use × Letters
  | ':' :: '-' :: rest => (.fallback true, rest)
  | ':' :: '=' :: rest => (.assign true, rest)
  | ':' :: '?' :: rest => (.demand true, rest)
  | ':' :: '+' :: rest => (.replace true, rest)
  | '-' :: rest => (.fallback false, rest)
  | '=' :: rest => (.assign false, rest)
  | '?' :: rest => (.demand false, rest)
  | '+' :: rest => (.replace false, rest)
  | '%' :: '%' :: rest => (.cut true true, rest)
  | '%' :: rest => (.cut true false, rest)
  | '#' :: '#' :: rest => (.cut false true, rest)
  | '#' :: rest => (.cut false false, rest)
  | rest => (.invalid, rest)

def isSpecial (c : Char) : Bool := ['#', '$', '?', '@', '*', '!', '-'].contains c

/-- The name of a parameter at the start of a text, and what is left behind it. -/
def name? : Letters → Option (Letters × Letters)
  | [] => none
  | c :: rest =>
    if isSpecial c then some ([c], rest)
    else if c.isDigit then some (c :: rest.takeWhile Char.isDigit, rest.dropWhile Char.isDigit)
    else if startsName c then some (c :: rest.takeWhile isNameChar, rest.dropWhile isNameChar)
    else none

/-- The lines of a document and what is left behind it. -/
def documentLines (ending : Letters) (outdented : Bool) :
    (lines : List Letters) → Letters × List Letters
  | [] => ([], [])
  | line :: rest =>
    let line := if outdented then line.dropWhile (· = '\t') else line
    if line = ending then ([], rest)
    else if rest = [] then (line, [])
    else
      let (text, left) := documentLines ending outdented rest
      (line ++ '\n' :: text, left)

/-- The channel that a redirection begins with, and what is left behind that. -/
def channel? : Letters → Option (Option Nat × Letters)
  | '<' :: rest => some (none, '<' :: rest)
  | '>' :: rest => some (none, '>' :: rest)
  | c :: d :: rest =>
    if c.isDigit && (d = '<' || d = '>') then some (some (c.toNat - 48), d :: rest) else none
  | _ => none

/-- The part before an equals sign and the rest, if a word assigns something. -/
def assignment? : Word → Option (Letters × Word)
  | .text letters false :: rest =>
    let name := letters.takeWhile (· ≠ '=')
    if isName name && name.length < letters.length then
      some (name, join (.text (letters.drop (name.length + 1)) false) rest)
    else none
  | _ => none

/-- The name of the function that the text begins to define, and what is left behind its
parentheses. -/
def defined? (text : Letters) : Option (Letters × Letters) :=
  let name := text.takeWhile fun c => !endsWord c
  match skipBlanks (text.drop name.length) with
  | '(' :: rest => match skipBlanks rest with
    | ')' :: rest => if isName name then some (name, rest) else none
    | _ => none
  | _ => none

/-- Statements with pipes between them as one. -/
def joined : List Statement → Statement
  | [single] => single
  | several => .pipeline several

mutual

/-- The pieces up to where their place ends, which is read too, except for a word that is bare. -/
def pieces : (fuel : Nat) → Place → Reader (List Piece)
  | 0, _ => failure
  | fuel + 1, place => do
    let quoted := place.isQuoted
    match (← get).rest, place with
    | [], .bare | [], .document => return []
    | [], _ => failure
    | '"' :: _, .quotes => advance 1; return []
    | '}' :: _, .braces _ => advance 1; return []
    | ')' :: rest, .sum 0 =>
      match rest with
      | ')' :: _ => advance 2; return []
      | _ => failure
    | '(' :: _, .sum depth =>
      advance 1
      return join (.text ['('] true) (← pieces fuel (.sum (depth + 1)))
    | ')' :: _, .sum (depth + 1) =>
      advance 1
      return join (.text [')'] true) (← pieces fuel (.sum depth))
    | '\\' :: '\n' :: _, _ =>
      advance 2
      pieces fuel place
    | '\\' :: c :: _, place =>
      advance 2
      let isEscape := match place with
        | .bare | .braces false => true
        | .quotes | .sum _ => ['$', '\x60', '"', '\\'].contains c
        | .braces true => ['$', '\x60', '"', '\\', '}'].contains c
        | .document => ['$', '\x60', '\\'].contains c
      return join (.text (if isEscape then [c] else ['\\', c]) true) (← pieces fuel place)
    | '$' :: _, place =>
      advance 1
      let piece ← expansion fuel quoted
      return join piece (← pieces fuel place)
    | c :: rest, place =>
      if c = '\x60' then
        match backquoted? (place = .quotes) rest with
        | none => failure
        | some (text, left) =>
          let input ← get
          set { input with rest := text, awaited := [] }
          let lines ← script fuel
          let inner ← get
          set { inner with rest := left, awaited := input.awaited }
          return join (.output (.sequence lines) quoted) (← pieces fuel place)
      else if c = '"' && (place = .bare || place = .braces false || place = .braces true) then
        advance 1
        let inner ← pieces fuel .quotes
        let inner := if inner.isEmpty then [.text [] true] else inner
        return inner.foldr join (← pieces fuel place)
      else if c = '\'' && (place = .bare || place = .braces false) then
        let text := rest.takeWhile (· ≠ '\'')
        if text.length = rest.length then failure
        else
          advance (text.length + 2)
          return join (.text text true) (← pieces fuel place)
      else if place = .bare && endsWord c then return []
      else
        advance 1
        return join (.text [c] quoted) (← pieces fuel place)

/-- The piece that a dollar sign begins, which has been read. -/
def expansion : (fuel : Nat) → (quoted : Bool) → Reader Piece
  | 0, _ => failure
  | fuel + 1, quoted => do
    match (← get).rest with
    | '(' :: '(' :: _ =>
      advance 2
      return .sum (← pieces fuel (.sum 0)) quoted
    | '(' :: _ =>
      advance 1
      let body ← sequence fuel
      match ← upcoming with
      | ')' :: _ => advance 1
      | _ => failure
      return .output body quoted
    | '{' :: '#' :: '}' :: _ =>
      advance 3
      return .parameter ['#'] .value [] quoted
    | '{' :: rest =>
      let measured := match rest with
        | '#' :: rest => match name? rest with
          | some (name, '}' :: left) => some (name, left)
          | _ => none
        | _ => none
      match measured with
      | some (name, left) =>
        resume left
        return .parameter name .length [] quoted
      | none => match name? rest with
        | some (name, '}' :: left) =>
          resume left
          return .parameter name .value [] quoted
        | some (name, left) =>
          let (use, left) := useOf left
          resume left
          let place := match use with
            | .cut _ _ => Place.braces false
            | _ => .braces quoted
          return .parameter name use (← pieces fuel place) quoted
        | none =>
          resume rest
          return .parameter [] .invalid (← pieces fuel (.braces quoted)) quoted
    | c :: rest =>
      if isSpecial c || c.isDigit then
        advance 1
        return .parameter [c] .value [] quoted
      else match name? (c :: rest) with
        | some (name, left) =>
          resume left
          return .parameter name .value [] quoted
        | none => return .text ['$'] quoted
    | [] => return .text ['$'] quoted

/-- The texts of the documents that the line before has announced. -/
def announced : (fuel : Nat) → Reader Unit
  | 0 => failure
  | fuel + 1 => do
    let input ← get
    match input.awaited with
    | [] => return
    | document :: awaited =>
      let (text, left) := documentLines document.ending document.outdented (input.rest.splitOn '\n')
      let left := ['\n'].intercalate left
      if document.literal then
        let word : Word := [.text text true]
        set { input with
          rest := left, awaited, documents := input.documents ++ [(document.number, word)] }
      else
        set { input with rest := text, awaited := [] }
        let word ← pieces fuel .document
        let inner ← get
        set { inner with
          rest := left, awaited, documents := inner.documents ++ [(document.number, word)] }
      announced fuel

/-- Passes over the ends of lines. -/
def skipLines : (fuel : Nat) → Reader Unit
  | 0 => failure
  | fuel + 1 => do
    match ← upcoming with
    | '\n' :: _ =>
      advance 1
      announced fuel
      skipLines fuel
    | _ => return

/-- A word, which must be there. -/
def word : (fuel : Nat) → Reader Word
  | 0 => failure
  | fuel + 1 => do
    match ← upcoming with
    | [] => failure
    | c :: _ => if endsWord c then failure else pieces fuel .bare

/-- A redirection, if one comes next. -/
def redirect? : (fuel : Nat) → Reader (Option Redirect)
  | 0 => failure
  | fuel + 1 => do
    match channel? (← upcoming) with
    | none => return none
    | some (channel, rest) =>
      let open_ (default count : Nat) (opening : Opening) : Reader (Option Redirect) := do
        resume (rest.drop count)
        return some (.file (channel.getD default) opening (← word fuel))
      match rest with
      | '<' :: '<' :: rest =>
        let outdented := rest.head? = some '-'
        resume (if outdented then rest.drop 1 else rest)
        match plain? (← word fuel) with
        | none => failure
        | some (ending, literal) =>
          let input ← get
          let announcement : Announcement := ⟨input.next, ending, literal, outdented⟩
          set { input with next := input.next + 1, awaited := input.awaited ++ [announcement] }
          return some (.document (channel.getD 0) input.next)
      | '<' :: '&' :: _ => open_ 0 2 .duplicate
      | '<' :: '>' :: _ => open_ 0 2 .readWrite
      | '<' :: _ => open_ 0 1 .read
      | '>' :: '>' :: _ => open_ 1 2 .append
      | '>' :: '&' :: _ => open_ 1 2 .duplicate
      | '>' :: '|' :: _ => open_ 1 2 .write
      | _ => open_ 1 1 .write

def redirects : (fuel : Nat) → Reader (List Redirect)
  | 0 => failure
  | fuel + 1 => do
    match ← redirect? fuel with
    | none => return []
    | some redirect => return redirect :: (← redirects fuel)

/-- The rest of a simple statement. -/
def simple : (fuel : Nat) → List (Letters × Word) → List Word → List Redirect → Reader Statement
  | 0, _, _, _ => failure
  | fuel + 1, assignments, words, redirects => do
    match ← redirect? fuel with
    | some redirect => simple fuel assignments words (redirects ++ [redirect])
    | none =>
      let rest ← upcoming
      if rest.head?.all endsWord then
        if assignments.isEmpty && words.isEmpty && redirects.isEmpty then failure
        else return .simple assignments words redirects
      else
        let next ← word fuel
        match if words.isEmpty then assignment? next else none with
        | some assignment => simple fuel (assignments ++ [assignment]) words redirects
        | none => simple fuel assignments (words ++ [next]) redirects

/-- The words up to the end of a line or a semicolon. -/
def words : (fuel : Nat) → Reader (List Word)
  | 0 => failure
  | fuel + 1 => do
    if (← upcoming).head?.all endsWord then return []
    else
      let next ← word fuel
      return next :: (← words fuel)

/-- The patterns of a case up to the closing parenthesis. -/
def patterns : (fuel : Nat) → Reader (List Word)
  | 0 => failure
  | fuel + 1 => do
    let next ← word fuel
    match ← upcoming with
    | '|' :: _ =>
      advance 1
      return next :: (← patterns fuel)
    | ')' :: _ =>
      advance 1
      return [next]
    | _ => failure

/-- The cases of a choice with the word that closes them. -/
def cases : (fuel : Nat) → Reader (List (List Word × Statement))
  | 0 => failure
  | fuel + 1 => do
    skipLines fuel
    match after? "esac" (← upcoming) with
    | some rest =>
      resume rest
      return []
    | none =>
      if (← upcoming).head? = some '(' then advance 1
      let patterns ← patterns fuel
      let body ← sequence fuel
      match ← upcoming with
      | ';' :: ';' :: _ =>
        advance 2
        return (patterns, body) :: (← cases fuel)
      | _ =>
        expect "esac"
        return [(patterns, body)]

/-- What follows the test of a branch, up to the word that closes it. -/
def branches : (fuel : Nat) → Reader Statement
  | 0 => failure
  | fuel + 1 => do
    let test ← block fuel
    expect "then"
    let body ← block fuel
    match reserved? (← upcoming) with
    | some "elif" =>
      advance 4
      return .branch test body (← branches fuel)
    | some "else" =>
      advance 4
      let otherwise ← block fuel
      expect "fi"
      return .branch test body otherwise
    | _ =>
      expect "fi"
      return .branch test body .nothing

/-- A statement that is made of others, or a simple one. -/
def statement : (fuel : Nat) → Reader Statement
  | 0 => failure
  | fuel + 1 => do
    let text ← upcoming
    let repeated (negated : Bool) : Reader Statement := do
      advance 5
      let test ← block fuel
      expect "do"
      let body ← block fuel
      expect "done"
      return .loop negated test body
    let compound : Reader (Option Statement) := do
      match reserved? text with
      | some "if" =>
        advance 2
        return some (← branches fuel)
      | some "while" => return some (← repeated false)
      | some "until" => return some (← repeated true)
      | some "for" =>
        advance 3
        let name := (← upcoming).takeWhile fun c => !endsWord c
        if !isName name then failure
        advance name.length
        skipLines fuel
        let words ← match after? "in" (← upcoming) with
          | some rest =>
            resume rest
            some <$> words fuel
          | none => pure none
        if (← upcoming).head? = some ';' then advance 1
        skipLines fuel
        expect "do"
        let body ← block fuel
        expect "done"
        return some (.each name words body)
      | some "case" =>
        advance 4
        let word ← word fuel
        skipLines fuel
        expect "in"
        return some (.choice word (← cases fuel))
      | some "\x7b" =>
        advance 1
        let body ← block fuel
        expect "\x7d"
        return some body
      | some _ => failure
      | none =>
        match text with
        | '(' :: _ =>
          advance 1
          let body ← block fuel
          match ← upcoming with
          | ')' :: _ => advance 1
          | _ => failure
          return some (.subshell body)
        | _ => return none
    match ← compound with
    | some body =>
      let redirects ← redirects fuel
      return if redirects.isEmpty then body else .redirected body redirects
    | none => match defined? text with
      | some (name, rest) =>
        resume rest
        skipLines fuel
        return .definition name (← statement fuel)
      | none => simple fuel [] [] []

/-- Statements with pipes between them. -/
def stages : (fuel : Nat) → Reader (List Statement)
  | 0 => failure
  | fuel + 1 => do
    let first ← statement fuel
    match ← upcoming with
    | '|' :: '|' :: _ => return [first]
    | '|' :: _ =>
      advance 1
      skipLines fuel
      return first :: (← stages fuel)
    | _ => return [first]

def pipeline : (fuel : Nat) → Reader Statement
  | 0 => failure
  | fuel + 1 => do
    match after? "!" (← upcoming) with
    | some rest =>
      resume rest
      return .negation (joined (← stages fuel))
    | none => return joined (← stages fuel)

/-- The pipelines that are linked to one before them. -/
def linked : (fuel : Nat) → Statement → Reader Statement
  | 0, _ => failure
  | fuel + 1, first => do
    match ← upcoming with
    | '&' :: '&' :: _ =>
      advance 2
      skipLines fuel
      linked fuel (.both first (← pipeline fuel))
    | '|' :: '|' :: _ =>
      advance 2
      skipLines fuel
      linked fuel (.either first (← pipeline fuel))
    | _ => return first

/-- The statements of a line. -/
def line : (fuel : Nat) → Reader (List Statement)
  | 0 => failure
  | fuel + 1 => do
    let first ← linked fuel (← pipeline fuel)
    let rest ← upcoming
    let first := match rest with
      | '&' :: _ => .background first
      | _ => first
    match rest with
    | ';' :: ';' :: _ => return [first]
    | ';' :: _ | '&' :: _ =>
      advance 1
      let rest ← upcoming
      let isOver := match rest with
        | c :: _ => c = '\n' || c = ')' || c = ';'
        | [] => true
      let closes := match reserved? rest with
        | some word => ["then", "elif", "else", "fi", "do", "done", "esac", "\x7d"].contains word
        | none => false
      if isOver || closes then return [first] else return first :: (← line fuel)
    | _ => return [first]

/-- The statements up to something that none begins with. -/
def sequence : (fuel : Nat) → Reader Statement
  | 0 => failure
  | fuel + 1 => do
    skipLines fuel
    let rest ← upcoming
    let isOver := match rest with
      | c :: _ => c = ')' || c = ';'
      | [] => true
    let closes := match reserved? rest with
      | some word => ["then", "elif", "else", "fi", "do", "done", "esac", "\x7d"].contains word
      | none => false
    if isOver || closes then return .nothing
    else
      let first ← line fuel
      match ← sequence fuel with
      | .sequence more => return .sequence (first ++ more)
      | other => return .sequence (first ++ [other])

/-- The statements up to something that none begins with; there is at least one. -/
def block : (fuel : Nat) → Reader Statement
  | 0 => failure
  | fuel + 1 => do
    match ← sequence fuel with
    | .sequence [] => failure
    | body => return body

/-- All statements to the end. -/
def script : (fuel : Nat) → Reader (List Statement)
  | 0 => failure
  | fuel + 1 => do
    match ← sequence fuel, ← upcoming with
    | .sequence statements, [] => return statements
    | _, _ => failure

end

/-- The lines of a script from where the input stands. -/
def program : (fuel : Nat) → Input → Program
  | 0, input => { documents := input.documents, broken := true }
  | fuel + 1, input =>
    match (skipLines (fuel + 1)).run input with
    | none => { documents := input.documents, broken := true }
    | some (_, input) =>
      if input.rest.isEmpty then { documents := input.documents }
      else
        let step : Reader (List Statement) := do
          let statements ← line (fuel + 1)
          match ← upcoming with
          | [] | '\n' :: _ => return statements
          | _ => failure
        match step.run input with
        | none => { documents := input.documents, broken := true }
        | some (statements, input) =>
          let more := program fuel input
          { more with lines := .sequence statements :: more.lines }

end Reader

/-- Reads a script whose documents are numbered from `next` on. -/
def Program.ofLetters (text : Letters) (next : Nat) : Program :=
  Reader.program (16 * text.length + 64) { rest := text, next }

end SignerPlugin.Script
