import SignerPlugin.Json.Reader
import SignerPlugin.Json.Writer

/-! Reading undoes writing. A reader finds each part of a tree at the front of its text,
whatever comes behind it: first strings, then numbers, then containers by induction on the
depth left for them. -/

namespace SignerPlugin.Json

open Text (CodePoint CodeText)

theorem hexValue?_hexDigit : ∀ n < 16, hexValue? (hexDigit n) = some n := by decide

private theorem readCodes_plain {start rest after : List Char} {c : Char} {text : CodeText}
    (noQuote : c ≠ '"') (noSlash : c ≠ '\\') (shown : 32 ≤ c.toNat)
    (found : readCodes start rest = .ok (text, after)) :
    readCodes start (c :: rest) = .ok (.char c :: text, after) := by
  rw [readCodes.eq_def]
  split
  · simp_all
  · simp_all
  · simp_all
  · simp_all
  · simp_all
  · simp_all
  · rename_i same
    cases same
    rw [if_neg (by omega), found]
    rfl

private theorem readCodes_short {start rest after : List Char} {letter c : Char} {text : CodeText}
    (known : unescape? letter = some c) (found : readCodes start rest = .ok (text, after)) :
    readCodes start ('\\' :: letter :: rest) = .ok (.char c :: text, after) := by
  have noCode : letter ≠ 'u' := by
    rintro rfl
    simp [unescape?] at known
  rw [readCodes.eq_def]
  split
  · simp_all
  · simp_all
  · simp_all
  · simp_all
  · simp_all
  · rename_i same
    cases same
    simp only [known, found]
    rfl
  · rename_i noEscape same
    cases same
    exact absurd rfl (noEscape letter rest rfl)

private theorem hexQuad?_control {n : Nat} (small : n < 32) :
    hexQuad? '0' '0' (hexDigit (n / 16)) (hexDigit (n % 16)) = some n := by
  have high := hexValue?_hexDigit (n / 16) (by omega)
  have low := hexValue?_hexDigit (n % 16) (by omega)
  have zero : hexValue? '0' = some 0 := by decide
  simp only [hexQuad?, zero, high, low]
  congr 1
  omega

private theorem readCodes_control {start rest after : List Char} {c : Char} {text : CodeText}
    (control : c.toNat < 32) (more : rest ≠ [])
    (found : readCodes start rest = .ok (text, after)) :
    readCodes start
        ('\\' :: 'u' :: '0' :: '0' :: hexDigit (c.toNat / 16) :: hexDigit (c.toNat % 16) :: rest) =
      .ok (.char c :: text, after) := by
  have code : escapeCode? '0' '0' (hexDigit (c.toNat / 16)) (hexDigit (c.toNat % 16)) rest =
      some c.toNat := by
    rw [escapeCode?, if_neg (by simpa using more), hexQuad?_control control]
  have single : isHighSurrogate c.toNat = false := by
    simp only [isHighSurrogate, Bool.and_eq_false_iff, decide_eq_false_iff_not]
    omega
  have point : CodePoint.ofNat? c.toNat = some (.char c) := CodePoint.ofNat?_toNat_char c
  rw [readCodes.eq_def]
  simp only [code]
  split
  · rename_i pair
    simp [single] at pair
  · rw [found, point]
    rfl

private theorem readCodes_escape {start rest after : List Char} {text : CodeText} (c : Char)
    (more : rest ≠ []) (found : readCodes start rest = .ok (text, after)) :
    readCodes start (escape c ++ rest) = .ok (.char c :: text, after) := by
  have short {letter : Char} (same : unescape? letter = some c) :
      readCodes start (['\\', letter] ++ rest) = .ok (.char c :: text, after) :=
    readCodes_short same found
  unfold escape
  split
  · exact short (by subst c; decide)
  split
  · exact short (by subst c; decide)
  split
  · exact short (by subst c; decide)
  split
  · exact short (by subst c; decide)
  split
  · exact short (by subst c; decide)
  split
  · exact short (by subst c; decide)
  split
  · exact short (by subst c; decide)
  split
  · rename_i control
    exact readCodes_control control more found
  · rename_i noQuote noSlash _ _ _ _ _ shown
    exact readCodes_plain noQuote noSlash (by omega) found

private theorem readCodes_escaped (start rest : List Char) (text : List Char) :
    readCodes start (text.flatMap escape ++ '"' :: rest) = .ok (CodeText.ofChars text, rest) := by
  induction text with
  | nil => simp [readCodes, CodeText.ofChars]
  | cons c text ih =>
    rw [List.flatMap_cons, List.append_assoc, readCodes_escape c (by simp) ih]
    rfl

private theorem digitsValue_eq (digits : List Char) :
    digitsValue digits = Nat.ofDigitChars 10 digits 0 := by
  rw [Nat.ofDigitChars_eq_foldl]
  simp only [digitsValue, Nat.mul_comm]
  rfl

theorem digitsValue_toDigits (n : Nat) : digitsValue (Nat.toDigits 10 n) = n := by
  rw [digitsValue_eq, Nat.ofDigitChars_ten_toDigits]

private theorem toDigits_head (n : Nat) (positive : 0 < n) :
    ∃ c rest, Nat.toDigits 10 n = c :: rest ∧ c ≠ '0' := by
  induction n using Nat.strongRecOn with
  | ind n ih =>
    by_cases small : n < 10
    · refine ⟨n.digitChar, [], Nat.toDigits_of_lt_base small, ?_⟩
      have : ∀ n < 10, 0 < n → n.digitChar ≠ '0' := by decide
      exact this n small positive
    · obtain ⟨c, rest, digits, nonzero⟩ := ih (n / 10) (by omega) (by omega)
      refine ⟨c, rest ++ [(n % 10).digitChar], ?_, nonzero⟩
      rw [Nat.toDigits_of_base_le (by decide) (by omega), digits]
      rfl

/-- What may follow a value: nothing, or a sign that ends an item or a container. -/
def Ends (rest : List Char) : Prop := ∀ c ∈ rest.head?, c = ',' ∨ c = ']' ∨ c = '}'

private theorem takeWhile_digits {digits rest : List Char} (all : ∀ c ∈ digits, c.isDigit)
    (ends : Ends rest) :
    (digits ++ rest).takeWhile Char.isDigit = digits := by
  have stops : rest.takeWhile Char.isDigit = [] := by
    cases rest with
    | nil => rfl
    | cons c rest => rcases ends c rfl with rfl | rfl | rfl <;> rfl
  rw [List.takeWhile_append_of_pos all, stops, List.append_nil]

private theorem Ends.no_fraction {rest : List Char} (ends : Ends rest) :
    readFraction rest = ([], rest) := by
  cases rest with
  | nil => rfl
  | cons c rest => rcases ends c rfl with rfl | rfl | rfl <;> rfl

private theorem Ends.no_exponent {rest : List Char} (ends : Ends rest) :
    readExponent rest = (none, rest) := by
  cases rest with
  | nil => rfl
  | cons c rest => rcases ends c rfl with rfl | rfl | rfl <;> rfl

theorem isDigit_toDigits {n : Nat} {c : Char} (member : c ∈ Nat.toDigits 10 n) : c.isDigit :=
  Nat.isDigit_of_mem_toDigits (by decide) (by decide) member

section Numbers

variable {τ : Type} (policy : Policy τ)

theorem wholeDigits_toDigits {rest : List Char} (n : Nat) (ends : Ends rest) :
    wholeDigits (Nat.toDigits 10 n ++ rest) = Nat.toDigits 10 n := by
  rcases Nat.eq_zero_or_pos n with rfl | positive
  · rfl
  · obtain ⟨c, tail, digits, nonzero⟩ := toDigits_head n positive
    unfold wholeDigits
    split
    · rename_i same
      rw [digits] at same
      exact absurd (List.cons.inj same).1 nonzero
    · exact takeWhile_digits (fun _ => isDigit_toDigits) ends

private theorem readNumber_toDigits {start rest : List Char} {negative : Bool} (n : Nat)
    (ends : Ends rest)
    (short : (Nat.toDigits 10 n).length + (if policy.strictLength && negative then 1 else 0) ≤
    maxDigits) :
    readNumber policy start negative (Nat.toDigits 10 n ++ rest) =
      .ok (.int (if negative then -(n : Int) else n), rest) := by
  have some_digit : (Nat.toDigits 10 n).isEmpty = false := by simp
  simp only [readNumber, wholeDigits_toDigits n ends, some_digit, List.drop_left,
    ends.no_fraction, ends.no_exponent, List.append_nil, digitsValue_toDigits,
    Option.isNone_none, List.isEmpty_nil, Bool.and_self, Bool.or_true, Bool.true_and,
    decide_eq_true_eq, Bool.false_eq_true, ↓reduceIte]
  rw [if_neg (Nat.not_lt.mpr short)]

theorem afterWord?_eq_none {word : String} {letter c : Char} {letters rest : List Char}
    (spelled : word.toList = letter :: letters) (other : letter ≠ c) :
    afterWord? word (c :: rest) = none := by
  simp [afterWord?, spelled, other]

private theorem readPlain_number {c : Char} {rest : List Char} (digit : c.isDigit) :
    readPlain policy (c :: rest) = readNumber policy (c :: rest) false (c :: rest) := by
  have other {letter : Char} (noDigit : letter.isDigit = false) : letter ≠ c := by
    rintro rfl
    simp [noDigit] at digit
  unfold readPlain
  rw [afterWord?_eq_none rfl (other rfl), afterWord?_eq_none rfl (other rfl),
    afterWord?_eq_none rfl (other rfl), afterWord?_eq_none rfl (other rfl),
    afterWord?_eq_none rfl (other rfl), afterWord?_eq_none rfl (other rfl)]
  simp only
  split
  · rename_i same
    exact absurd (List.cons.inj same).1.symm (other rfl)
  · rfl

private theorem readPlain_negative {c : Char} {rest : List Char} (digit : c.isDigit) :
    readPlain policy ('-' :: c :: rest) = readNumber policy ('-' :: c :: rest) true
      (c :: rest) := by
  have other : 'I' ≠ c := by
    rintro rfl
    simp at digit
  have infinity : afterWord? "-Infinity" ('-' :: c :: rest) = none := by
    simp [afterWord?, other]
  unfold readPlain
  rw [afterWord?_eq_none rfl (by decide), afterWord?_eq_none rfl (by decide),
    afterWord?_eq_none rfl (by decide), afterWord?_eq_none rfl (by decide),
    afterWord?_eq_none rfl (by decide), infinity]
  rfl

theorem toList_toString (n : Int) :
    (toString n).toList = (if n < 0 then ['-'] else []) ++ Nat.toDigits 10 n.natAbs := by
  cases n with
  | ofNat n => exact Nat.toList_repr
  | negSucc n =>
    have digits : (toString (Int.negSucc n)).toList = '-' :: (n + 1).repr.toList :=
      String.toList_append
    rw [digits, Nat.toList_repr, if_pos (Int.negSucc_lt_zero n)]
    rfl

theorem length_toString (n : Int) :
    (toString n).length = (Nat.toDigits 10 n.natAbs).length + (if n < 0 then 1 else 0) := by
  rw [← String.length_toList, toList_toString, List.length_append, Nat.add_comm]
  split <;> rfl

/-- The text of an integer is read as its sign and its digits. -/
theorem readPlain_toString (n : Int) (rest : List Char) :
    readPlain policy ((toString n).toList ++ rest) =
      readNumber policy ((toString n).toList ++ rest) (decide (n < 0))
        (Nat.toDigits 10 n.natAbs ++ rest) := by
  obtain ⟨c, tail, same⟩ :=
    List.exists_cons_of_ne_nil (Nat.toDigits_ne_nil (n := n.natAbs) (b := 10))
  have digit : c.isDigit := isDigit_toDigits (n := n.natAbs) (by simp [same])
  rw [toList_toString, same]
  by_cases negative : n < 0
  · simp only [negative, if_true, decide_true, List.cons_append, List.nil_append,
      readPlain_negative policy digit]
  · simp only [negative, if_false, decide_false, List.cons_append, List.nil_append,
      readPlain_number policy digit]

private theorem readPlain_int {rest : List Char} (n : Int) (ends : Ends rest)
    (short : (toString n).length ≤ maxDigits) :
    readPlain policy ((toString n).toList ++ rest) = .ok (.int n, rest) := by
  rw [length_toString] at short
  have fits : (Nat.toDigits 10 n.natAbs).length +
      (if policy.strictLength && decide (n < 0) then 1 else 0) ≤ maxDigits := by
    refine Nat.le_trans (Nat.add_le_add_left ?_ _) short
    cases policy.strictLength <;> simp
  have value : (if decide (n < 0) then -(n.natAbs : Int) else n.natAbs) = n := by
    simp only [decide_eq_true_eq]
    split <;> omega
  rw [readPlain_toString, readNumber_toDigits policy n.natAbs ends fits, value]

end Numbers

/-- A tree that its text keeps: its integers are not too long, its containers not too deep,
and nulls stand in it only if they may. -/
def Legible (nulls : Bool) : (depth : Nat) → Json → Prop
  | _, .null => nulls
  | _, .bool _ => True
  | _, .str _ => True
  | _, .int n => (toString n).length ≤ maxDigits
  | depth + 1, .arr items => ∀ item ∈ items, Legible nulls depth item
  | depth + 1, .obj members => ∀ member ∈ members, Legible nulls depth member.2
  | 0, .arr items => items = []
  | 0, .obj members => members = []
  | _, _ => False

/-- A first character that no reader passes over or takes for the end of a container. -/
def Begins (c : Char) : Prop := isBlank c = false ∧ c ≠ ']' ∧ c ≠ '\uFEFF'

instance (c : Char) : Decidable (Begins c) := by unfold Begins; infer_instance

private theorem Begins.of_isDigit {c : Char} (digit : c.isDigit) : Begins c := by
  have other (letter : Char) (noDigit : letter.isDigit = false) : c ≠ letter := by
    rintro rfl
    simp [noDigit] at digit
  simp [Begins, isBlank, other ' ' rfl, other '\t' rfl, other '\n' rfl, other '\r' rfl,
    other ']' rfl, other '\uFEFF' rfl]

theorem toString_begins (n : Int) : ∃ c tail, (toString n).toList = c :: tail ∧
    (c = '-' ∨ c.isDigit) := by
  cases n with
  | ofNat n =>
    have digits : (toString (Int.ofNat n)).toList = Nat.toDigits 10 n := Nat.toList_repr
    obtain ⟨c, tail, same⟩ := List.exists_cons_of_ne_nil (Nat.toDigits_ne_nil (n := n) (b := 10))
    exact ⟨c, tail, digits.trans same, .inr (isDigit_toDigits (n := n) (by simp [same]))⟩
  | negSucc n => exact ⟨'-', (n + 1).repr.toList, String.toList_append, .inl rfl⟩

theorem chars_begins (tree : Json) : ∃ c tail, chars tree = c :: tail ∧ Begins c := by
  have number (n : Int) (rest : List Char) : ∃ c tail, (toString n).toList ++ rest = c :: tail ∧
      Begins c := by
    obtain ⟨c, tail, same, sign | digit⟩ := toString_begins n
    · exact ⟨c, tail ++ rest, by rw [same, List.cons_append], by subst c; decide⟩
    · exact ⟨c, tail ++ rest, by rw [same, List.cons_append], .of_isDigit digit⟩
  cases tree with
  | null => exact ⟨_, _, rfl, by decide⟩
  | bool value => cases value <;> exact ⟨_, _, rfl, by decide⟩
  | int n => simpa only [chars, List.append_nil] using number n []
  | decimal mantissa exponent => exact number mantissa _
  | nan => exact ⟨_, _, rfl, by decide⟩
  | infinite negative => cases negative <;> exact ⟨_, _, rfl, by decide⟩
  | str text => exact ⟨_, _, rfl, by decide⟩
  | arr items => cases items <;> exact ⟨_, _, rfl, by decide⟩
  | obj members => cases members <;> exact ⟨_, _, rfl, by decide⟩

private theorem skipBlanks_cons {c : Char} (begins : Begins c) (rest : List Char) :
    skipBlanks (c :: rest) = c :: rest := by
  simp [skipBlanks, begins.1]

theorem skipBlanks_chars (tree : Json) (rest : List Char) :
    skipBlanks (chars tree ++ rest) = chars tree ++ rest := by
  obtain ⟨c, tail, same, begins⟩ := chars_begins tree
  rw [same, List.cons_append, skipBlanks_cons begins]

theorem ends_itemChars (items : List Json) (rest : List Char) : Ends (itemChars items ++ rest) := by
  cases items <;> simp [Ends, itemChars]

theorem ends_memberChars (members : Members) (rest : List Char) :
    Ends (memberChars members ++ rest) := by
  cases members <;> simp [Ends, memberChars]

variable {policy : Policy String} {nulls : Bool} {depth : Nat}

theorem readText_escaped (texts : ∀ text, policy.text? (.ofString text) = some text)
    (start rest : List Char) (text : String) :
    readText policy start (text.toList.flatMap escape ++ '"' :: rest) = .ok (text, rest) := by
  simp only [readText, readCodes_escaped, bind, Except.bind]
  rw [show CodeText.ofChars text.toList = .ofString text from rfl, texts]

/-- A reader finds a tree at the front of its text, whatever ends it. -/
def Found (policy : Policy String) (depth : Nat) (tree : Json) : Prop :=
  ∀ fuel rest, 2 * (chars tree).length ≤ fuel → Ends rest →
    readValue policy fuel depth (chars tree ++ rest) = .ok (tree, rest)

/-- Behind an item that is found, the reading goes on with the next one. -/
theorem readItems_next {item : Json} {fuel : Nat} (found : Found policy depth item)
    (enough : 2 * (chars item).length ≤ fuel) (next : Json) (items : List Json) (rest : List Char) :
    readItems policy (fuel + 1) depth (chars item ++ (itemChars (next :: items) ++ rest)) =
      (readItems policy fuel depth (chars next ++ (itemChars items ++ rest))).map
        fun (read, rest) => (item :: read, rest) := by
  have comma : skipBlanks (itemChars (next :: items) ++ rest) =
      ',' :: (chars next ++ (itemChars items ++ rest)) := by
    simp [itemChars, skipBlanks, isBlank]
  simp only [readItems, found fuel _ enough (ends_itemChars (next :: items) rest), bind,
    Except.bind, comma, skipBlanks_chars]
  cases readItems policy fuel depth (chars next ++ (itemChars items ++ rest)) <;> rfl

private theorem readItems_chars {items : List Json}
    (found : ∀ item ∈ items, Found policy depth item) :
    ∀ item fuel rest, Found policy depth item →
      2 * (chars item ++ itemChars items).length ≤ fuel + 1 →
      readItems policy fuel depth (chars item ++ (itemChars items ++ rest)) =
        .ok (item :: items, rest) := by
  induction items with
  | nil =>
    intro item fuel rest first enough
    simp only [itemChars, List.length_append, List.length_cons, List.length_nil] at enough
    obtain ⟨fuel, rfl⟩ : ∃ less, fuel = less + 1 := ⟨fuel - 1, by omega⟩
    simp only [readItems, first fuel _ (by omega) (ends_itemChars [] rest), bind, Except.bind]
    rfl
  | cons next items ih =>
    intro item fuel rest first enough
    simp only [itemChars, List.length_append, List.length_cons] at enough
    obtain ⟨fuel, rfl⟩ : ∃ less, fuel = less + 1 := ⟨fuel - 1, by omega⟩
    have tail := ih (fun x member => found x (List.mem_cons_of_mem next member)) next fuel rest
        (found next (by simp))
      (by simp only [List.length_append]; omega)
    rw [readItems_next first (by omega), tail]
    rfl

/-- Behind a member whose value is found, the reading goes on with the next one. -/
theorem readMembers_next (texts : ∀ text, policy.text? (.ofString text) = some text)
    {member : String × Json} {fuel : Nat} (found : Found policy depth member.2)
    (enough : 2 * (chars member.2).length ≤ fuel) (next : String × Json) (members : Members)
    (rest : List Char) :
    readMembers policy (fuel + 1) depth
        (quote member.1 ++ ':' :: (chars member.2 ++ (memberChars (next :: members) ++ rest))) =
      (readMembers policy fuel depth
        (quote next.1 ++ ':' :: (chars next.2 ++ (memberChars members ++ rest)))).map
        fun (read, rest) => (member :: read, rest) := by
  have colon (tail : List Char) : skipBlanks (':' :: tail) = ':' :: tail := rfl
  have comma : skipBlanks (memberChars (next :: members) ++ rest) =
      ',' :: (quote next.1 ++ ':' :: (chars next.2 ++ (memberChars members ++ rest))) := by
    simp [memberChars, skipBlanks, isBlank]
  have mark : skipBlanks (quote next.1 ++ ':' :: (chars next.2 ++ (memberChars members ++ rest))) =
      quote next.1 ++ ':' :: (chars next.2 ++ (memberChars members ++ rest)) := rfl
  rw [quote, List.cons_append, List.append_assoc]
  simp only [List.cons_append, List.nil_append, readMembers, readText_escaped texts, bind,
    Except.bind, colon, skipBlanks_chars,
    found fuel _ enough (ends_memberChars (next :: members) rest), comma, mark]
  cases readMembers policy fuel depth
    (quote next.1 ++ ':' :: (chars next.2 ++ (memberChars members ++ rest))) <;> rfl

private theorem readMembers_chars (texts : ∀ text, policy.text? (.ofString text) = some text)
    {members : Members} (found : ∀ member ∈ members, Found policy depth member.2) :
    ∀ member fuel rest, Found policy depth member.2 →
      2 * (quote member.1 ++ ':' :: (chars member.2 ++ memberChars members)).length ≤ fuel + 1 →
      readMembers policy fuel depth
        (quote member.1 ++ ':' :: (chars member.2 ++ (memberChars members ++ rest))) =
        .ok (member :: members, rest) := by
  induction members with
  | nil =>
    intro member fuel rest first enough
    simp only [quote, memberChars, List.length_append, List.length_cons, List.length_nil] at enough
    obtain ⟨fuel, rfl⟩ : ∃ less, fuel = less + 1 := ⟨fuel - 1, by omega⟩
    have colon (tail : List Char) : skipBlanks (':' :: tail) = ':' :: tail := rfl
    simp only [quote, List.cons_append, List.append_assoc, List.nil_append, readMembers,
      readText_escaped texts, bind, Except.bind, colon, skipBlanks_chars,
        first fuel _ (by omega) (ends_memberChars [] rest)]
    rfl
  | cons next members ih =>
    intro member fuel rest first enough
    simp only [quote, memberChars, List.length_append, List.length_cons] at enough
    obtain ⟨fuel, rfl⟩ : ∃ less, fuel = less + 1 := ⟨fuel - 1, by omega⟩
    have tail := ih (fun x other => found x (List.mem_cons_of_mem next other)) next fuel rest
        (found next (by simp))
      (by simp only [quote, List.length_append, List.length_cons]; omega)
    rw [readMembers_next texts first (by omega), tail]
    rfl

theorem readValue_plain {input : List Char} {fuel : Nat} (enough : 0 < fuel)
    (noText : input.head? ≠ some '"') (noArray : input.head? ≠ some '[')
    (noObject : input.head? ≠ some '{') :
    readValue policy fuel depth input = readPlain policy input := by
  obtain ⟨fuel, rfl⟩ : ∃ less, fuel = less + 1 := ⟨fuel - 1, by omega⟩
  rw [readValue]
  · intro tail same
    simp [same] at noText
  · intro tail same
    simp [same] at noArray
  · intro tail same
    simp [same] at noObject

theorem readValue_int {fuel : Nat} (enough : 0 < fuel) (n : Int) (rest : List Char) :
    readValue policy fuel depth (chars (.int n) ++ rest) =
      readPlain policy ((toString n).toList ++ rest) := by
  obtain ⟨c, tail, same, start⟩ := toString_begins n
  have other (letter : Char) (noSign : letter ≠ '-') (noDigit : letter.isDigit = false) :
      (chars (.int n) ++ rest).head? ≠ some letter := by
    simp only [chars, same, List.cons_append, List.head?_cons, ne_eq, Option.some.injEq]
    rintro rfl
    rcases start with sign | digit
    · exact noSign sign
    · simp [noDigit] at digit
  exact readValue_plain enough (other _ (by decide) rfl) (other _ (by decide) rfl)
    (other _ (by decide) rfl)

theorem found_scalar (texts : ∀ text, policy.text? (.ofString text) = some text) {tree : Json}
    (legible : Legible nulls 0 tree) : Found policy depth tree := by
  intro fuel rest enough ends
  have positive : 0 < fuel := by
    obtain ⟨c, tail, same, _⟩ := chars_begins tree
    simp only [same, List.length_cons] at enough
    omega
  cases tree with
  | null => exact readValue_plain positive (by simp [chars]) (by simp [chars]) (by simp [chars])
  | bool value =>
    cases value <;> exact readValue_plain positive (by simp [chars]) (by simp [chars])
      (by simp [chars])
  | int n => rw [readValue_int positive, readPlain_int policy n ends legible]
  | str text =>
    obtain ⟨fuel, rfl⟩ : ∃ less, fuel = less + 1 := ⟨fuel - 1, by omega⟩
    simp only [chars, quote, List.cons_append, List.append_assoc, List.nil_append, readValue,
      readText_escaped texts, bind, Except.bind]
  | arr items =>
    obtain ⟨fuel, rfl⟩ : ∃ less, fuel = less + 1 := ⟨fuel - 1, by omega⟩
    obtain rfl : items = [] := legible
    rfl
  | obj members =>
    obtain ⟨fuel, rfl⟩ : ∃ less, fuel = less + 1 := ⟨fuel - 1, by omega⟩
    obtain rfl : members = [] := legible
    rfl
  | decimal _ _ => exact legible.elim
  | nan => exact legible.elim
  | infinite _ => exact legible.elim

theorem readValue_items (fuel depth : Nat) (item : Json) (items : List Json) (rest : List Char) :
    readValue policy (fuel + 1) (depth + 1) (chars (.arr (item :: items)) ++ rest) =
      (readItems policy fuel depth (chars item ++ (itemChars items ++ rest))).map
        fun (found, rest) => (.arr found, rest) := by
  obtain ⟨c, more, same, begins⟩ := chars_begins item
  have start := skipBlanks_chars item (itemChars items ++ rest)
  simp only [chars, List.cons_append, List.append_assoc, readValue, start]
  simp only [same, List.cons_append]
  split
  · rename_i close
    exact absurd (List.cons.inj close).1 begins.2.1
  · cases readItems policy fuel depth (c :: (more ++ (itemChars items ++ rest))) <;> rfl

theorem readValue_members (fuel depth : Nat) (member : String × Json) (members : Members)
    (rest : List Char) :
    readValue policy (fuel + 1) (depth + 1) (chars (.obj (member :: members)) ++ rest) =
      (readMembers policy fuel depth
        (quote member.1 ++ ':' :: (chars member.2 ++ (memberChars members ++ rest)))).map
        fun (found, rest) => (.obj found, rest) := by
  have start : skipBlanks (quote member.1 ++ ':' ::
      (chars member.2 ++ (memberChars members ++ rest))) =
    quote member.1 ++ ':' :: (chars member.2 ++ (memberChars members ++ rest)) := rfl
  simp only [chars, List.cons_append, List.append_assoc, readValue, start]
  generalize found : readMembers policy fuel depth
    (quote member.1 ++ ':' :: (chars member.2 ++ (memberChars members ++ rest))) = outcome
  simp only [quote, List.cons_append] at found ⊢
  split
  · rename_i close
    exact absurd (List.cons.inj close).1 (by decide)
  · rw [found]
    cases outcome <;> rfl

/-- Reading undoes writing. The induction is on the depth that is left for containers. -/
theorem found_of_legible (texts : ∀ text, policy.text? (.ofString text) = some text) {tree : Json}
    (legible : Legible nulls depth tree) : Found policy depth tree := by
  induction depth generalizing tree with
  | zero => exact found_scalar texts legible
  | succ depth ih =>
    cases tree with
    | arr items =>
      cases items with
      | nil => exact @found_scalar policy nulls _ texts _ rfl
      | cons item items =>
        intro fuel rest enough ends
        simp only [chars, List.length_cons] at enough
        obtain ⟨fuel, rfl⟩ : ∃ less, fuel = less + 1 := ⟨fuel - 1, by omega⟩
        rw [readValue_items, readItems_chars
          (fun x member => ih (legible x (List.mem_cons_of_mem item member))) item fuel
          rest (ih (legible item (by simp))) (by omega)]
        rfl
    | obj members =>
      cases members with
      | nil => exact @found_scalar policy nulls _ texts _ rfl
      | cons member members =>
        intro fuel rest enough ends
        simp only [chars, List.length_cons] at enough
        obtain ⟨fuel, rfl⟩ : ∃ less, fuel = less + 1 := ⟨fuel - 1, by omega⟩
        rw [readValue_members, readMembers_chars texts
          (fun x other => ih (legible x (List.mem_cons_of_mem member other)))
          member fuel rest (ih (legible member (by simp))) (by omega)]
        rfl
    | null => exact @found_scalar policy nulls _ texts _ legible
    | bool _ => exact @found_scalar policy nulls _ texts _ legible
    | int _ => exact @found_scalar policy nulls _ texts _ legible
    | str _ => exact @found_scalar policy nulls _ texts _ legible
    | decimal _ _ => exact legible.elim
    | nan => exact legible.elim
    | infinite _ => exact legible.elim

private theorem readDocument_chars (texts : ∀ text, policy.text? (.ofString text) = some text)
    {tree : Json}
    (legible : Legible nulls policy.depth tree) : readDocument policy (chars tree) = .ok tree := by
  obtain ⟨c, tail, same, begins⟩ := chars_begins tree
  have noMark : (chars tree).head? ≠ some '\uFEFF' := by
    rw [same]
    simpa using begins.2.2
  have start := skipBlanks_chars tree []
  have found :=
    found_of_legible texts legible (2 * (chars tree).length + 1) [] (by omega) (by simp [Ends])
  rw [List.append_nil] at start found
  simp only [readDocument, noMark, if_false, start, found, bind, Except.bind]
  rfl

theorem wirePolicy_text? (text : String) : wirePolicy.text? (.ofString text) = some text := by
  simp [wirePolicy, CodeText.string?, CodeText.ofString]

/-- The text of a tree that text keeps stands for that tree. -/
theorem parse?_render {tree : Json} (legible : Legible nulls wirePolicy.depth tree) :
    parse? (Bytes.ofText (render tree)) = some tree := by
  simp only [parse?, Bytes.text?_ofText, render, String.toList_ofList,
    readDocument_chars wirePolicy_text? legible]
  rfl

end SignerPlugin.Json
