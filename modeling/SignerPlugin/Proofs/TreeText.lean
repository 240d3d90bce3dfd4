import Mathlib.Algebra.Group.Int.Defs
import Mathlib.Algebra.Group.Nat.Defs
import SignerPlugin.Message.Form
import SignerPlugin.Proofs.JsonText

/-! Trees as texts on the wire. A tree of texts, truth values, nulls and integers comes back
from its text unless an integer in it is too long for the reader, which then refuses the text.
No character below the space stands in any text, and so no null that would end an argument of
a process. -/

namespace SignerPlugin.Json

/-- Trees of nulls, truth values, integers and texts, in at most so many containers inside one
another. The members of an object have names of their own. -/
inductive Nested : (levels : Nat) → Json → Prop
  | null {levels : Nat} : Nested levels .null
  | bool {levels : Nat} (value : Bool) : Nested levels (.bool value)
  | int {levels : Nat} (n : Int) : Nested levels (.int n)
  | str {levels : Nat} (text : String) : Nested levels (.str text)
  | arr {levels : Nat} {items : List Json} (inner : ∀ item ∈ items, Nested levels item) :
      Nested (levels + 1) (.arr items)
  | obj {levels : Nat} {members : Members} (distinct : (members.map Prod.fst).Nodup)
      (inner : ∀ member ∈ members, Nested levels member.2) :
      Nested (levels + 1) (.obj members)

/-- An integer stands somewhere in a tree. -/
inductive Holds (n : Int) : Json → Prop
  | here : Holds n (.int n)
  | item {items : List Json} {item : Json} (member : item ∈ items) (inner : Holds n item) :
      Holds n (.arr items)
  | member {members : Members} {member : String × Json} (listed : member ∈ members)
      (inner : Holds n member.2) :
      Holds n (.obj members)

/-- An integer that a reader takes for too long. -/
def Overlong (n : Int) : Prop := maxDigits < (toString n).length

variable {policy : Policy String} {tree : Json} {levels depth : Nat}

/-- Such a tree is legible unless it holds an integer that is too long. -/
theorem Nested.legible (nested : Nested levels tree) (within : levels ≤ depth)
    (short : ∀ n, Holds n tree → ¬ Overlong n) :
    Legible true depth tree := by
  induction nested generalizing depth with
  | null => cases depth <;> exact rfl
  | bool value => cases depth <;> exact trivial
  | int n => cases depth <;> exact Nat.not_lt.mp (short n .here)
  | str text => cases depth <;> exact trivial
  | arr inner ih =>
    obtain ⟨depth, rfl⟩ : ∃ less, depth = less + 1 := ⟨depth - 1, by omega⟩
    exact fun item member => ih item member (by omega) fun n holds => short n (.item member holds)
  | obj distinct inner ih =>
    obtain ⟨depth, rfl⟩ : ∃ less, depth = less + 1 := ⟨depth - 1, by omega⟩
    exact fun member listed => ih member listed (by omega) fun n holds =>
      short n (.member listed holds)

section Refusal

/-- A reader that finds the text of a tree at the front stops there. -/
def Refused (policy : Policy String) (depth : Nat) (tree : Json) : Prop :=
  ∀ fuel rest, 2 * (chars tree).length ≤ fuel → Ends rest →
    ∃ stop, readValue policy fuel depth (chars tree ++ rest) = .error stop

private theorem readNumber_overlong {start rest : List Char} {negative : Bool} (n : Nat)
    (ends : Ends rest) (strict : policy.strictLength = true)
    (long : maxDigits < (Nat.toDigits 10 n).length + (if negative then 1 else 0)) :
    ∃ stop, readNumber policy start negative (Nat.toDigits 10 n ++ rest) = .error stop := by
  have some_digit : (Nat.toDigits 10 n).isEmpty = false := by simp
  simp only [readNumber, wholeDigits_toDigits n ends, some_digit, strict, Bool.true_or,
    Bool.true_and, decide_eq_true_eq, Bool.false_eq_true, if_false]
  rw [if_pos long]
  exact ⟨_, rfl⟩

private theorem refused_int (strict : policy.strictLength = true) {n : Int} (long : Overlong n) :
    Refused policy depth (.int n) := by
  intro fuel rest enough ends
  have positive : 0 < fuel := by
    obtain ⟨c, tail, same, _⟩ := chars_begins (.int n)
    simp only [same, List.length_cons] at enough
    omega
  rw [Overlong, length_toString] at long
  rw [readValue_int positive, readPlain_toString]
  exact readNumber_overlong n.natAbs ends strict (by simpa using long)

theorem readItems_of_refused {item : Json} (refused : Refused policy depth item)
    (items : List Json) (fuel : Nat) (rest : List Char)
    (enough : 2 * (chars item ++ itemChars items).length ≤ fuel + 1) :
    ∃ stop, readItems policy fuel depth (chars item ++ (itemChars items ++ rest)) =
      .error stop := by
  have closed : 0 < (itemChars items).length := by cases items <;> simp [itemChars]
  rw [List.length_append] at enough
  obtain ⟨fuel, rfl⟩ : ∃ less, fuel = less + 1 := ⟨fuel - 1, by omega⟩
  obtain ⟨stop, stops⟩ := refused fuel _ (by omega) (ends_itemChars items rest)
  exact ⟨stop, by simp only [readItems, stops, bind, Except.bind]⟩

/-- The first item that is refused ends the reading of an array. -/
private theorem readItems_refused {items : List Json} :
    ∀ item fuel rest, (∀ x ∈ item :: items, Found policy depth x ∨ Refused policy depth x) →
      (∃ x ∈ item :: items, Refused policy depth x) →
        2 * (chars item ++ itemChars items).length ≤ fuel + 1 →
      ∃ stop, readItems policy fuel depth (chars item ++ (itemChars items ++ rest)) =
        .error stop := by
  induction items with
  | nil =>
    rintro item fuel rest - ⟨x, listed, refused⟩ enough
    obtain rfl := List.mem_singleton.mp listed
    exact readItems_of_refused refused [] fuel rest enough
  | cons next items ih =>
    rintro item fuel rest settled ⟨x, listed, refused⟩ enough
    rcases settled item List.mem_cons_self with found | first
    · rcases List.mem_cons.mp listed with rfl | later
      · exact readItems_of_refused refused _ fuel rest enough
      · simp only [itemChars, List.length_append, List.length_cons] at enough
        obtain ⟨fuel, rfl⟩ : ∃ less, fuel = less + 1 := ⟨fuel - 1, by omega⟩
        obtain ⟨stop, stops⟩ :=
          ih next fuel rest (fun x member => settled x (List.mem_cons_of_mem item member))
          ⟨x, later, refused⟩ (by simp only [List.length_append]; omega)
        exact ⟨stop, by rw [readItems_next found (by omega), stops]; rfl⟩
    · exact readItems_of_refused first _ fuel rest enough

theorem readMembers_of_refused (texts : ∀ text, policy.text? (.ofString text) = some text)
    {member : String × Json} (refused : Refused policy depth member.2) (members : Members)
    (fuel : Nat) (rest : List Char)
    (enough : 2 * (quote member.1 ++ ':' :: (chars member.2 ++ memberChars members)).length ≤
    fuel + 1) :
    ∃ stop, readMembers policy fuel depth
      (quote member.1 ++ ':' :: (chars member.2 ++ (memberChars members ++ rest))) =
        .error stop := by
  have colon (tail : List Char) : skipBlanks (':' :: tail) = ':' :: tail := rfl
  simp only [quote, List.length_append, List.length_cons] at enough
  obtain ⟨fuel, rfl⟩ : ∃ less, fuel = less + 1 := ⟨fuel - 1, by omega⟩
  obtain ⟨stop, stops⟩ := refused fuel _ (by omega) (ends_memberChars members rest)
  refine ⟨stop, ?_⟩
  simp only [quote, List.cons_append, List.append_assoc, List.nil_append, readMembers,
    readText_escaped texts, bind, Except.bind, colon, skipBlanks_chars, stops]

/-- The first value that is refused ends the reading of an object. -/
private theorem readMembers_refused (texts : ∀ text, policy.text? (.ofString text) = some text)
    {members : Members} :
    ∀ member fuel rest, (∀ x ∈ member :: members, Found policy depth x.2 ∨
      Refused policy depth x.2) → (∃ x ∈ member :: members, Refused policy depth x.2) →
      2 * (quote member.1 ++ ':' :: (chars member.2 ++ memberChars members)).length ≤ fuel + 1 →
      ∃ stop, readMembers policy fuel depth
        (quote member.1 ++ ':' :: (chars member.2 ++ (memberChars members ++ rest))) =
          .error stop := by
  induction members with
  | nil =>
    rintro member fuel rest - ⟨x, listed, refused⟩ enough
    obtain rfl := List.mem_singleton.mp listed
    exact readMembers_of_refused texts refused [] fuel rest enough
  | cons next members ih =>
    rintro member fuel rest settled ⟨x, listed, refused⟩ enough
    rcases settled member List.mem_cons_self with found | first
    · rcases List.mem_cons.mp listed with rfl | later
      · exact readMembers_of_refused texts refused _ fuel rest enough
      · simp only [quote, memberChars, List.length_append, List.length_cons] at enough
        obtain ⟨fuel, rfl⟩ : ∃ less, fuel = less + 1 := ⟨fuel - 1, by omega⟩
        obtain ⟨stop, stops⟩ :=
          ih next fuel rest (fun x other => settled x (List.mem_cons_of_mem member other))
          ⟨x, later, refused⟩ (by simp only [quote, List.length_append, List.length_cons]; omega)
        exact ⟨stop, by rw [readMembers_next texts found (by omega), stops]; rfl⟩
    · exact readMembers_of_refused texts first _ fuel rest enough

/-- A tree that holds an integer that is too long is refused; the induction is on the
containers of the tree. -/
theorem Nested.refused (texts : ∀ text, policy.text? (.ofString text) = some text)
    (strict : policy.strictLength = true) (nested : Nested levels tree)
    (within : levels ≤ depth) {n : Int} (holds : Holds n tree) (long : Overlong n) :
    Refused policy depth tree := by
  -- The parts beside the one that holds the integer are found or refused too; the first refused
  -- one ends the reading.
  have settled {tree : Json} {levels depth : Nat} (nested : Nested levels tree)
      (within : levels ≤ depth)
      (refused : ∀ {m : Int}, Holds m tree → Overlong m → Refused policy depth tree) :
      Found policy depth tree ∨ Refused policy depth tree := by
    by_cases short : ∀ m, Holds m tree → ¬ Overlong m
    · exact .inl (found_of_legible texts (nested.legible within short))
    · obtain ⟨m, holds, long⟩ : ∃ m, Holds m tree ∧ Overlong m := by simpa using short
      exact .inr (refused holds long)
  induction nested generalizing depth n with
  | null => cases holds
  | bool value => cases holds
  | str text => cases holds
  | int m =>
    cases holds
    exact refused_int strict long
  | @arr levels items inner ih =>
    obtain ⟨depth, rfl⟩ : ∃ less, depth = less + 1 := ⟨depth - 1, by omega⟩
    cases holds with
    | @item _ x listed held =>
      have refused : Refused policy depth x := ih x listed (by omega) held long
      have each (y) (member : y ∈ items) : Found policy depth y ∨ Refused policy depth y :=
        settled (inner y member) (by omega) (ih y member (by omega))
      cases items with
      | nil => cases listed
      | cons item items =>
        intro fuel rest enough ends
        simp only [chars, List.length_cons] at enough
        obtain ⟨fuel, rfl⟩ : ∃ less, fuel = less + 1 := ⟨fuel - 1, by omega⟩
        obtain ⟨stop, stops⟩ :=
          readItems_refused item fuel rest each ⟨x, listed, refused⟩ (by omega)
        exact ⟨stop, by rw [readValue_items, stops]; rfl⟩
  | @obj levels members distinct inner ih =>
    obtain ⟨depth, rfl⟩ : ∃ less, depth = less + 1 := ⟨depth - 1, by omega⟩
    cases holds with
    | @member _ x listed held =>
      have refused : Refused policy depth x.2 := ih x listed (by omega) held long
      have each (y) (member : y ∈ members) : Found policy depth y.2 ∨ Refused policy depth y.2 :=
        settled (inner y member) (by omega) (ih y member (by omega))
      cases members with
      | nil => cases listed
      | cons member members =>
        intro fuel rest enough ends
        simp only [chars, List.length_cons] at enough
        obtain ⟨fuel, rfl⟩ : ∃ less, fuel = less + 1 := ⟨fuel - 1, by omega⟩
        obtain ⟨stop, stops⟩ :=
          readMembers_refused texts member fuel rest each ⟨x, listed, refused⟩ (by omega)
        exact ⟨stop, by rw [readValue_members, stops]; rfl⟩

end Refusal

section Characters

theorem shown_of_all {text : List Char} (all : text.all (fun c => 32 ≤ c.toNat) = true) :
    ∀ c ∈ text, 32 ≤ c.toNat := by
  simpa using all

private theorem escape_shown (c : Char) : ∀ d ∈ escape c, 32 ≤ d.toNat := by
  unfold escape
  split
  · exact shown_of_all rfl
  split
  · exact shown_of_all rfl
  split
  · exact shown_of_all rfl
  split
  · exact shown_of_all rfl
  split
  · exact shown_of_all rfl
  split
  · exact shown_of_all rfl
  split
  · exact shown_of_all rfl
  split
  · rename_i control
    have digit : ∀ n < 16, 32 ≤ (hexDigit n).toNat := by decide
    have high := digit (c.toNat / 16) (by omega)
    have low := digit (c.toNat % 16) (by omega)
    simp [high, low]
  · rename_i shown
    simpa using shown

theorem quote_shown (text : String) : ∀ c ∈ quote text, 32 ≤ c.toNat := by
  have mark : 32 ≤ '"'.toNat := by decide
  simp only [quote, List.mem_cons, List.mem_append, List.mem_flatMap, List.not_mem_nil, or_false]
  rintro c (rfl | ⟨d, _, member⟩ | rfl)
  · exact mark
  · exact escape_shown d c member
  · exact mark

theorem toString_shown (n : Int) : ∀ c ∈ (toString n).toList, 32 ≤ c.toNat := by
  rw [toList_toString, List.forall_mem_append]
  constructor
  · split
    · exact shown_of_all rfl
    · simp
  · intro c digit
    have codes : 48 ≤ c.toNat ∧ c.toNat ≤ 57 := Char.isDigit_iff_toNat.mp (isDigit_toDigits digit)
    omega

mutual

/-- Characters below the space are only written as escapes, of letters and digits. -/
theorem chars_shown : (tree : Json) → ∀ c ∈ chars tree, 32 ≤ c.toNat
  | .null => shown_of_all rfl
  | .bool true => shown_of_all rfl
  | .bool false => shown_of_all rfl
  | .int n => toString_shown n
  | .decimal mantissa exponent => by
    simp only [chars, List.forall_mem_append, List.forall_mem_cons]
    exact ⟨toString_shown mantissa, by decide, toString_shown exponent⟩
  | .nan => shown_of_all rfl
  | .infinite true => shown_of_all rfl
  | .infinite false => shown_of_all rfl
  | .str text => quote_shown text
  | .arr [] => shown_of_all rfl
  | .arr (item :: items) => by
    simp only [chars, List.forall_mem_append, List.forall_mem_cons]
    exact ⟨by decide, chars_shown item, itemChars_shown items⟩
  | .obj [] => shown_of_all rfl
  | .obj ((name, value) :: members) => by
    simp only [chars, List.forall_mem_append, List.forall_mem_cons]
    exact ⟨by decide, quote_shown name, by decide, chars_shown value, memberChars_shown members⟩

theorem itemChars_shown : (items : List Json) → ∀ c ∈ itemChars items, 32 ≤ c.toNat
  | [] => shown_of_all rfl
  | item :: items => by
    simp only [itemChars, List.forall_mem_append, List.forall_mem_cons]
    exact ⟨by decide, chars_shown item, itemChars_shown items⟩

theorem memberChars_shown : (members : List (String × Json)) →
    ∀ c ∈ memberChars members, 32 ≤ c.toNat
  | [] => shown_of_all rfl
  | (name, value) :: members => by
    simp only [memberChars, List.forall_mem_append, List.forall_mem_cons]
    exact ⟨by decide, quote_shown name, by decide, chars_shown value, memberChars_shown members⟩

end

end Characters

section Texts

variable {tree : Json} {levels : Nat}

private theorem overlong_iff {n : Int} :
    Overlong n ↔ 10 ^ (if n < 0 then maxDigits - 1 else maxDigits) ≤ n.natAbs := by
  have count (most : Nat) (some : 0 < most) : most < (Nat.toDigits 10 n.natAbs).length ↔
      10 ^ most ≤ n.natAbs := by
    rw [← Nat.not_le, Nat.length_toDigits_le_iff (by decide) some, Nat.not_lt]
  rw [Overlong, length_toString]
  split
  · rw [← count _ (by decide)]
    exact (by decide : maxDigits = maxDigits - 1 + 1) ▸ Nat.add_lt_add_iff_right
  · exact count _ (by decide)

/-- A text with an integer that is too long stands for no tree. -/
theorem parse?_encode_of_overlong (nested : Nested levels tree)
    (within : levels ≤ wirePolicy.depth) {n : Int} (holds : Holds n tree) (long : Overlong n) :
    parse? (encode tree) = none := by
  obtain ⟨c, tail, same, begins⟩ := chars_begins tree
  have noMark : (chars tree).head? ≠ some '\uFEFF' := by
    rw [same]
    simpa using begins.2.2
  have start := skipBlanks_chars tree []
  obtain ⟨stop, stops⟩ :=
    nested.refused wirePolicy_text? rfl within holds long (2 * (chars tree).length + 1)
    [] (by omega)
    (by simp [Ends])
  rw [List.append_nil] at start stops
  simp only [parse?, encode, Bytes.text?_ofText, render, String.toList_ofList, readDocument,
    noMark, if_false, start, stops, bind, Except.bind]
  rfl

/-- How texts carry trees. The text of a tree with less than 200 containers inside one another
comes back as the same tree, with its members in their order, exactly if no integer in it has
more than 4300 characters, its sign counted; with such an integer the text is refused. No text
holds a character below the space, and so the text of a request holds neither a null nor the
end of a line. -/
theorem encode_undone (nested : Nested 199 tree) :
    (parse? (encode tree) = some tree ↔ ∀ n, Holds n tree → ¬ Overlong n) ∧
    ((∃ n, Holds n tree ∧ Overlong n) → parse? (encode tree) = none) ∧
    (∀ c ∈ (render tree).toList, 32 ≤ c.toNat) ∧
    (∀ args : Message.PluginArgs,
      '\x00' ∉ (Message.PluginArgs.form.encode args).toList ∧
        '\n' ∉ (Message.PluginArgs.form.encode args).toList) := by
  have within : 199 ≤ wirePolicy.depth := by decide
  have shown (tree : Json) : ∀ c ∈ (render tree).toList, 32 ≤ c.toNat := by
    rw [render, String.toList_ofList]
    exact chars_shown tree
  refine ⟨⟨fun back n holds long => ?_, fun short => parse?_render
    (nested.legible within short)⟩, ?_,
    shown tree, fun args => ⟨fun null => ?_, fun line => ?_⟩⟩
  · rw [parse?_encode_of_overlong nested within holds long] at back
    cases back
  · rintro ⟨n, holds, long⟩
    exact parse?_encode_of_overlong nested within holds long
  · exact absurd (shown _ _ null) (by decide)
  · exact absurd (shown _ _ line) (by decide)

/-- The least integer that is too long is a tree that its text does not keep. -/
theorem encode_overlong :
    Nested 199 (.int (10 ^ maxDigits)) ∧ parse? (encode (.int (10 ^ maxDigits))) = none := by
  have long : Overlong (10 ^ maxDigits) := by
    have size (count : Nat) : 10 ^ count ≤ (10 ^ count : Int).natAbs :=
      Nat.le_of_eq (Int.natAbs_pow 10 count).symm
    rw [overlong_iff, if_neg (Int.not_lt.mpr (Int.pow_nonneg (by decide)))]
    exact size maxDigits
  have nested : Nested 199 (.int (10 ^ maxDigits)) := .int _
  exact ⟨nested, parse?_encode_of_overlong nested (by decide) .here long⟩

/-- Names and texts with quotes, control characters and letters of any script come back, and
so do negative numbers. -/
theorem encode_undone_mixed :
    let tree : Json :=
      .obj [("k\n\"", .arr [.int (-7), .str "\x00\\é", .null, .obj []]), ("", .bool true)]
    Nested 199 tree ∧ parse? (encode tree) = some tree := by
  intro tree
  have nested : Nested 199 tree := by
    refine .obj (by decide) (List.forall_mem_cons.mpr
      ⟨.arr ?_, List.forall_mem_singleton.mpr (.bool true)⟩)
    simp only [List.forall_mem_cons, List.not_mem_nil, false_imp_iff, implies_true, and_true]
    exact ⟨.int _, .str _, .null, .obj (by decide) (by simp)⟩
  refine ⟨nested, (encode_undone nested).1.mpr fun n holds => ?_⟩
  obtain rfl : n = -7 := by
    change Holds n (.obj _) at holds
    rcases holds with _ | _ | ⟨listed, holds⟩
    rcases List.mem_cons.mp listed with rfl | listed
    · rcases holds with _ | ⟨listed, holds⟩ | _
      simp only [List.mem_cons, List.not_mem_nil, or_false] at listed
      rcases listed with rfl | rfl | rfl | rfl
      · cases holds
        rfl
      · cases holds
      · cases holds
      · rcases holds with _ | _ | ⟨listed, _⟩
        cases listed
    · obtain rfl := List.mem_singleton.mp listed
      cases holds
  exact Nat.not_lt.mpr (by decide)

end Texts

end SignerPlugin.Json
