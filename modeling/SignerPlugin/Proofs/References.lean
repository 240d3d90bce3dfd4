import SignerPlugin.Config.Reference
import SignerPlugin.Proofs.FailingSteps

/-! Which references stand in a text, and what the text becomes. The pieces of a text are told
without a scanner: they make up the text, its references are well formed, and where a piece is
no reference none could have begun. -/

namespace SignerPlugin

@[simp]
theorem Text.CodeText.shown_ofString (text : String) : shown (ofString text) = text := by
  simp [shown, ofString, ofChars, Function.comp_def, CodePoint.shown]

namespace Config

open Text (CodePoint CodeText)

variable {env : Environment} {text after rest : CodeText} {reference other : Reference}
  {pieces : List Piece}

namespace Reference

/-! ### References as they are written -/

/-- What stands between the name of a reference and its end. -/
def writtenFallback (reference : Reference) : CodeText :=
  reference.fallback.elim [] fun text => .char ':' :: .char '-' :: text

/-- A reference as it stands in a text. -/
def written (reference : Reference) : CodeText :=
  .char '$' :: .char '{' :: (.ofString reference.name ++ (reference.writtenFallback ++ [.char '}']))

/-- Identifiers consist of basic letters, digits and underscores, and start with no digit. -/
def IsIdentifier (name : String) : Prop :=
  ∃ first rest, name.toList = first :: rest ∧ (first.isAlpha ∨ first = '_') ∧
    ∀ c ∈ rest, c.isAlphanum ∨ c = '_'

/-- The name is an identifier, and the fallback does not close the reference. -/
structure IsValid (reference : Reference) : Prop where
  name : IsIdentifier reference.name
  fallback : ∀ text ∈ reference.fallback, CodePoint.char '}' ∉ text

/-- A letter is no digit. -/
private theorem isDigit_of_isAlpha {c : Char} (alpha : c.isAlpha) : c.isDigit = false := by
  have ranges : (decide (65 ≤ c.val ∧ c.val ≤ 90) ||
      (decide (97 ≤ c.val) && decide (c.val ≤ 122))) = true := alpha
  simp only [Bool.or_eq_true, Bool.and_eq_true, decide_eq_true_eq, UInt32.le_iff_toNat_le] at ranges
  have above : ¬ c.val.toNat ≤ 57 := by
    rcases ranges with ⟨low, -⟩ | ⟨low, -⟩
    · exact fun high => absurd (Nat.le_trans low high) (by decide)
    · exact fun high => absurd (Nat.le_trans low high) (by decide)
  change (decide (48 ≤ c.val) && decide (c.val ≤ 57)) = false
  simp only [Bool.and_eq_false_iff, decide_eq_false_iff_not, UInt32.le_iff_toNat_le]
  exact .inr above

/-- Identifiers are what a reader takes for a name: some points that names consist of, and the
first is no digit. -/
theorem isIdentifier_iff {name : String} : IsIdentifier name ↔
    (∀ point ∈ CodeText.ofString name, isNameChar point) ∧
      ∃ first rest, CodeText.ofString name = first :: rest ∧ isDigit first = false := by
  rw [IsIdentifier, CodeText.ofString, CodeText.ofChars]
  cases name.toList with
  | nil => simp
  | cons first rest =>
    have start : (first.isAlpha ∨ first = '_') ↔ isNameChar (.char first) = true ∧
        isDigit (.char first) = false := by
      simp only [isNameChar, isDigit, Char.isAlphanum, Bool.or_eq_true, decide_eq_true_eq]
      constructor
      · rintro (alpha | rfl)
        · exact ⟨.inl (.inl alpha), isDigit_of_isAlpha alpha⟩
        · exact ⟨.inr rfl, rfl⟩
      · rintro ⟨(alpha | digit) | same, other⟩
        · exact .inl alpha
        · rw [digit] at other
          cases other
        · exact .inr same
    simp [start, isNameChar, and_assoc, and_left_comm, and_comm]

/-! ### Reading a reference -/

theorem readEnd?_written (closed : ∀ text ∈ reference.fallback, CodePoint.char '}' ∉ text) :
    readEnd? (reference.writtenFallback ++ .char '}' :: after) =
      some (reference.fallback, after) := by
  obtain ⟨name, fallback⟩ := reference
  cases fallback with
  | none => rfl
  | some text =>
    have inside : ∀ point ∈ text, decide (point ≠ CodePoint.char '}') = true := by
      intro point among
      exact decide_eq_true fun same => closed text rfl (same ▸ among)
    simp only [writtenFallback, Option.elim, List.cons_append, readEnd?]
    rw [List.dropWhile_append_of_pos inside, List.takeWhile_append_of_pos inside]
    simp

private theorem writtenFallback_of_readEnd? {fallback : Option CodeText}
    (found : readEnd? text = some (fallback, after)) :
    (∀ inner ∈ fallback, CodePoint.char '}' ∉ inner) ∧
      text = (⟨"", fallback⟩ : Reference).writtenFallback ++ .char '}' :: after := by
  unfold readEnd? at found
  split at found
  · cases found
    exact ⟨nofun, rfl⟩
  · rename_i rest
    split at found
    · rename_i point behind closing
      cases found
      have stopped :=
        List.head?_dropWhile_not (fun point => decide (point ≠ CodePoint.char '}')) rest
      have whole :=
        List.takeWhile_append_dropWhile (p := fun point => decide (point ≠ CodePoint.char '}'))
        (l := rest)
      rw [closing] at stopped whole
      have close : point = .char '}' := by simpa using stopped
      subst close
      refine ⟨?_, ?_⟩
      · rintro inner ⟨⟩ among
        simpa using List.all_eq_true.mp List.all_takeWhile _ among
      · simp only [writtenFallback, Option.elim, List.cons_append]
        rw [whole]
    · cases found
  · cases found

/-- A reference that is well formed is read from where it stands. -/
theorem read?_written (valid : reference.IsValid) :
    read? (reference.written ++ after) = some (reference, after) := by
  obtain ⟨follow, first, rest, letters, start⟩ := isIdentifier_iff.mp valid.name
  have unnamed : ∃ point others, reference.writtenFallback ++ .char '}' :: after = point :: others ∧
      isNameChar point = false := by
    obtain ⟨name, fallback⟩ := reference
    cases fallback <;> exact ⟨_, _, rfl, rfl⟩
  obtain ⟨point, others, behind, stops⟩ := unnamed
  have ends : readEnd? (reference.writtenFallback ++ .char '}' :: after) =
      some (reference.fallback, after) :=
    readEnd?_written valid.fallback
  have whole : reference.written ++ after =
      .char '$' :: .char '{' :: (CodeText.ofString reference.name ++ point :: others) := by
    rw [← behind]
    simp [written]
  rw [behind] at ends
  rw [whole, read?, List.takeWhile_append_of_pos follow, List.dropWhile_append_of_pos follow,
    List.takeWhile_cons_of_neg (by simp [stops]), List.dropWhile_cons_of_neg (by simp [stops]),
      List.append_nil, ends, CodeText.shown_ofString]
  simp [letters, start]

/-- Points that names consist of are characters, so the name shown is the name that stands in
the text. -/
theorem ofString_shown {name : CodeText} (points : ∀ point ∈ name, isNameChar point) :
    CodeText.ofString name.shown = name := by
  rw [CodeText.ofString, CodeText.ofChars, CodeText.shown, String.toList_ofList, List.map_map]
  refine (List.map_congr_left fun point among => ?_).trans (List.map_id name)
  cases point with
  | char c => rfl
  | surrogate place => cases points _ among

private theorem valid_of_read? (found : read? text = some (reference, after)) :
    reference.IsValid ∧ text = reference.written ++ after := by
  unfold read? at found
  split at found
  · rename_i rest
    have parts := List.takeWhile_append_dropWhile (p := isNameChar) (l := rest)
    have points : ∀ point ∈ rest.takeWhile isNameChar, isNameChar point :=
      List.all_eq_true.mp List.all_takeWhile
    dsimp only at found
    split at found
    · cases found
    · rename_i named
      obtain ⟨⟨fallback, behind⟩, ending, same⟩ := Option.map_eq_some_iff.mp found
      cases same
      obtain ⟨closed, whole⟩ := writtenFallback_of_readEnd? ending
      refine ⟨⟨isIdentifier_iff.mpr ?_, closed⟩, ?_⟩
      · rw [ofString_shown points]
        refine ⟨points, ?_⟩
        cases letters : rest.takeWhile isNameChar with
        | nil => simp [letters] at named
        | cons first others => exact ⟨first, others, rfl, by simpa [letters] using named⟩
      · rw [whole] at parts
        simp only [written, ofString_shown points, List.cons_append, List.append_assoc,
          List.nil_append]
        exact congrArg (fun text => CodePoint.char '$' :: .char '{' :: text) parts.symm
  · cases found

theorem read?_eq_some : read? text = some (reference, after) ↔ reference.IsValid ∧
    text = reference.written ++ after := by
  refine ⟨valid_of_read?, ?_⟩
  rintro ⟨valid, rfl⟩
  exact read?_written valid

end Reference

/-! ### The pieces of a text -/

/-- A piece as it stands in a text. -/
def Piece.written : Piece → CodeText
  | .plain point => [point]
  | .reference wanted => wanted.written

/-- The pieces make up the text, their references are well formed, and no reference begins at
any other piece. So the references are those that are met first from left to right, and they
do not overlap. -/
structure Parted (text : CodeText) (pieces : List Piece) : Prop where
  whole : pieces.flatMap Piece.written = text
  valid : ∀ reference, Piece.reference reference ∈ pieces → reference.IsValid
  leftmost : ∀ before point after, pieces = before ++ .plain point :: after →
    ∀ (reference : Reference) rest,
    reference.IsValid → (Piece.plain point :: after).flatMap Piece.written ≠
      reference.written ++ rest

namespace Parted

theorem nil : Parted [] [] := ⟨rfl, nofun, fun _ _ _ parts => by simp at parts⟩

theorem tail {piece : Piece} (parted : Parted text (piece :: pieces)) :
    text = piece.written ++ pieces.flatMap Piece.written ∧
      Parted (pieces.flatMap Piece.written) pieces :=
  ⟨parted.whole.symm, rfl, fun reference among => parted.valid reference
    (List.mem_cons_of_mem _ among),
    fun before point after parts => parted.leftmost (piece :: before) point after
      (by rw [parts]; rfl)⟩

private theorem cons_reference (valid : reference.IsValid) (parted : Parted after pieces) :
    Parted (reference.written ++ after) (.reference reference :: pieces) where
  whole := by rw [List.flatMap_cons, parted.whole]; rfl
  valid other among := by
    rcases List.mem_cons.mp among with same | later
    · cases same
      exact valid
    · exact parted.valid other later
  leftmost before point rest parts := by
    cases before with
    | nil => cases parts
    | cons _ others => exact parted.leftmost others point rest (List.cons.inj parts).2

private theorem cons_plain {point : CodePoint} (unread : Reference.read? (point :: text) = none)
    (parted : Parted text pieces) :
    Parted (point :: text) (.plain point :: pieces) where
  whole := by rw [List.flatMap_cons, parted.whole]; rfl
  valid other among := parted.valid other ((List.mem_cons.mp among).resolve_left nofun)
  leftmost before other rest parts reference behind valid same := by
    cases before with
    | nil =>
      cases parts
      rw [List.flatMap_cons, parted.whole] at same
      have found : Reference.read? (reference.written ++ behind) = some (reference, behind) :=
        Reference.read?_written valid
      rw [← same] at found
      cases unread.symm.trans found
    | cons _ others =>
      exact parted.leftmost others other rest (List.cons.inj parts).2 reference behind valid same

end Parted

theorem Piece.ofText_read {point : CodePoint}
    (found : Reference.read? (point :: text) = some (reference, after)) :
    Piece.ofText (point :: text) = .reference reference :: Piece.ofText after := by
  rw [Piece.ofText]
  split
  · rename_i other behind same
    cases same.symm.trans found
    rfl
  · rename_i unread
    cases unread.symm.trans found

theorem Piece.ofText_unread {point : CodePoint} (unread : Reference.read? (point :: text) = none) :
    Piece.ofText (point :: text) = .plain point :: Piece.ofText text := by
  rw [Piece.ofText]
  split
  · rename_i other behind found
    cases unread.symm.trans found
  · rfl

/-- The pieces that a scan finds are pieces of the text. -/
theorem parted_ofText (text : CodeText) : Parted text (Piece.ofText text) := by
  induction text using Piece.ofText.induct with
  | case1 =>
    rw [Piece.ofText]
    exact .nil
  | case2 point text reference after found ih =>
    obtain ⟨valid, whole⟩ := Reference.read?_eq_some.mp found
    rw [Piece.ofText_read found, whole]
    exact .cons_reference valid ih
  | case3 point text unread ih =>
    rw [Piece.ofText_unread unread]
    exact .cons_plain unread ih

/-- A text has no pieces but those that a scan finds. -/
theorem Parted.eq_ofText (parted : Parted text pieces) : Piece.ofText text = pieces := by
  induction pieces generalizing text with
  | nil =>
    obtain rfl : text = [] := parted.whole.symm
    rw [Piece.ofText]
  | cons piece pieces ih =>
    obtain ⟨whole, rest⟩ := parted.tail
    cases piece with
    | reference wanted =>
      have found : Reference.read? (wanted.written ++ pieces.flatMap Piece.written) =
          some (wanted, pieces.flatMap Piece.written) :=
        Reference.read?_written (parted.valid wanted List.mem_cons_self)
      have whole : text = .char '$' :: _ := whole
      subst whole
      rw [Piece.ofText_read found, ih rest]
    | plain point =>
      have whole : text = point :: pieces.flatMap Piece.written := whole
      subst whole
      have unread : Reference.read? (point :: pieces.flatMap Piece.written) = none := by
        rw [Option.eq_none_iff_forall_ne_some]
        rintro ⟨reference, after⟩ found
        obtain ⟨valid, same⟩ := Reference.read?_eq_some.mp found
        exact parted.leftmost [] point pieces rfl reference after valid same
      rw [Piece.ofText_unread unread, ih rest]

/-! ### What a text becomes -/

/-- There is nothing to put in for the reference. -/
def Reference.IsUnset (env : Environment) (reference : Reference) : Prop :=
  env reference.name = none ∧ reference.fallback = none

/-- What is put in for a piece: a variable that is set is used before the fallback, and either
may be empty. -/
inductive Piece.Gives (env : Environment) : Piece → CodeText → Prop
  | plain (point : CodePoint) : Gives env (.plain point) [point]
  | set {reference : Reference} {value : String} (set : env reference.name = some value) :
      Gives env (.reference reference) (.ofString value)
  | fallback {reference : Reference} {text : CodeText} (unset : env reference.name = none)
      (given : reference.fallback = some text) : Gives env (.reference reference) text

private theorem Reference.value_eq_ok : reference.value env = .ok text ↔
    (Piece.reference reference).Gives env text := by
  unfold Reference.value
  constructor
  · intro gives
    cases set : env reference.name with
    | some value =>
      rw [set] at gives
      cases gives
      exact .set set
    | none =>
      cases given : reference.fallback with
      | none =>
        rw [set, given] at gives
        cases gives
      | some fallback =>
        rw [set, given] at gives
        cases gives
        exact .fallback set given
  · intro gives
    cases gives with
    | set set => simp [set]
    | fallback unset given => simp [unset, given]

private theorem Reference.value_eq_error {fault : UnsetVariable} :
    reference.value env = .error fault ↔ reference.IsUnset env ∧ fault = ⟨reference.name⟩ := by
  unfold Reference.value IsUnset
  cases env reference.name <;> cases reference.fallback <;> simp [eq_comm]

private theorem Piece.expand_eq_ok {piece : Piece} :
    piece.expand env = .ok text ↔ piece.Gives env text := by
  cases piece with
  | plain point =>
    constructor
    · rintro ⟨⟩
      exact .plain point
    · rintro ⟨⟩
      rfl
  | reference wanted => exact Reference.value_eq_ok

theorem Piece.expand_eq_error {piece : Piece} {fault : UnsetVariable} :
    piece.expand env = .error fault ↔
    ∃ reference, piece = .reference reference ∧ reference.IsUnset env ∧
      fault = ⟨reference.name⟩ := by
  cases piece with
  | plain point => exact ⟨nofun, fun ⟨_, same, _⟩ => nomatch same⟩
  | reference wanted =>
    refine Reference.value_eq_error.trans ⟨fun fails => ⟨wanted, rfl, fails⟩, ?_⟩
    rintro ⟨_, ⟨⟩, fails⟩
    exact fails

theorem expandText_eq (env : Environment) (text : CodeText) :
    expandText env text = ((Piece.ofText text).mapM (Piece.expand env)).map List.flatten := by
  rw [expandText]
  cases (Piece.ofText text).mapM (Piece.expand env) <;> rfl

/-- A text becomes what its pieces give, one after the other; what is put in is not read again. -/
theorem expandText_eq_ok {result : CodeText} : expandText env text = .ok result ↔
    ∃ parts, List.Forall₂ (Piece.Gives env) (Piece.ofText text) parts ∧ result = parts.flatten := by
  have parts_iff {parts : List CodeText} : (Piece.ofText text).mapM (Piece.expand env) = .ok parts ↔
      List.Forall₂ (Piece.Gives env) (Piece.ofText text) parts := by
    simp only [mapM_eq_ok, Piece.expand_eq_ok]
  simp only [expandText_eq, ← parts_iff]
  cases (Piece.ofText text).mapM (Piece.expand env) <;> simp [Except.map, eq_comm]

/-- A text fails for the first of its references for which there is nothing to put in. -/
theorem expandText_eq_error {fault : UnsetVariable} : expandText env text = .error fault ↔
    ∃ before reference after, Piece.ofText text = before ++ .reference reference :: after ∧
      (∀ other, Piece.reference other ∈ before → ¬ other.IsUnset env) ∧ reference.IsUnset env ∧
      fault = ⟨reference.name⟩ := by
  have fails : expandText env text = .error fault ↔
      (Piece.ofText text).mapM (Piece.expand env) = .error fault := by
    rw [expandText_eq]
    cases (Piece.ofText text).mapM (Piece.expand env) <;> simp [Except.map]
  have passes {piece : Piece} : (∃ part, piece.expand env = .ok part) ↔
      ∀ other, piece = .reference other → ¬ other.IsUnset env := by
    cases expanded : piece.expand env with
    | ok part =>
      refine ⟨fun _ other same unset => ?_, fun _ => ⟨part, rfl⟩⟩
      cases expanded.symm.trans (Piece.expand_eq_error.mpr ⟨other, same, unset, rfl⟩)
    | error fault =>
      obtain ⟨reference, same, unset, -⟩ := Piece.expand_eq_error.mp expanded
      exact ⟨nofun, fun set => absurd unset (set reference same)⟩
  rw [fails, mapM_eq_error]
  constructor
  · rintro ⟨before, piece, after, parts, passed, failed⟩
    obtain ⟨reference, rfl, unset, named⟩ := Piece.expand_eq_error.mp failed
    exact ⟨before, reference, after, parts,
      fun other among => passes.mp (passed _ among) other rfl, unset, named⟩
  · rintro ⟨before, reference, after, parts, set, unset, named⟩
    refine ⟨before, .reference reference, after, parts, fun piece among => passes.mpr ?_,
      Piece.expand_eq_error.mpr ⟨reference, rfl, unset, named⟩⟩
    rintro other rfl
    exact set other among

/-- The variables that a text asks for decide what it becomes. -/
theorem expandText_congr {env' : Environment}
    (agree : ∀ reference, Piece.reference reference ∈ Piece.ofText text →
    env reference.name = env' reference.name) : expandText env text = expandText env' text := by
  rw [expandText_eq, expandText_eq, mapM_congr fun piece among => ?_]
  cases piece with
  | plain point => rfl
  | reference wanted =>
    rw [Piece.expand, Piece.expand, Reference.value, Reference.value, agree wanted among]

end Config
end SignerPlugin
