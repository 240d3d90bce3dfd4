import SignerPlugin.Text.Utf8

/-! Texts that are to be written. Strings can be written; a text of code points cannot if a
surrogate stands in it. -/

namespace SignerPlugin.Text

namespace CodeText

private theorem ofChars_of_chars? {text : CodeText} {chars : List Char}
    (found : text.chars? = some chars) : ofChars chars = text := by
  induction text generalizing chars with
  | nil =>
    cases found
    rfl
  | cons point rest ih =>
    simp only [chars?, List.mapM_cons, Option.bind_eq_bind, Option.bind_eq_some_iff] at found
    obtain ⟨c, isChar, others, restIs, same⟩ := found
    cases same
    cases point with
    | char d =>
      cases isChar
      exact congrArg (CodePoint.char c :: ·) (ih restIs)
    | surrogate place => cases isChar

private theorem ofString_of_string? {text : CodeText} {string : String}
    (found : text.string? = some string) :
    ofString string = text := by
  obtain ⟨chars, each, rfl⟩ := Option.map_eq_some_iff.mp found
  rw [ofString, String.toList_ofList]
  exact ofChars_of_chars? each

@[simp]
theorem string?_ofString (string : String) : (ofString string).string? = some string := by
  simp [string?, ofString]

private theorem surrogate_of_string? {text : CodeText} (missing : text.string? = none) :
    ∃ place, CodePoint.surrogate place ∈ text := by
  induction text with
  | nil => cases missing
  | cons point rest ih =>
    cases point with
    | surrogate place => exact ⟨place, List.mem_cons_self⟩
    | char c =>
      have later : string? rest = none := by
        rw [string?, Option.map_eq_none_iff] at missing ⊢
        simp only [chars?, List.mapM_cons, CodePoint.char?, Option.bind_eq_bind,
          Option.bind_some] at missing ⊢
        cases others : List.mapM CodePoint.char? rest with
        | none => rfl
        | some chars =>
          rw [others] at missing
          cases missing
      obtain ⟨place, member⟩ := ih later
      exact ⟨place, List.mem_cons_of_mem _ member⟩

end CodeText

instance : Coe String CodeText := ⟨CodeText.ofString⟩

/-- A text that cannot be written. -/
structure Unwritable where
  text : CodeText
  faulty : ∃ place, CodePoint.surrogate place ∈ text
  deriving DecidableEq, Repr

def Unwritable.message (fault : Unwritable) : String :=
  "Error serializing to JSON: UnicodeEncodeError: " ++ Utf8.unwritable fault.text

/-- A kind of texts with the strings among them, which are those that can be written. -/
class Writable (θ : Type) where
  ofString : String → θ
  written : θ → Except Unwritable String
  written_eq_ok {text : θ} {string : String} : written text = .ok string ↔ ofString string = text

namespace Writable

instance : Writable String where
  ofString := id
  written := .ok
  written_eq_ok := by
    intro text string
    exact ⟨fun same => (Except.ok.inj same).symm, fun same => congrArg _ same.symm⟩

instance : Writable CodeText where
  ofString := CodeText.ofString
  written text := match found : text.string? with
    | some string => .ok string
    | none => .error ⟨text, CodeText.surrogate_of_string? found⟩
  written_eq_ok := by
    intro text string
    split
    · rename_i other found
      have same := CodeText.ofString_of_string? found
      constructor
      · rintro ⟨⟩
        exact same
      · rintro rfl
        rw [CodeText.string?_ofString] at found
        cases found
        rfl
    · rename_i missing
      refine ⟨nofun, ?_⟩
      rintro rfl
      rw [CodeText.string?_ofString] at missing
      cases missing

variable {θ : Type} [Writable θ]

@[simp]
theorem written_ofString (string : String) : written (ofString string : θ) = .ok string :=
  written_eq_ok.mpr rfl

/-- No two strings are the same text. -/
theorem ofString_inj {first second : String} :
    (ofString first : θ) = ofString second ↔ first = second := by
  constructor
  · intro same
    have writes := (written_eq_ok (θ := θ)).mpr same
    rw [written_ofString] at writes
    exact (Except.ok.inj writes).symm
  · exact congrArg _

@[simp]
theorem written_string (string : String) : written string = .ok string := rfl

/-- A text of code points that cannot be written is itself the fault. -/
theorem text_of_written {text : CodeText} {fault : Unwritable}
    (refused : written text = .error fault) :
    fault.text = text := by
  simp only [written] at refused
  split at refused
  · cases refused
  · cases refused
    rfl

end Writable
end SignerPlugin.Text
