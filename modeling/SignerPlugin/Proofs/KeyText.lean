import Mathlib.Data.Option.Basic
import SignerPlugin.Key.PrivateKey
import SignerPlugin.Proofs.Base64Text

/-! Reading undoes writing for keys in texts: the lines around the data are found again, and
the data between them. The lemmas follow the reader from the marks to the sections. -/

namespace SignerPlugin

namespace Bytes

theorem ofText_append (first second : String) :
    ofText (first ++ second) = ofText first ++ ofText second := by
  simp [ofText, String.toUTF8, String.toByteArray_append, ByteArray.data_append]

/-- The byte of a character of ASCII. -/
def ofChar (c : Char) : UInt8 := c.val.toUInt8

private theorem ofText_ofList {chars : List Char} (ascii : ∀ c ∈ chars, c.toNat < 128) :
    ofText (String.ofList chars) = chars.map ofChar := by
  induction chars with
  | nil => rfl
  | cons c rest ih =>
    have small : c.utf8Size = 1 :=
      Char.utf8Size_eq_one_iff.mpr (Nat.le_of_lt_succ (ascii c List.mem_cons_self))
    have tail := ih fun d member => ascii d (List.mem_cons_of_mem c member)
    simp only [ofText, String.toUTF8, String.toByteArray_ofList, List.utf8Encode] at tail ⊢
    simpa [String.utf8EncodeChar_eq_singleton small, ofChar, List.data_toByteArray] using tail

end Bytes

namespace Pem

variable {first byte : UInt8} {mark before text label : Bytes}

/-! ### Marks -/

private theorem cutFrom?_due (mark due text : Bytes) :
    cutFrom? mark due (due ++ text) = some (due, text) := by
  induction due with
  | nil => cases text <;> rfl
  | cons next due ih => simp [cutFrom?, ih]

theorem cutFrom?_other (apart : byte ≠ first) (text : Bytes) :
    cutFrom? (first :: mark) (first :: mark) (byte :: text) =
      (cutFrom? (first :: mark) (first :: mark) text).map fun (before, after) =>
        (byte :: before, after) := by
  rw [cutFrom?, if_neg apart]

/-- A mark is found behind bytes among which its first does not occur. -/
theorem cut?_mark (absent : first ∉ before) (text : Bytes) :
    cut? (first :: mark) (before ++ (first :: mark ++ text)) = some (before, text) := by
  have found : cutFrom? (first :: mark) (first :: mark) (before ++ (first :: mark ++ text)) =
      some (before ++ first :: mark, text) := by
    induction before with
    | nil => exact cutFrom?_due (first :: mark) (first :: mark) text
    | cons byte rest ih =>
      have apart : byte ≠ first := fun same => absent (same ▸ List.mem_cons_self)
      rw [List.cons_append, cutFrom?_other apart,
        ih fun member => absent (List.mem_cons_of_mem byte member)]
      rfl
  rw [cut?, found]
  simp

theorem cut?_eq_none (absent : first ∉ text) : cut? (first :: mark) text = none := by
  have missed : cutFrom? (first :: mark) (first :: mark) text = none := by
    induction text with
    | nil => rfl
    | cons byte rest ih =>
      have apart : byte ≠ first := fun same => absent (same ▸ List.mem_cons_self)
      rw [cutFrom?_other apart, ih fun member => absent (List.mem_cons_of_mem byte member)]
      rfl
  rw [cut?, missed]
  rfl

/-! ### Lines -/

/-- Lines none of which is empty, each with its end. -/
inductive Filled : Bytes → Prop
  | nil : Filled []
  | line {line text : Bytes} (filled : line ≠ []) (plain : 10 ∉ line) (rest : Filled text) :
      Filled (line ++ 10 :: text)

/-- A line is passed over together with its end, when no second end follows. -/
theorem cutFrom?_line {line : Bytes} (plain : 10 ∉ line)
    (single : cutFrom? [10, 10] [10] text = none) :
    cutFrom? [10, 10] [10, 10] (line ++ 10 :: text) = none := by
  induction line with
  | nil => simp [cutFrom?, single]
  | cons byte rest ih =>
    have apart : byte ≠ 10 := fun same => plain (same ▸ List.mem_cons_self)
    rw [List.cons_append, cutFrom?_other apart,
      ih fun member => plain (List.mem_cons_of_mem byte member)]
    rfl

/-- The end of a line is followed by the first byte of another one, which is no end. -/
private theorem Filled.cutFrom?_single (filled : Filled text) :
    cutFrom? [10, 10] [10] text = none := by
  induction filled with
  | nil => rfl
  | @line line text filled plain rest ih =>
    cases line with
    | nil => exact absurd rfl filled
    | cons byte others =>
      have apart : byte ≠ 10 := fun same => plain (same ▸ List.mem_cons_self)
      have later := cutFrom?_line (fun member => plain (List.mem_cons_of_mem byte member)) ih
      simp [cutFrom?, apart, later]

/-- Among filled lines there is no empty one. -/
theorem Filled.cut?_eq_none (filled : Filled text) : cut? [10, 10] text = none := by
  have missed : cutFrom? [10, 10] [10, 10] text = none := by
    cases filled with
    | nil => rfl
    | line _ plain rest => exact cutFrom?_line plain rest.cutFrom?_single
  rw [cut?, missed]
  rfl

/-! ### Data in lines -/

/-- A character of which data are written: none of a mark, and no blank. -/
structure IsData (c : Char) : Prop where
  ascii : c.toNat < 128
  noMark : Bytes.ofChar c ≠ 45
  noGap : isGap (Bytes.ofChar c) = false
  noBlank : Text.isBlank c = false

theorem isData_of_mem {bytes : Bytes} {c : Char} (member : c ∈ Base64.encodeChars bytes) :
    IsData c := by
  have digits : ∀ value < 64, (Base64.digit value).toNat < 128 ∧
      Bytes.ofChar (Base64.digit value) ≠ 45 ∧
      isGap (Bytes.ofChar (Base64.digit value)) = false ∧
        Text.isBlank (Base64.digit value) = false := by decide
  rcases Base64.mem_encodeChars member with rfl | ⟨value, small, rfl⟩
  · exact ⟨by decide, by decide, by decide, by decide⟩
  · obtain ⟨ascii, noMark, noGap, noBlank⟩ := digits value small
    exact ⟨ascii, noMark, noGap, noBlank⟩

variable {fuel : Nat} {chars : List Char}

theorem mem_wrap {c : Char} (member : c ∈ wrap fuel chars) : c = '\n' ∨ c ∈ chars := by
  fun_induction wrap fuel chars with
  | case1 chars => cases member
  | case2 fuel chars empty => cases member
  | case3 fuel chars filled ih =>
    rcases List.mem_append.mp member with line | rest
    · exact .inr (List.mem_of_mem_take line)
    · rcases List.mem_cons.mp rest with rfl | rest
      · exact .inl rfl
      · exact (ih rest).imp_right List.mem_of_mem_drop

private theorem wrap_filter (plain : ∀ c ∈ chars, IsData c) (enough : chars.length ≤ fuel) :
    (wrap fuel chars).filter (fun c => !Text.isBlank c) = chars := by
  fun_induction wrap fuel chars with
  | case1 chars => exact (List.eq_nil_of_length_eq_zero (Nat.le_zero.mp enough)).symm
  | case2 fuel chars empty => exact (List.isEmpty_iff.mp empty).symm
  | case3 fuel chars filled ih =>
    have shorter : (chars.drop 64).length ≤ fuel := by
      have some : chars ≠ [] := fun none => filled (List.isEmpty_iff.mpr none)
      have positive := List.length_pos_iff.mpr some
      rw [List.length_drop]
      omega
    have line : (chars.take 64).filter (fun c => !Text.isBlank c) = chars.take 64 := by
      refine List.filter_eq_self.mpr fun c member => ?_
      rw [(plain c (List.mem_of_mem_take member)).noBlank]
      rfl
    have rest := ih (fun c member => plain c (List.mem_of_mem_drop member)) shorter
    have blank : Text.isBlank '\n' = true := by decide
    rw [List.filter_append, line, List.filter_cons_of_neg (by simp [blank]), rest,
      List.take_append_drop]

private theorem filled_wrap (plain : ∀ c ∈ chars, IsData c) :
    Filled ((wrap fuel chars).map Bytes.ofChar) := by
  fun_induction wrap fuel chars with
  | case1 chars => exact .nil
  | case2 fuel chars empty => exact .nil
  | case3 fuel chars filled ih =>
    have rest := ih fun c member => plain c (List.mem_of_mem_drop member)
    have noEnd : 10 ∉ (chars.take 64).map Bytes.ofChar := by
      intro member
      obtain ⟨c, taken, same⟩ := List.mem_map.mp member
      have noGap := (plain c (List.mem_of_mem_take taken)).noGap
      rw [same] at noGap
      cases noGap
    have some : (chars.take 64).map Bytes.ofChar ≠ [] := by
      intro none
      rw [List.map_eq_nil_iff, List.take_eq_nil_iff] at none
      exact filled (List.isEmpty_iff.mpr (none.resolve_left (by decide)))
    rw [List.map_append, List.map_cons]
    exact .line some noEnd rest

/-- Data in lines begin with no gap. -/
private theorem dropWhile_wrap (plain : ∀ c ∈ chars, IsData c) (text : Bytes) :
    ((wrap fuel chars).map Bytes.ofChar ++ 45 :: text).dropWhile isGap =
      (wrap fuel chars).map Bytes.ofChar ++ 45 :: text := by
  fun_cases wrap fuel chars with
  | case1 chars => rfl
  | case2 fuel chars empty => rfl
  | case3 fuel chars filled =>
    cases chars with
    | nil => exact absurd rfl filled
    | cons c rest =>
      have noGap := (plain c List.mem_cons_self).noGap
      simp [noGap]

/-! ### Sections -/

/-- The bytes between the two lines of a section. -/
def body (data : Bytes) : Bytes :=
  (wrap (Base64.encodeChars data).length (Base64.encodeChars data)).map Bytes.ofChar

theorem ofText_wrap (data : Bytes) :
    Bytes.ofText (String.ofList
      (wrap (Base64.encodeChars data).length (Base64.encodeChars data))) = body data := by
  refine Bytes.ofText_ofList fun c member => ?_
  rcases mem_wrap member with rfl | coded
  · decide
  · exact (isData_of_mem coded).ascii

private theorem ofText_write (label : String) (data : Bytes) :
    Bytes.ofText (write label data) =
      Bytes.ofText "-----BEGIN " ++ (Bytes.ofText label ++ (Bytes.ofText "-----" ++
        10 :: (body data ++ (Bytes.ofText "-----END " ++
          (Bytes.ofText label ++ (Bytes.ofText "-----" ++ [10])))))) := by
  have line : Bytes.ofText "-----\n" = Bytes.ofText "-----" ++ [10] := by decide
  unfold write
  simp only [Bytes.ofText_append, ofText_wrap, line, List.append_assoc, List.cons_append,
    List.nil_append]

private theorem body_noMark (data : Bytes) : 45 ∉ body data := by
  intro member
  obtain ⟨c, wrapped, same⟩ := List.mem_map.mp member
  rcases mem_wrap wrapped with rfl | coded
  · revert same
    decide
  · exact (isData_of_mem coded).noMark same

private theorem body_noReturn (data : Bytes) : 13 ∉ body data := by
  intro member
  obtain ⟨c, wrapped, same⟩ := List.mem_map.mp member
  rcases mem_wrap wrapped with rfl | coded
  · revert same
    decide
  · have noGap := (isData_of_mem coded).noGap
    rw [same] at noGap
    cases noGap

private theorem draft?_write (label : String) (plain : 45 ∉ Bytes.ofText label) (data : Bytes) :
    draft? (Bytes.ofText (write label data)) =
      some (⟨Bytes.ofText label, body data, Bytes.ofText label⟩, []) := by
  have begins : Bytes.ofText "-----BEGIN " = 45 :: [45, 45, 45, 45, 66, 69, 71, 73, 78, 32] := by
    decide
  have dashes : Bytes.ofText "-----" = 45 :: [45, 45, 45, 45] := by decide
  have ends : Bytes.ofText "-----END " = 45 :: [45, 45, 45, 45, 69, 78, 68, 32] := by decide
  have opened (text : Bytes) :
      cut? (Bytes.ofText "-----BEGIN ") (Bytes.ofText "-----BEGIN " ++ text) =
        some ([], text) := by
    rw [begins]
    exact cut?_mark List.not_mem_nil text
  have labelled (text : Bytes) :
      cut? (Bytes.ofText "-----") (Bytes.ofText label ++ (Bytes.ofText "-----" ++ text)) =
        some (Bytes.ofText label, text) := by
    rw [dashes]
    exact cut?_mark plain text
  have closed (text : Bytes) :
      cut? (Bytes.ofText "-----END ")
          ((10 :: (body data ++ (Bytes.ofText "-----END " ++ text))).dropWhile isGap) =
        some (body data, text) := by
    have gap : isGap 10 = true := by decide
    rw [ends, List.dropWhile_cons_of_pos gap, List.cons_append, body,
      dropWhile_wrap fun _ => isData_of_mem]
    exact cut?_mark (body_noMark data) text
  rw [ofText_write, draft?, opened]
  simp only [Option.bind_eq_bind, Option.bind_some, labelled, closed]
  rfl

private theorem section?_body {label : String} (named : label ≠ "") (data : Bytes) :
    (Draft.mk (Bytes.ofText label) (body data) (Bytes.ofText label)).section? =
      some ⟨label, [], data⟩ := by
  have parted : partBody (body data) = ([], body data) := by
    have noHead : cut? [10, 10] (body data) = none :=
      (filled_wrap fun _ => isData_of_mem).cut?_eq_none
    have noReturn : cut? [13, 10, 13, 10] (body data) = none := cut?_eq_none (body_noReturn data)
    rw [partBody, noHead, noReturn]
    rfl
  have empty : Bytes.text? [] = some "" := Bytes.text?_ofText ""
  have blanks : (wrap (Base64.encodeChars data).length (Base64.encodeChars data)).filter
      (fun c => !Text.isBlank c) = Base64.encodeChars data :=
        wrap_filter (fun _ => isData_of_mem) (Nat.le_refl _)
  have heads : (((lines "".toList).map trimEnd).filter (· ≠ [])).mapM fieldOf? = some [] := by
    decide
  simp only [Draft.section?, Bytes.text?_ofText, parted, empty, Option.bind_eq_bind,
    Option.bind_some, heads]
  rw [← ofText_wrap, Bytes.text?_ofText]
  simp only [Option.bind_some, String.toList_ofList, blanks, Base64.decodeCanonical?_encodeChars]
  rw [guard, if_pos ⟨named, trivial⟩]
  rfl

/-- The sections of the text of a section are that one. -/
theorem all?_write {label : String} (named : label ≠ "") (plain : 45 ∉ Bytes.ofText label)
    (data : Bytes) :
    all? (Bytes.ofText (write label data)) = some [⟨label, [], data⟩] := by
  have drafted := draft?_write label plain data
  have none : draft? [] = none := rfl
  rw [all?]
  cases written : Bytes.ofText (write label data) with
  | nil =>
    rw [written] at drafted
    cases drafted
  | cons byte rest =>
    have later (fuel : Nat) : drafts fuel [] = [] := by
      cases fuel with
      | zero => rfl
      | succ fuel => rw [drafts, none]
    rw [written] at drafted
    rw [List.length_cons, drafts, drafted]
    simp only [later, List.mapM_cons, List.mapM_nil, section?_body named data]
    rfl

end Pem

/-- A key is read from its text as it is from its structured data. -/
theorem PrivateKey.ofPem_toPem (key : PrivateKey) :
    ofPem (Bytes.ofText key.toPem) = read key.write := by
  have named : "PRIVATE KEY" ≠ "" := by decide
  have plain : 45 ∉ Bytes.ofText "PRIVATE KEY" := by decide
  rw [ofPem, toPem, Pem.all?_write named plain]
  rfl

end SignerPlugin
