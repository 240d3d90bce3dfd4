import SignerPlugin.Base64

/-! Reading base64 text gives back the bytes that were written. -/

namespace SignerPlugin.Base64

theorem value?_digit : ∀ value < 64, value? (digit value) = some value := by decide

theorem digit_ne_pad : ∀ value < 64, digit value ≠ '=' := by decide

theorem digit_ascii : ∀ value < 64, (digit value).toNat < 128 := by decide

theorem decodeFrom_digit {state : State} {value : Nat} (small : value < 64)
    (noPad : state.padded = false) (rest : List Char) :
    decodeFrom state (digit value :: rest) = match state.push value with
      | (none, next) => decodeFrom next rest
      | (some byte, next) => (decodeFrom next rest).map (byte :: ·) := by
  rw [decodeFrom, if_neg (digit_ne_pad value small), value?_digit value small]
  exact if_neg (by simp [noPad])

theorem ofNat_eq (byte : UInt8) {n : Nat} (same : n = byte.toNat) : UInt8.ofNat n = byte := by
  subst same
  exact UInt8.ofNat_toNat

theorem first_byte (a b : UInt8) :
    UInt8.ofNat (a.toNat / 4 * 4 + (a.toNat % 4 * 16 + b.toNat / 16) / 16) = a := by
  have small := b.toNat_lt
  exact ofNat_eq a (by omega)

private theorem second_byte (a b c : UInt8) :
    UInt8.ofNat ((a.toNat % 4 * 16 + b.toNat / 16) % 16 * 16 +
      (b.toNat % 16 * 4 + c.toNat / 64) / 4) = b := by
  have small := b.toNat_lt
  have small := c.toNat_lt
  exact ofNat_eq b (by omega)

/-- Reading undoes writing, however many bytes have been read before. The induction goes by
groups. -/
theorem decodeFrom_encodeChars (bytes : Bytes) (written : Nat) :
    decodeFrom { written } (encodeChars bytes) = .ok bytes := by
  fun_induction encodeChars bytes generalizing written with
  | case1 a b c rest ih =>
    have ha := a.toNat_lt
    have hb := b.toNat_lt
    have hc := c.toNat_lt
    have third : UInt8.ofNat ((b.toNat % 16 * 4 + c.toNat / 64) % 4 * 64 + c.toNat % 64) = c :=
      ofNat_eq c (by omega)
    iterate 4
      rw [decodeFrom_digit (by omega) rfl]
      simp only [State.push]
    simp only [ih, Except.map, first_byte, second_byte, third]
  | case2 a b =>
    have ha := a.toNat_lt
    have hb := b.toNat_lt
    have second : UInt8.ofNat ((a.toNat % 4 * 16 + b.toNat / 16) % 16 * 16 + b.toNat % 16 *
        4 / 4) = b :=
      ofNat_eq b (by omega)
    iterate 3
      rw [decodeFrom_digit (by omega) rfl]
      simp only [State.push]
    simp only [decodeFrom, Except.map, first_byte, second]
    rfl
  | case3 a =>
    have ha := a.toNat_lt
    have first : UInt8.ofNat (a.toNat / 4 * 4 + a.toNat % 4 * 16 / 16) = a := ofNat_eq a (by omega)
    iterate 2
      rw [decodeFrom_digit (by omega) rfl]
      simp only [State.push]
    simp only [decodeFrom, Except.map, first]
    rfl
  | case4 => rfl

/-- What the text consists of: characters for numbers, and signs that pad it. -/
theorem mem_encodeChars {bytes : Bytes} {c : Char} (member : c ∈ encodeChars bytes) :
    c = '=' ∨ ∃ value < 64, c = digit value := by
  fun_induction encodeChars bytes with
  | case1 a b d rest ih =>
    have ha := a.toNat_lt
    have hb := b.toNat_lt
    have hd := d.toNat_lt
    simp only [List.mem_cons] at member
    rcases member with rfl | rfl | rfl | rfl | member
    · exact .inr ⟨_, by omega, rfl⟩
    · exact .inr ⟨_, by omega, rfl⟩
    · exact .inr ⟨_, by omega, rfl⟩
    · exact .inr ⟨_, by omega, rfl⟩
    · exact ih member
  | case2 a b =>
    have ha := a.toNat_lt
    have hb := b.toNat_lt
    simp only [List.mem_cons, List.not_mem_nil, or_false] at member
    rcases member with rfl | rfl | rfl | rfl
    · exact .inr ⟨_, by omega, rfl⟩
    · exact .inr ⟨_, by omega, rfl⟩
    · exact .inr ⟨_, by omega, rfl⟩
    · exact .inl rfl
  | case3 a =>
    have ha := a.toNat_lt
    simp only [List.mem_cons, List.not_mem_nil, or_false] at member
    rcases member with rfl | rfl | rfl | rfl
    · exact .inr ⟨_, by omega, rfl⟩
    · exact .inr ⟨_, by omega, rfl⟩
    · exact .inl rfl
    · exact .inl rfl
  | case4 => simp at member

private theorem encodeChars_ascii {bytes : Bytes} {c : Char} (member : c ∈ encodeChars bytes) :
    c.toNat < 128 := by
  rcases mem_encodeChars member with rfl | ⟨value, small, rfl⟩
  · decide
  · exact digit_ascii value small

private theorem encodeChars_head (bytes : Bytes) : (encodeChars bytes).head? ≠ some '=' := by
  fun_cases encodeChars bytes with
  | case1 a b c rest =>
    have ha := a.toNat_lt
    simpa using digit_ne_pad _ (by omega)
  | case2 a b =>
    have ha := a.toNat_lt
    simpa using digit_ne_pad _ (by omega)
  | case3 a =>
    have ha := a.toNat_lt
    simpa using digit_ne_pad _ (by omega)
  | case4 => simp

/-- Every byte string is what its base64 text stands for. -/
theorem decode_encode (bytes : Bytes) : decode (encode bytes) = .ok bytes := by
  have ascii : (encodeChars bytes).any (fun c => 128 ≤ c.toNat) = false := by
    simp only [List.any_eq_false, decide_eq_true_eq, Nat.not_le]
    exact fun c => encodeChars_ascii
  rw [decode, encode, String.toList_ofList, decodeChars, ascii, if_neg (by simp),
    if_neg (encodeChars_head bytes)]
  exact decodeFrom_encodeChars bytes 0

theorem decodeCanonical?_encodeChars (bytes : Bytes) :
    decodeCanonical? (encodeChars bytes) = some bytes := by
  have decoded := decode_encode bytes
  rw [decode, encode, String.toList_ofList] at decoded
  rw [decodeCanonical?, decoded]
  exact if_pos rfl

end SignerPlugin.Base64
