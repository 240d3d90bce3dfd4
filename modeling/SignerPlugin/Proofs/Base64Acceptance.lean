import Mathlib.Data.List.Basic
import SignerPlugin.Proofs.Base64Text
import SignerPlugin.Proofs.ByteNumbers

/-! Which texts are read as base64, and as which bytes. Standard texts are, and so are texts
in which surplus signs follow whole groups of data characters, as if these signs were not
there; no other text is. The bytes are those that the data characters write six bits each. So
texts of the same bytes differ at most in the bits of the last data character that fill no
byte, and in surplus signs. -/

namespace SignerPlugin.Base64

/-- The characters of the standard alphabet, in the order of their values. -/
def alphabet : List Char :=
  "ABCDEFGHIJKLMNOPQRSTUVWXYZabcdefghijklmnopqrstuvwxyz0123456789+/".toList

/-- The values of the data characters of a text. -/
def digits (text : List Char) : List Nat := text.filterMap value?

/-- The number that values write to base 64. -/
def number (digits : List Nat) : Nat := digits.foldl (fun sum digit => sum * 64 + digit) 0

/-- How many bits of the last of so many data characters fill no byte. -/
def spare (count : Nat) : Nat := 6 * count % 8

/-- The bytes that values write, six bits each; spare bits are dropped. -/
def bytesOf (digits : List Nat) : Bytes :=
  Bytes.ofNat (6 * digits.length / 8) (number digits / 2 ^ spare digits.length)

/-- Whole groups of four: characters of the alphabet, and at most two signs that pad them at
the very end. -/
def IsStandard (text : List Char) : Prop :=
  text.length % 4 = 0 ∧ ∃ data pads, pads ≤ 2 ∧ text = data ++ List.replicate pads '=' ∧
    ∀ c ∈ data, c ∈ alphabet

/-- Two texts that differ at most in the bits of their last data character that fill no byte. -/
def Twins (text other : List Char) : Prop :=
  text = other ∨ ∃ front value value' pads, (∀ c ∈ front, c ∈ alphabet) ∧ value < 64 ∧ value' < 64 ∧
    text = front ++ digit value :: List.replicate pads '=' ∧ other = front ++ digit value' ::
      List.replicate pads '=' ∧
    value / 2 ^ spare (front.length + 1) = value' / 2 ^ spare (front.length + 1)

/-- Whole groups of data characters, and behind them signs that pad nothing. -/
def IsOverpadded (text : List Char) : Prop :=
  ∃ whole pads, whole ≠ [] ∧ whole.length % 4 = 0 ∧ 0 < pads ∧
    text = whole ++ List.replicate pads '=' ∧ ∀ c ∈ whole, c ∈ alphabet

section Alphabet

private theorem value?_wide {c : Char} (wide : 128 ≤ c.toNat) : value? c = none := by
  have beyond (high : Char) (ascii : high.toNat < 128) : ¬ c ≤ high := by
    intro below
    have : c.toNat ≤ high.toNat := below
    omega
  have other (sign : Char) (ascii : sign.toNat < 128) : c ≠ sign := by
    rintro rfl
    omega
  simp [value?, beyond 'Z' (by decide), beyond 'z' (by decide), beyond '9' (by decide),
    other '+' (by decide),
    other '/' (by decide)]

private theorem value?_table : ∀ n < 128, ∀ value ∈ value? (Char.ofNat n), value < 64 ∧
    Char.ofNat n = digit value := by decide

/-- A data character is the one that is written for its value. -/
theorem value?_eq_some {c : Char} {value : Nat} (known : value? c = some value) :
    value < 64 ∧ c = digit value := by
  have ascii : c.toNat < 128 := by
    by_contra wide
    rw [value?_wide (by omega)] at known
    cases known
  have listed := value?_table c.toNat ascii value
  rw [Char.ofNat_toNat] at listed
  exact listed known

theorem alphabet_getElem? : ∀ value < 64, alphabet[value]? = some (digit value) := by decide

/-- The value of a character is its place in the alphabet. -/
theorem value?_eq_some_iff {c : Char} {value : Nat} :
    value? c = some value ↔ alphabet[value]? = some c := by
  constructor
  · intro known
    obtain ⟨small, rfl⟩ := value?_eq_some known
    exact alphabet_getElem? value small
  · intro placed
    have small : value < 64 := (List.getElem?_eq_some_iff.mp placed).1
    rw [alphabet_getElem? value small] at placed
    rw [← Option.some.inj placed, value?_digit value small]

theorem mem_alphabet_iff {c : Char} : c ∈ alphabet ↔ ∃ value, value? c = some value := by
  simp only [value?_eq_some_iff, List.mem_iff_getElem?]

private theorem ne_pad_of_mem_alphabet {c : Char} (member : c ∈ alphabet) : c ≠ '=' := by
  obtain ⟨value, known⟩ := mem_alphabet_iff.mp member
  obtain ⟨small, rfl⟩ := value?_eq_some known
  exact digit_ne_pad value small

private theorem ascii_of_mem_alphabet {c : Char} (member : c ∈ alphabet) : c.toNat < 128 := by
  obtain ⟨value, known⟩ := mem_alphabet_iff.mp member
  obtain ⟨small, rfl⟩ := value?_eq_some known
  exact digit_ascii value small

end Alphabet

section Data

theorem number_concat (values : List Nat) (value : Nat) :
    number (values ++ [value]) = number values * 64 + value := by
  simp [number]

/-- The state after data characters with these values. -/
def after (values : List Nat) : State :=
  { place := values.length % 4
    bits := number values % 2 ^ spare values.length
    written := 6 * values.length / 8 }

/-- One value more adds its six bits to those that are left over, and the byte that these
complete. -/
private theorem push_after (values : List Nat) {value : Nat} (small : value < 64) :
    ((after values).push value).2 = after (values ++ [value]) ∧
      bytesOf (values ++ [value]) = bytesOf values ++ ((after values).push value).1.toList := by
  have length : (values ++ [value]).length = values.length + 1 := by simp
  simp only [State.push, after, bytesOf, length, number_concat]
  -- Of the four places in a group, all but the first complete a byte, with the bits that the
  -- values before left over.
  rcases (by omega : values.length % 4 = 0 ∨ values.length % 4 = 1 ∨ values.length % 4 = 2 ∨
    values.length % 4 = 3) with place | place | place | place
  · have next : (values.length + 1) % 4 = 1 := by omega
    have bytes : 6 * (values.length + 1) / 8 = 6 * values.length / 8 := by omega
    have unused : spare values.length = 0 ∧ spare (values.length + 1) = 6 := by unfold spare; omega
    have bits : (number values * 64 + value) % 2 ^ 6 = value := by omega
    have front : (number values * 64 + value) / 2 ^ 6 = number values := by omega
    simp only [place, next, bytes, unused, bits, front, Nat.pow_zero, Nat.div_one,
      Option.toList, List.append_nil, and_self]
  · have next : (values.length + 1) % 4 = 2 := by omega
    have bytes : 6 * (values.length + 1) / 8 = 6 * values.length / 8 + 1 := by omega
    have unused : spare values.length = 6 ∧ spare (values.length + 1) = 4 := by unfold spare; omega
    have bits : (number values * 64 + value) % 2 ^ 4 = value % 16 := by omega
    have front : (number values * 64 + value) / 2 ^ 4 / 256 = number values / 2 ^ 6 := by omega
    have byte : (number values * 64 + value) / 2 ^ 4 % 256 = number values % 2 ^ 6 * 4 + value /
        16 := by omega
    simp only [place, next, bytes, unused, bits, Bytes.ofNat, front, byte, Option.toList, and_self]
  · have next : (values.length + 1) % 4 = 3 := by omega
    have bytes : 6 * (values.length + 1) / 8 = 6 * values.length / 8 + 1 := by omega
    have unused : spare values.length = 4 ∧ spare (values.length + 1) = 2 := by unfold spare; omega
    have bits : (number values * 64 + value) % 2 ^ 2 = value % 4 := by omega
    have front : (number values * 64 + value) / 2 ^ 2 / 256 = number values / 2 ^ 4 := by omega
    have byte : (number values * 64 + value) / 2 ^ 2 % 256 = number values % 2 ^ 4 * 16 +
        value / 4 := by omega
    simp only [place, next, bytes, unused, bits, Bytes.ofNat, front, byte, Option.toList, and_self]
  · have next : (values.length + 1) % 4 = 0 := by omega
    have bytes : 6 * (values.length + 1) / 8 = 6 * values.length / 8 + 1 := by omega
    have unused : spare values.length = 2 ∧ spare (values.length + 1) = 0 := by unfold spare; omega
    have bits : (number values * 64 + value) % 2 ^ 0 = 0 := Nat.mod_one _
    have front : (number values * 64 + value) / 2 ^ 0 / 256 = number values / 2 ^ 2 := by omega
    have byte : (number values * 64 + value) / 2 ^ 0 % 256 = number values % 2 ^ 2 * 64 +
        value := by omega
    simp only [place, next, bytes, unused, bits, Bytes.ofNat, front, byte, Option.toList, and_self]

theorem length_digits {data : List Char} (all : ∀ c ∈ data, c ∈ alphabet) :
    (digits data).length = data.length := by
  induction data with
  | nil => rfl
  | cons c rest ih =>
    obtain ⟨value, known⟩ := mem_alphabet_iff.mp (all c (by simp))
    rw [digits, List.filterMap_cons_some known, List.length_cons, List.length_cons]
    exact congrArg (· + 1) (ih fun c member => all c (by simp [member]))

theorem digits_concat (data : List Char) {c : Char} {value : Nat} (known : value? c = some value) :
    digits (data ++ [c]) = digits data ++ [value] := by
  simp [digits, known]

theorem digits_padded (data : List Char) (pads : Nat) :
    digits (data ++ List.replicate pads '=') = digits data := by
  have noValue : value? '=' = none := rfl
  rw [digits, List.filterMap_append, List.filterMap_replicate_of_none noValue, List.append_nil]
  rfl

/-- The reader takes data characters for the bytes that they write. -/
theorem decodeFrom_data {data : List Char} (all : ∀ c ∈ data, c ∈ alphabet) (rest : List Char) :
    decodeFrom {} (data ++ rest) = (decodeFrom (after (digits data)) rest).map
      (bytesOf (digits data) ++ ·) := by
  induction data using List.reverseRecOn generalizing rest with
  | nil =>
    have start : after (digits []) = {} := rfl
    rw [start, List.nil_append]
    cases decodeFrom {} rest <;> rfl
  | append_singleton data c ih =>
    obtain ⟨value, known⟩ := mem_alphabet_iff.mp (all c (by simp))
    obtain ⟨small, rfl⟩ := value?_eq_some known
    obtain ⟨state, bytes⟩ := push_after (digits data) small
    rw [List.append_assoc, List.singleton_append, ih (fun c member => all c (by simp [member])),
      decodeFrom_digit small rfl, digits_concat data known, bytes, ← state]
    rcases (after (digits data)).push value with ⟨_ | byte, next⟩
    · rw [Option.toList, List.append_nil]
    · simp only [Option.toList]
      cases decodeFrom next rest with
      | error fault => rfl
      | ok found => simp [Except.map]

end Data

section Padding

/-- A text that is read is data characters and signs behind them. -/
theorem shape_of_decodeFrom {state : State} {text : List Char} {bytes : Bytes}
    (read : decodeFrom state text = .ok bytes) :
    ∃ data pads, (∀ c ∈ data, c ∈ alphabet) ∧ text = data ++ List.replicate pads '=' ∧
      (state.padded → data = []) := by
  induction text generalizing state bytes with
  | nil => exact ⟨[], 0, by simp, rfl, fun _ => rfl⟩
  | cons c rest ih =>
    rw [decodeFrom] at read
    split at read
    · rename_i sign
      subst sign
      split at read
      · split at read
        · rename_i last
          obtain rfl : rest = [] := List.isEmpty_iff.mp last
          exact ⟨[], 1, by simp, rfl, fun _ => rfl⟩
        · cases read
      · obtain ⟨data, pads, _, rfl, none⟩ := ih read
        obtain rfl := none rfl
        exact ⟨[], pads + 1, by simp, rfl, fun _ => rfl⟩
    · split at read
      · cases read
      -- Data may only come while no sign has, so behind it the shape of the rest is that of the
      -- whole.
      · rename_i value known
        have member : c ∈ alphabet := mem_alphabet_iff.mpr ⟨value, known⟩
        have extend {next : State} {found : Bytes} (reads : decodeFrom next rest = .ok found) :
            ∃ data pads, (∀ c ∈ data, c ∈ alphabet) ∧
              c :: rest = data ++ List.replicate pads '=' := by
          obtain ⟨data, pads, all, rfl, _⟩ := ih reads
          exact ⟨c :: data, pads, by simpa using ⟨member, all⟩, rfl⟩
        split at read
        · cases read
        · rename_i unpadded
          have found : ∃ data pads, (∀ c ∈ data, c ∈ alphabet) ∧
              c :: rest = data ++ List.replicate pads '=' := by
            split at read
            · exact extend read
            · rename_i byte next _
              cases reads : decodeFrom next rest with
              | error fault =>
                rw [reads] at read
                cases read
              | ok found => exact extend reads
          obtain ⟨data, pads, all, same⟩ := found
          exact ⟨data, pads, all, same, fun padded => absurd padded unpadded⟩

private theorem decodeFrom_surplus {state : State} (whole : state.place = 0) (pads : Nat) :
    decodeFrom state (List.replicate pads '=') = .ok [] := by
  induction pads generalizing state with
  | zero => simp [decodeFrom, State.finish, whole]
  | succ pads ih =>
    rw [List.replicate_succ, decodeFrom, if_pos rfl, if_neg (by omega)]
    exact ih whole

private theorem decodeFrom_lone {state : State} (lone : state.place = 1) (pads : Nat)
    (bytes : Bytes) : decodeFrom state (List.replicate pads '=') ≠ .ok bytes := by
  induction pads generalizing state with
  | zero => simp [decodeFrom, State.finish, lone]
  | succ pads ih =>
    rw [List.replicate_succ, decodeFrom, if_pos rfl, if_neg (by omega)]
    exact ih lone

/-- How many signs may stand behind so many data characters. After whole groups any number is
passed over. -/
def Closes (count pads : Nat) : Prop :=
  count % 4 = 0 ∨ count % 4 = 2 ∧ pads = 2 ∨ count % 4 = 3 ∧ pads = 1

theorem decodeFrom_pads {values : List Nat} {pads : Nat} {bytes : Bytes} :
    decodeFrom (after values) (List.replicate pads '=') = .ok bytes ↔
      Closes values.length pads ∧ bytes = [] := by
  have fresh : (after values).pads = 0 := rfl
  have place : (after values).place = values.length % 4 := rfl
  generalize after values = state at fresh place
  unfold Closes
  rcases (by omega : values.length % 4 = 0 ∨ values.length % 4 = 1 ∨ values.length % 4 = 2 ∨
    values.length % 4 = 3) with zero | one | two | three
  · rw [decodeFrom_surplus (place.trans zero)]
    simp [zero, eq_comm]
  · have never := decodeFrom_lone (place.trans one) pads bytes
    simp [one, never]
  · rcases pads with _ | _ | _ | pads
    · simp [decodeFrom, State.finish, place, two]
    · simp [decodeFrom, State.finish, place, two, fresh]
    · simp [decodeFrom, place, two, fresh, List.replicate, eq_comm]
    · simp [decodeFrom, place, two, fresh, List.replicate]
  · rcases pads with _ | _ | pads
    · simp [decodeFrom, State.finish, place, three]
    · simp [decodeFrom, place, three, fresh, eq_comm]
    · simp [decodeFrom, place, three, fresh, List.replicate]

end Padding

section Texts

variable {text other data : List Char} {pads : Nat} {bytes : Bytes}

/-- What a text must be made of to be read: data characters, with as many signs behind them as
may stand there. -/
structure Parted (text data : List Char) (pads : Nat) : Prop where
  all : ∀ c ∈ data, c ∈ alphabet
  same : text = data ++ List.replicate pads '='
  begins : data = [] → pads = 0
  closes : Closes data.length pads

theorem Parted.digits_eq (parted : Parted text data pads) : digits text = digits data := by
  rw [parted.same, digits_padded]

/-- The texts that are read, and as which bytes. -/
theorem decodeChars_eq_ok_iff :
    decodeChars text = .ok bytes ↔ (∃ data pads, Parted text data pads) ∧
      bytes = bytesOf (digits text) := by
  constructor
  · intro read
    unfold decodeChars at read
    split at read
    · cases read
    split at read
    · cases read
    · rename_i head
      -- With the data characters read off, only the signs behind them decide.
      obtain ⟨data, pads, all, rfl, -⟩ := shape_of_decodeFrom read
      rw [decodeFrom_data all] at read
      cases ends : decodeFrom (after (digits data)) (List.replicate pads '=') with
      | error fault =>
        rw [ends] at read
        cases read
      | ok rest =>
        obtain ⟨closes, rfl⟩ := decodeFrom_pads.mp ends
        rw [ends] at read
        rw [length_digits all] at closes
        refine ⟨⟨data, pads, all, rfl, ?_, closes⟩, ?_⟩
        · rintro rfl
          cases pads with
          | zero => rfl
          | succ pads => exact absurd rfl head
        · rw [digits_padded]
          simpa [Except.map] using read.symm
  · rintro ⟨⟨data, pads, all, rfl, begins, closes⟩, rfl⟩
    have ascii : (data ++ List.replicate pads '=').any (fun c => 128 ≤ c.toNat) = false := by
      simp only [List.any_eq_false, List.mem_append, List.mem_replicate,
        decide_eq_true_eq, Nat.not_le]
      rintro c (member | ⟨_, rfl⟩)
      · exact ascii_of_mem_alphabet (all c member)
      · decide
    have head : (data ++ List.replicate pads '=').head? ≠ some '=' := by
      cases data with
      | nil =>
        obtain rfl := begins rfl
        simp
      | cons c rest => simpa using ne_pad_of_mem_alphabet (all c (by simp))
    have ends := decodeFrom_pads.mpr ⟨(length_digits all).symm ▸ closes, rfl⟩
    rw [decodeChars, ascii, if_neg Bool.false_ne_true, if_neg head, decodeFrom_data all, ends,
      digits_padded]
    simp [Except.map]

theorem exists_parted_iff : (∃ data pads, Parted text data pads) ↔ IsStandard text ∨
    IsOverpadded text := by
  constructor
  · rintro ⟨data, pads, all, rfl, begins, closes⟩
    have length : (data ++ List.replicate pads '=').length = data.length + pads := by simp
    rcases closes with whole | ⟨two, rfl⟩ | ⟨three, rfl⟩
    · rcases Nat.eq_zero_or_pos pads with rfl | surplus
      · exact .inl ⟨by omega, data, 0, by omega, rfl, all⟩
      · exact .inr ⟨data, pads, fun none => by have := begins none; omega, whole, surplus, rfl, all⟩
    · exact .inl ⟨by omega, data, 2, by omega, rfl, all⟩
    · exact .inl ⟨by omega, data, 1, by omega, rfl, all⟩
  · rintro (⟨groups, data, pads, few, rfl, all⟩ | ⟨data, pads, some, whole, _, rfl, all⟩)
    · have length : (data ++ List.replicate pads '=').length = data.length + pads := by simp
      refine ⟨data, pads, all, rfl, ?_, ?_⟩
      · rintro rfl
        simp only [List.length_nil] at length
        omega
      · unfold Closes
        omega
    · exact ⟨data, pads, all, rfl, fun none => absurd none some, .inl whole⟩

/-- A text is read exactly if it is standard, or would be without its surplus signs. -/
theorem accepted_iff {text : String} :
    (∃ bytes, decode text = .ok bytes) ↔ IsStandard text.toList ∨ IsOverpadded text.toList := by
  rw [← exists_parted_iff]
  constructor
  · rintro ⟨bytes, read⟩
    exact (decodeChars_eq_ok_iff.mp read).1
  · intro parted
    exact ⟨_, decodeChars_eq_ok_iff.mpr ⟨parted, rfl⟩⟩

theorem decode_of_isStandard {text : String} (standard : IsStandard text.toList) :
    decode text = .ok (bytesOf (digits text.toList)) :=
  decodeChars_eq_ok_iff.mpr ⟨exists_parted_iff.mpr (.inl standard), rfl⟩

/-- Surplus signs are passed over. -/
theorem decode_of_isOverpadded {text : String} (overpadded : IsOverpadded text.toList) :
    ∃ (whole : String) (pads : Nat), IsStandard whole.toList ∧ 0 < pads ∧
      text.toList = whole.toList ++ List.replicate pads '=' ∧ decode text = decode whole := by
  have read : decode text = _ :=
    decodeChars_eq_ok_iff.mpr ⟨exists_parted_iff.mpr (.inr overpadded), rfl⟩
  obtain ⟨whole, pads, _, groups, surplus, same, all⟩ := overpadded
  have standard : IsStandard whole := ⟨groups, whole, 0, by omega, by simp, all⟩
  refine ⟨.ofList whole, pads, ?_, surplus, ?_, ?_⟩
  · rwa [String.toList_ofList]
  · rwa [String.toList_ofList]
  · rw [read, same, digits_padded, decode_of_isStandard (by rwa [String.toList_ofList]),
      String.toList_ofList]

end Texts

section Sameness

theorem digits_lt {text : List Char} {value : Nat} (member : value ∈ digits text) : value < 64 := by
  obtain ⟨c, _, known⟩ := List.mem_filterMap.mp member
  exact (value?_eq_some known).1

/-- Data characters can be told from their values. -/
theorem map_digit_digits {data : List Char} (all : ∀ c ∈ data, c ∈ alphabet) :
    (digits data).map digit = data := by
  induction data with
  | nil => rfl
  | cons c rest ih =>
    obtain ⟨value, known⟩ := mem_alphabet_iff.mp (all c (by simp))
    rw [digits, List.filterMap_cons_some known, List.map_cons, ← (value?_eq_some known).2]
    exact congrArg (c :: ·) (ih fun c member => all c (by simp [member]))

private theorem number_lt {values : List Nat} (small : ∀ value ∈ values, value < 64) :
    number values < 64 ^ values.length := by
  induction values using List.reverseRecOn with
  | nil => exact Nat.one_pos
  | append_singleton values value ih =>
    have last := small value (by simp)
    have front := ih fun value member => small value (by simp [member])
    rw [number_concat, List.length_append, List.length_singleton, Nat.pow_succ]
    omega

/-- Values can be told from the number that they write, and how many they are. -/
theorem number_inj {values others : List Nat} (small : ∀ value ∈ values, value < 64)
    (small' : ∀ value ∈ others, value < 64) (length : values.length = others.length)
    (same : number values = number others) : values = others := by
  induction values using List.reverseRecOn generalizing others with
  | nil => exact (List.length_eq_zero_iff.mp length.symm).symm
  | append_singleton values value ih =>
    rcases List.eq_nil_or_concat' others with rfl | ⟨others, other, rfl⟩
    · simp at length
    · have last := small value (by simp)
      have last' := small' other (by simp)
      rw [number_concat, number_concat] at same
      obtain rfl : value = other := by omega
      have fronts : values = others :=
        ih (fun value member => small value (by simp [member]))
          (fun value member => small' value (by simp [member]))
          (by simpa using length) (by omega)
      rw [fronts]

/-- The number of a text's data characters, without the spare bits, fits the bytes that are read. -/
theorem number_div_lt {values : List Nat} (small : ∀ value ∈ values, value < 64) :
    number values / 2 ^ spare values.length < 256 ^ (6 * values.length / 8) := by
  have bits : spare values.length + 8 * (6 * values.length / 8) = 6 * values.length :=
    Nat.mod_add_div ..
  have whole : 2 ^ spare values.length * 256 ^ (6 * values.length / 8) = 64 ^ values.length := by
    calc 2 ^ spare values.length * 256 ^ (6 * values.length / 8)
        = 2 ^ spare values.length * 2 ^ (8 * (6 * values.length / 8)) := by rw [Nat.pow_mul 2 8]
      _ = 2 ^ (6 * values.length) := by rw [← Nat.pow_add, bits]
      _ = 64 ^ values.length := Nat.pow_mul 2 6 _
  exact Nat.div_lt_of_lt_mul (whole ▸ number_lt small)

/-- Of the number of values, the spare bits are among those of the last one. -/
theorem number_div_eq_iff {values others : List Nat} {value other count : Nat}
    (small : value < 64) (small' : other < 64) :
    number (values ++ [value]) / 2 ^ spare count = number (others ++ [other]) / 2 ^ spare count ↔
      number values = number others ∧ value / 2 ^ spare count = other / 2 ^ spare count := by
  rw [number_concat, number_concat]
  have unused : spare count = 0 ∨ spare count = 2 ∨ spare count = 4 ∨ spare count = 6 := by
    unfold spare; omega
  rcases unused with none | two | four | six
  · rw [none]
    omega
  · rw [two]
    omega
  · rw [four]
    omega
  · rw [six]
    omega

theorem count_of_bytes {count : Nat} (ends : count % 4 ≠ 1) :
    count = (6 * count / 8 * 4 + 2) / 3 := by
  rcases (by omega : count % 4 = 0 ∨ count % 4 = 2 ∨ count % 4 = 3) with zero | two | three
  · omega
  · omega
  · omega

/-- The bytes tell how many values there are, if that is not one more than whole groups, and
their number up to spare bits. -/
theorem bytesOf_eq_iff {values others : List Nat} (small : ∀ value ∈ values, value < 64)
    (small' : ∀ value ∈ others, value < 64) (ends : values.length % 4 ≠ 1)
    (ends' : others.length % 4 ≠ 1) :
    bytesOf values = bytesOf others ↔ values.length = others.length ∧
      number values / 2 ^ spare values.length = number others / 2 ^ spare values.length := by
  constructor
  · intro same
    have count := congrArg List.length same
    simp only [bytesOf, Bytes.length_ofNat] at count
    have length : values.length = others.length := by
      rw [count_of_bytes ends, count, ← count_of_bytes ends']
    have numbers := congrArg Bytes.toNat same
    rw [bytesOf, bytesOf, Bytes.toNat_ofNat (number_div_lt small),
      Bytes.toNat_ofNat (number_div_lt small')] at numbers
    exact ⟨length, by rw [numbers, length]⟩
  · rintro ⟨length, numbers⟩
    rw [bytesOf, bytesOf, numbers, length]

theorem Parted.count_ne_one {text data : List Char} {pads : Nat} (parted : Parted text data pads) :
    (digits data).length % 4 ≠ 1 := by
  have closes := parted.closes
  rw [length_digits parted.all]
  unfold Closes at closes
  omega

theorem Parted.of_isStandard {text : List Char} (standard : IsStandard text) :
    ∃ data pads, Parted text data pads ∧ pads ≤ 2 ∧ (data.length + pads) % 4 = 0 := by
  obtain ⟨groups, data, pads, few, rfl, all⟩ := standard
  have length : (data ++ List.replicate pads '=').length = data.length + pads := by simp
  refine ⟨data, pads, ⟨all, rfl, ?_, ?_⟩, few, by omega⟩
  · rintro rfl
    simp only [List.length_nil] at length
    omega
  · unfold Closes
    omega

/-- Standard texts write the same bytes exactly if they differ at most in spare bits. -/
theorem bytesOf_digits_eq_iff {text other : List Char} (standard : IsStandard text)
    (standard' : IsStandard other) :
    bytesOf (digits text) = bytesOf (digits other) ↔ Twins text other := by
  obtain ⟨data, pads, parted, few, groups⟩ := Parted.of_isStandard standard
  obtain ⟨data', pads', parted', few', groups'⟩ := Parted.of_isStandard standard'
  constructor
  · intro same
    rw [parted.digits_eq, parted'.digits_eq,
      bytesOf_eq_iff (fun _ => digits_lt) (fun _ => digits_lt) parted.count_ne_one
      parted'.count_ne_one, length_digits parted.all, length_digits parted'.all] at same
    obtain ⟨length, numbers⟩ := same
    -- As many data characters in whole groups leave room for as many signs.
    obtain rfl : pads = pads' := by omega
    rcases List.eq_nil_or_concat' data with rfl | ⟨front, c, rfl⟩
    · obtain rfl : data' = [] := List.length_eq_zero_iff.mp length.symm
      exact .inl (parted.same.trans parted'.same.symm)
    rcases List.eq_nil_or_concat' data' with rfl | ⟨front', c', rfl⟩
    · simp at length
    have all (c) (member : c ∈ front) : c ∈ alphabet := parted.all c (by simp [member])
    have all' (c) (member : c ∈ front') : c ∈ alphabet := parted'.all c (by simp [member])
    obtain ⟨value, known⟩ := mem_alphabet_iff.mp (parted.all c (by simp))
    obtain ⟨value', known'⟩ := mem_alphabet_iff.mp (parted'.all c' (by simp))
    obtain ⟨small, rfl⟩ := value?_eq_some known
    obtain ⟨small', rfl⟩ := value?_eq_some known'
    rw [digits_concat front known, digits_concat front' known',
      number_div_eq_iff small small'] at numbers
    have fronts : digits front = digits front' :=
      number_inj (fun _ => digits_lt) (fun _ => digits_lt)
        (by rw [length_digits all, length_digits all']; simpa using length) numbers.1
    obtain rfl : front = front' := by rw [← map_digit_digits all, fronts, map_digit_digits all']
    refine .inr ⟨front, value, value', pads, all, small, small', ?_, ?_, by simpa using numbers.2⟩
    · rw [parted.same, List.append_assoc, List.singleton_append]
    · rw [parted'.same, List.append_assoc, List.singleton_append]
  · rintro (rfl | ⟨front, value, value', pads, all, small, small', rfl, rfl, same⟩)
    · rfl
    have fill {value : Nat} (small : value < 64) :
        digits (front ++ digit value :: List.replicate pads '=') = digits front ++ [value] := by
      rw [← List.singleton_append, ← List.append_assoc, digits_padded,
        digits_concat front (value?_digit value small)]
    rw [fill small, fill small', bytesOf, bytesOf, List.length_append, List.length_append,
      List.length_singleton, List.length_singleton, length_digits all,
      (number_div_eq_iff small small').mpr ⟨rfl, same⟩]

/-- Standard texts that are read as the same bytes differ at most in spare bits. -/
theorem decode_eq_iff {text other : String} (standard : IsStandard text.toList)
    (standard' : IsStandard other.toList) :
    decode text = decode other ↔ Twins text.toList other.toList := by
  rw [decode_of_isStandard standard, decode_of_isStandard standard', Except.ok.injEq,
    bytesOf_digits_eq_iff standard standard']

end Sameness

end SignerPlugin.Base64
