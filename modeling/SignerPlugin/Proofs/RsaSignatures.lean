import Mathlib.FieldTheory.Finite.Basic
import Mathlib.NumberTheory.LucasPrimality
import SignerPlugin.Key.Suite
import SignerPlugin.Proofs.KeyData

/-! RSA signatures. If the factors of a modulus are prime, the exponent of a key undoes what
its secret does; so what was signed is found again when the signature is checked. -/

namespace SignerPlugin

namespace Crypto

theorem powMod_eq (base exponent modulus : Nat) :
    powMod base exponent modulus = base ^ exponent % modulus := by
  induction exponent using Nat.strong_induction_on with
  | _ exponent ih =>
    rw [powMod]
    by_cases zero : exponent = 0
    · rw [if_pos zero, zero, Nat.pow_zero]
    · have half := ih (exponent / 2) (by omega)
      have square : powMod base (exponent / 2) modulus *
          powMod base (exponent / 2) modulus % modulus =
          base ^ (2 * (exponent / 2)) % modulus := by
        rw [half, ← Nat.mul_mod, ← Nat.pow_add, Nat.two_mul]
      rw [if_neg zero]
      simp only [square]
      by_cases odd : exponent % 2 = 1
      · have parts : 2 * (exponent / 2) + 1 = exponent := by omega
        rw [if_pos odd, Nat.mod_mul_mod, Nat.mul_mod_mod, ← pow_succ, parts]
      · have parts : 2 * (exponent / 2) = exponent := by omega
        rw [if_neg odd, parts]

/-- To a prime modulus, a power that is one more than a multiple of the prime less one changes
nothing. -/
theorem pow_modEq_self {prime : Nat} (isPrime : prime.Prime) (base count : Nat) :
    base ^ ((prime - 1) * count + 1) ≡ base [MOD prime] := by
  by_cases divides : prime ∣ base
  · have zero : base ≡ 0 [MOD prime] := (Nat.modEq_zero_iff_dvd.mpr divides)
    have power : base ^ ((prime - 1) * count + 1) ≡ 0 [MOD prime] :=
      Nat.modEq_zero_iff_dvd.mpr (dvd_pow divides (Nat.succ_ne_zero _))
    exact power.trans zero.symm
  · have coprime : base.Coprime prime := (isPrime.coprime_iff_not_dvd.mpr divides).symm
    have one : base ^ (prime - 1) ≡ 1 [MOD prime] := by
      rw [← Nat.totient_prime isPrime]
      exact Nat.ModEq.pow_totient coprime
    calc base ^ ((prime - 1) * count + 1)
        = (base ^ (prime - 1)) ^ count * base := by rw [Nat.pow_succ, Nat.pow_mul]
      _ ≡ 1 ^ count * base [MOD prime] := (one.pow count).mul_right base
      _ = base := by rw [Nat.one_pow, Nat.one_mul]

/-- Lucas' test for a number that is one more than a prime times a power of two: a base whose
powers come back to one there and not before. -/
theorem prime_of_powMod {factor height n : Nat} (base : Nat) (isPrime : factor.Prime)
    (next : n = factor * 2 ^ height + 1) (whole : powMod base (n - 1) n = 1)
    (half : powMod base ((n - 1) / 2) n ≠ 1) (part : powMod base ((n - 1) / factor) n ≠ 1) :
    n.Prime := by
  have big : 1 < n := by
    have positive := Nat.mul_pos isPrime.pos (Nat.two_pow_pos height)
    omega
  have power (exponent : Nat) : (base : ZMod n) ^ exponent = 1 ↔ powMod base exponent n = 1 := by
    rw [powMod_eq, ← Nat.cast_pow, ← Nat.cast_one, ZMod.natCast_eq_natCast_iff',
      Nat.mod_eq_of_lt big]
  refine lucas_primality n (base : ZMod n) ((power _).mpr whole) ?_
  intro prime primality divides
  rw [next, Nat.add_sub_cancel, primality.dvd_mul] at divides
  rw [Ne, power]
  rcases divides with divides | divides
  · rw [(Nat.prime_dvd_prime_iff_eq primality isPrime).mp divides]
    exact part
  · rw [(Nat.prime_dvd_prime_iff_eq primality Nat.prime_two).mp (primality.dvd_of_dvd_pow divides)]
    exact half

namespace Rsa

variable {key : PrivateKey} {hash : HashFunc} {digest message signature : Bytes}
  {modulus length : Nat}

/-- A key of two factors that are known to be prime. -/
def provenKey : PrivateKey := .ofPrimes (3 * 2 ^ 276 + 1) (7 * 2 ^ 290 + 1)

/-! ### Sizes -/

private theorem lt_pow_size (modulus : Nat) : modulus < 256 ^ size modulus := by
  by_cases zero : modulus = 0
  · rw [zero]
    decide
  · have enough : Nat.log2 modulus + 1 ≤ 8 * size modulus := by
      rw [size, bits, if_neg zero]
      omega
    calc modulus < 2 ^ (Nat.log2 modulus + 1) := Nat.lt_log2_self
      _ ≤ 2 ^ (8 * size modulus) := Nat.pow_le_pow_right Nat.two_pos enough
      _ = 256 ^ size modulus := Nat.pow_mul 2 8 _

private theorem pow_size_le (positive : modulus ≠ 0) : 256 ^ (size modulus - 1) ≤ modulus := by
  have few : 8 * (size modulus - 1) ≤ Nat.log2 modulus := by
    rw [size, bits, if_neg positive]
    omega
  calc 256 ^ (size modulus - 1) = 2 ^ (8 * (size modulus - 1)) := (Nat.pow_mul 2 8 _).symm
    _ ≤ 2 ^ Nat.log2 modulus := Nat.pow_le_pow_right Nat.two_pos few
    _ ≤ modulus := Nat.log2_self_le positive

/-- What is signed fills the bytes of the modulus, with a zero in front. -/
theorem encode?_bounds (encoded : encode? length hash digest = some message) :
    message.length = length ∧ message.toNat < 256 ^ (length - 1) := by
  simp only [encode?] at encoded
  split at encoded
  · cases encoded
  · rename_i room
    obtain rfl := Option.some.inj encoded
    have full : ∀ info : Bytes, ¬ length < info.length + 11 →
        (1 :: (List.replicate (length - info.length - 3) 0xff ++ 0 :: info)).length =
          length - 1 := by
      intro info room
      simp only [List.length_cons, List.length_append, List.length_replicate]
      omega
    have rest := full _ room
    refine ⟨?_, ?_⟩
    · rw [List.length_cons, rest]
      omega
    · rw [Bytes.toNat_zero_cons, ← rest]
      exact Bytes.toNat_lt _

/-! ### Signing and checking -/

/-- What the secret of a key does, its exponent undoes. -/
theorem pow_secret_exponent (fits : key.fits = true) (first : key.first.Prime)
    (second : key.second.Prime) {n : Nat} (small : n < key.modulus) :
    powMod (powMod n key.secret key.modulus) key.exponent key.modulus = n := by
  simp only [PrivateKey.fits, Bool.and_eq_true, decide_eq_true_eq] at fits
  obtain ⟨⟨⟨⟨⟨⟨⟨-, product⟩, apart⟩, -⟩, -⟩, -⟩, -⟩, undone⟩ := fits
  have power (prime : Nat) (isPrime : prime.Prime)
      (divides : prime - 1 ∣ Nat.lcm (key.first - 1) (key.second - 1)) :
      n ^ (key.secret * key.exponent) ≡ n [MOD prime] := by
    obtain ⟨count, multiple⟩ := divides
    have parts :=
      Nat.div_add_mod (key.exponent * key.secret) (Nat.lcm (key.first - 1) (key.second - 1))
    rw [undone, multiple, Nat.mul_assoc, Nat.mul_comm key.exponent] at parts
    rw [← parts]
    exact pow_modEq_self isPrime n _
  have coprime : key.first.Coprime key.second := (Nat.coprime_primes first second).mpr apart
  have whole : n ^ (key.secret * key.exponent) ≡ n [MOD key.modulus] := by
    rw [← product]
    exact (Nat.modEq_and_modEq_iff_modEq_mul coprime).mp
      ⟨power _ first (Nat.dvd_lcm_left _ _), power _ second (Nat.dvd_lcm_right _ _)⟩
  rw [powMod_eq, powMod_eq, ← Nat.pow_mod, ← Nat.pow_mul, whole, Nat.mod_eq_of_lt small]

/-- A signature made with a key whose factors are prime is accepted with its public half. -/
theorem verify_sign (fits : key.fits = true) (first : key.first.Prime) (second : key.second.Prime)
    (handy : key.publicKey.isHandy = true) (signed : sign? key hash digest = some signature) :
    verify key.publicKey hash digest signature = true := by
  obtain ⟨message, encoded, rfl⟩ := Option.map_eq_some_iff.mp signed
  obtain ⟨full, small⟩ := encode?_bounds encoded
  have product : key.first * key.second = key.modulus := by
    simp only [PrivateKey.fits, Bool.and_eq_true, decide_eq_true_eq] at fits
    exact fits.1.1.1.1.1.1.2
  have positive : key.modulus ≠ 0 := by
    rw [← product]
    exact Nat.mul_ne_zero first.ne_zero second.ne_zero
  have below : message.toNat < key.modulus := Nat.lt_of_lt_of_le small (pow_size_le positive)
  have reduced : powMod message.toNat key.secret key.modulus < key.modulus := by
    rw [powMod_eq]
    exact Nat.mod_lt _ (Nat.pos_of_ne_zero positive)
  have number : Bytes.toNat
      (Bytes.ofNat (size key.modulus) (powMod message.toNat key.secret key.modulus)) =
      powMod message.toNat key.secret key.modulus :=
    Bytes.toNat_ofNat (Nat.lt_trans reduced (lt_pow_size _))
  have found : Bytes.ofNat (size key.modulus) message.toNat = message := by
    rw [← full]
    exact Bytes.ofNat_toNat message
  have undone := pow_secret_exponent fits first second below
  simp only [verify, Bool.and_eq_true, decide_eq_true_eq]
  refine ⟨⟨⟨handy, Bytes.length_ofNat _ _⟩, ?_⟩, ?_⟩
  · rw [number]
    exact reduced
  · simp only [PrivateKey.publicKey, number, undone, found, encoded]

end Rsa
end Crypto
end SignerPlugin
