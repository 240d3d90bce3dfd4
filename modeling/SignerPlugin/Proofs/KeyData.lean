import Mathlib.Data.Option.Basic
import SignerPlugin.Key.Algorithm
import SignerPlugin.Proofs.DigestLengths

/-! Keys as structured data: short elements are read as they were written, one after the
other, and so are keys on Edwards curves, which are what is drawn for them. -/

namespace SignerPlugin

namespace Der

/-- An element whose tag and whose length are one byte each. -/
structure Element.Short (element : Element) : Prop where
  tag : element.tag &&& 0x1f ≠ 0x1f
  tagRest : element.tagRest = []
  length : element.content.length < 128

variable {element : Element} {parts : List Element}

private theorem readLength?_short {n : Nat} (short : n < 128) (rest : Bytes) :
    readLength? (writeLength n ++ rest) = some (n, rest) := by
  have same : (UInt8.ofNat n).toNat = n := UInt8.toNat_ofNat_of_lt' (Nat.lt_trans short (by decide))
  rw [writeLength, if_pos short, List.singleton_append, readLength?, same, if_pos short]

theorem Element.Short.read? (short : element.Short) (rest : Bytes) :
    Der.read? (Der.write element.tag element.content ++ rest) = some (element, rest) := by
  obtain ⟨tag, content, tagRest⟩ := element
  obtain rfl : tagRest = [] := short.tagRest
  have noRest (bytes : Bytes) : readTagRest? tag bytes = some ([], bytes) := by
    rw [readTagRest?, if_neg short.tag]
  have length := readLength?_short short.length (content ++ rest)
  have enough : content.length ≤ (content ++ rest).length := by simp
  rw [Der.write, List.cons_append, List.append_assoc, Der.read?]
  simp only [noRest, length, Option.bind_eq_bind, Option.bind_some, guard, if_pos enough]
  simp

theorem Element.Short.content? (short : element.Short) :
    Der.content? element.tag (Der.write element.tag element.content) = some element.content := by
  have read := short.read? []
  rw [List.append_nil] at read
  rw [Der.content?, read]
  simp

/-- The bytes of elements, one after the other. -/
def writeAll (parts : List Element) : Bytes := parts.flatMap fun part => write part.tag part.content

private theorem readMany?_writeAll (short : ∀ part ∈ parts, Element.Short part) (fuel : Nat)
    (enough : (writeAll parts).length ≤ fuel) : readMany? fuel (writeAll parts) = some parts := by
  induction parts generalizing fuel with
  | nil => cases fuel <;> rfl
  | cons part rest ih =>
    have split : writeAll (part :: rest) = write part.tag part.content ++ writeAll rest := rfl
    rw [split, List.length_append] at enough
    have takes : 0 < (write part.tag part.content).length := Nat.succ_pos _
    cases fuel with
    | zero => omega
    | succ fuel =>
      have later :=
        ih (fun other member => short other (List.mem_cons_of_mem _ member)) fuel (by omega)
      have read := (short part List.mem_cons_self).read? (writeAll rest)
      rw [split]
      rw [write, List.cons_append] at read ⊢
      rw [readMany?, read]
      · simp only [Option.bind_eq_bind, Option.bind_some, later]
        rfl
      · nofun

/-- A sequence that is short itself is read as its parts. -/
theorem parts?_sequence (short : ∀ part ∈ parts, Element.Short part)
    (length : (writeAll parts).length < 128) :
    parts? (write Tag.sequence (writeAll parts)) = some parts := by
  have low : Tag.sequence &&& 0x1f ≠ 0x1f := by decide
  have whole : Element.Short ⟨Tag.sequence, writeAll parts, []⟩ := ⟨low, rfl, length⟩
  rw [parts?, whole.content?]
  exact readMany?_writeAll short _ (Nat.le_refl _)

end Der

namespace PrivateKey

open Key

/-- A key on an Edwards curve is read as it was written. -/
theorem read_write_ed25519 {seed : Bytes} (size : seed.length = 32) :
    read (write (.ed25519 seed)) = .ok (.ed25519 seed) := by
  have low : Der.Tag.octetString &&& 0x1f ≠ 0x1f := by decide
  have length : (Der.octets seed).length = 34 := by
    simp [Der.octets, Der.write, Der.writeLength, size]
  have inner : Der.Element.Short ⟨Der.Tag.octetString, seed, []⟩ := ⟨low, rfl, by simp [size]⟩
  have outer : Der.Element.Short ⟨Der.Tag.octetString, Der.octets seed, []⟩ :=
    ⟨low, rfl, by simp [length]⟩
  have zero : Der.integer 0 = Der.write Der.Tag.integer [0] := by decide
  have written : write (.ed25519 seed) = Der.write Der.Tag.sequence
      (Der.writeAll [⟨Der.Tag.integer, [0], []⟩,
      ⟨Der.Tag.sequence, Der.identifier Method.ed25519, []⟩,
        ⟨Der.Tag.octetString, Der.octets seed, []⟩]) := by
    simp [write, kind, Kind.write, body, Der.sequence, Der.octets, Der.writeAll, zero]
  have whole : Der.parts? (write (.ed25519 seed)) = some [⟨Der.Tag.integer, [0], []⟩,
      ⟨Der.Tag.sequence, Der.identifier Method.ed25519, []⟩,
        ⟨Der.Tag.octetString, Der.octets seed, []⟩] := by
    rw [written]
    refine Der.parts?_sequence ?_ ?_
    · simp only [List.mem_cons, List.not_mem_nil, or_false]
      rintro part (rfl | rfl | rfl)
      · exact ⟨by decide, rfl, by decide⟩
      · exact ⟨by decide, rfl, by decide⟩
      · exact outer
    · simp [Der.writeAll, Der.write, Der.writeLength, length, Der.identifier, Method.ed25519]
  have scheme : Scheme.ofElement? ⟨Der.Tag.sequence, Der.identifier Method.ed25519, []⟩ =
      some .ed25519 := by
    decide +kernel
  have parted : parts? (write (.ed25519 seed)) = some (.ed25519, Der.octets seed) := by
    rw [parts?, whole]
    simp only [Option.bind_eq_bind, Option.bind_some, scheme]
    rfl
  have content : Der.content? Der.Tag.octetString (Der.octets seed) = some seed := inner.content?
  rw [read, parted]
  -- The step from the body to the seed has no name outside of its module.
  change orMalformed (((Der.content? Der.Tag.octetString (Der.octets seed)).filter
    fun found => found.length = 32).map
    PrivateKey.ed25519) = _
  have fits : (some seed).filter (fun found => found.length = 32) = some seed := by
    simp [Option.filter, size]
  rw [content, fits]
  rfl

end PrivateKey

/-! ### Draws -/

namespace Entropy

private theorem length_blocks (seed : Bytes) (start count : Nat) :
    (blocks seed start count).length = 64 * count := by
  induction count generalizing start with
  | zero => rfl
  | succ count ih =>
    rw [blocks, List.length_append, HashFunc.length_digest, ih, HashFunc.digestSize]
    omega

private theorem length_draw (count : Nat) (entropy : Entropy) :
    (entropy.draw count).1.length = count := by
  simp only [draw, List.length_take, length_blocks]
  omega

end Entropy

/-- The key on an Edwards curve that is made by default is read as it was written. -/
theorem PrivateKey.read_write_generate (entropy : Entropy) :
    read (KeyAlgorithm.ed25519.generate entropy).1.write =
      .ok (KeyAlgorithm.ed25519.generate entropy).1 :=
  read_write_ed25519 (entropy.length_draw 32)

end SignerPlugin
