import SignerPlugin.Proofs.DispatchEffects

/-! Bags of options against lists of options. What is unpacked of a bag are the options for
its members, each once, and in whatever order they are packed they make that bag. -/

namespace SignerPlugin

open Message

namespace Options

/-- A kind of bag, with its packing and its unpacking. Whatever members a bag has, one for a
signature has them too. -/
structure Packing where
  Bag : Type
  whole : Bag → SignOptions
  pack : List SignerOption → Except MisplacedOption Bag
  unpack : Bag → Except UnawareDeadline (List SignerOption)

namespace Packing

def rpc : Packing where
  Bag := RpcOptions
  whole bag := { toRpcOptions := bag }
  pack := packRpc
  unpack := unpackRpc

def message : Packing where
  Bag := MessageOptions
  whole bag := { toMessageOptions := bag }
  pack options := .ok (packMessage options)
  unpack bag := .ok (unpackMessage bag)

def publicKey : Packing where
  Bag := PublicKeyOptions
  whole bag := { toRpcOptions := bag }
  pack := packPublicKey
  unpack := unpackPublicKey

def sign : Packing where
  Bag := SignOptions
  whole bag := bag
  pack options := .ok (packSign options)
  unpack := unpackSign

def verify : Packing where
  Bag := VerifyOptions
  whole bag := bag
  pack options := .ok (packVerify options)
  unpack := unpackVerify

/-- The packings of all kinds of bags. -/
def all : List Packing := [rpc, message, publicKey, sign, verify]

variable (packing : Packing)

/-- The bag has the deadline, or none. -/
def Within (bag : packing.Bag) (deadline : Option Time.Deadline) : Prop :=
  (packing.whole bag).ctxDeadline = deadline.map (·.timestamp)

/-- The values that a bag with the deadline has. -/
def values (bag : packing.Bag) (deadline : Option Time.Deadline) : OptionValues :=
  messageValues (packing.whole bag) deadline

/-- Options and bags are the same but for the order of the options: a packed bag is unpacked
again, a bag comes out as one option for each of its members and no other, and both times the
options make the bag again in any order. A bag with a deadline that names no instant does not
come out at all. -/
structure Reverses : Prop where
  packed : ∀ options bag, packing.pack options = .ok bag →
    ∃ unpacked, packing.unpack bag = .ok unpacked ∧
      ∀ reordered, reordered.Perm unpacked → packing.pack reordered = .ok bag
  unpacked : ∀ bag deadline, packing.Within bag deadline →
    ∃ unpacked, packing.unpack bag = .ok unpacked ∧
      (packing.values bag deadline).ListedBy unpacked ∧
      ∀ reordered, reordered.Perm unpacked → packing.pack reordered = .ok bag
  naive : ∀ bag t, (packing.whole bag).ctxDeadline = some t → t.offset = none →
    packing.unpack bag = .error ⟨t⟩

/-- What is to be known of a packing: a packed deadline names an instant, the values of a bag
are listed when it is unpacked, and whatever options list the values of a bag are packed as
that bag. -/
structure Lawful : Prop where
  within : ∀ options bag, packing.pack options = .ok bag → ∃ deadline, packing.Within bag deadline
  unpack : ∀ bag deadline, packing.Within bag deadline →
    packing.unpack bag = .ok (packing.values bag deadline).listed
  pack : ∀ bag deadline options, packing.Within bag deadline →
    (packing.values bag deadline).ListedBy options → packing.pack options = .ok bag
  naive : ∀ bag t, (packing.whole bag).ctxDeadline = some t → t.offset = none →
    packing.unpack bag = .error ⟨t⟩

variable {packing}

private theorem Lawful.reverses (lawful : packing.Lawful) : packing.Reverses := by
  have unpacked (bag : packing.Bag) (deadline : Option Time.Deadline)
      (within : packing.Within bag deadline) :
      ∃ unpacked, packing.unpack bag = .ok unpacked ∧
        (packing.values bag deadline).ListedBy unpacked ∧
        ∀ reordered, reordered.Perm unpacked → packing.pack reordered = .ok bag := by
    have lists := (packing.values bag deadline).listed_listedBy
    refine ⟨_, lawful.unpack bag deadline within, lists, ?_⟩
    intro reordered same
    exact lawful.pack bag deadline reordered within (lists.perm same)
  refine ⟨?_, unpacked, lawful.naive⟩
  intro options bag packed
  obtain ⟨deadline, within⟩ := lawful.within options bag packed
  obtain ⟨unpacked, comes, -, again⟩ := unpacked bag deadline within
  exact ⟨unpacked, comes, again⟩

theorem rpc_lawful : rpc.Lawful where
  within options bag packed := by
    obtain ⟨-, rfl⟩ := packRpc_eq_ok.mp packed
    exact ⟨_, OptionValues.rpc_ctxDeadline _⟩
  unpack bag deadline within := unpackRpc_aware within
  pack bag deadline options within lists := by
    have packed : packRpc options = .ok (callValues bag deadline).rpc :=
      packRpc_of_listedBy lists rfl rfl
    exact packed.trans (congrArg Except.ok (callValues_rpc within))
  naive bag t := unpackRpc_naive

private theorem message_lawful : message.Lawful where
  within options bag packed := ⟨none, rfl⟩
  unpack bag deadline within := by
    obtain rfl : deadline = none := Option.map_eq_none_iff.mp (Eq.symm within)
    simp [message, unpackMessage, values, messageValues, callValues, OptionValues.listed]
  pack bag deadline options within lists := by
    have packed : packMessage options = (messageValues (message.whole bag) deadline).message :=
      congrArg OptionValues.message lists.ofOptions_eq
    exact congrArg Except.ok packed
  naive bag t known := nomatch known

theorem sign_lawful : sign.Lawful where
  within options bag packed := by
    cases packed
    exact ⟨_, OptionValues.rpc_ctxDeadline _⟩
  unpack bag deadline within := unpackSign_aware within
  pack bag deadline options within lists := by
    have rpc : (messageValues bag deadline).rpc = bag.toRpcOptions := callValues_rpc within
    have set : OptionValues.ofOptions options = messageValues bag deadline := lists.ofOptions_eq
    simp only [sign, packSign, set, rpc]
    rfl
  naive bag t := unpackSign_naive

private theorem all_lawful : ∀ packing ∈ all, packing.Lawful := by
  simp only [all, List.forall_mem_cons, List.not_mem_nil, false_implies, implies_true, and_true]
  exact ⟨rpc_lawful, message_lawful, rpc_lawful, sign_lawful, sign_lawful⟩

/-- Packing and unpacking undo each other for every kind of bag, in whatever order the options
are packed. -/
theorem all_reverse : ∀ packing ∈ all, packing.Reverses := by
  intro packing member
  exact (all_lawful packing member).reverses

/-- What is empty or false is unpacked and packed too. -/
theorem all_reverse_sign :
    let deadline : Time.Deadline := ⟨⟨2024, 2, 29, 12, 0, 0, 0, some .utc, by decide⟩, rfl⟩
    let bag : SignOptions :=
      { digest := some [], ctxDeadline := some deadline.timestamp, keyVersion := some ""
        remoteVerification := some false }
    ∃ unpacked, unpackSign bag = .ok unpacked ∧ SignerOption.values unpacked .digest = [[]] ∧
      SignerOption.values unpacked .hashFunc = [] ∧ packSign unpacked.reverse = bag := by
  intro deadline bag
  obtain ⟨unpacked, comes, lists, again⟩ :=
    (all_reverse sign (by simp [all])).unpacked bag (some deadline) rfl
  exact ⟨unpacked, comes, lists .digest, lists .hashFunc,
    Except.ok.inj (again _ unpacked.reverse_perm)⟩

end Packing
end Options
end SignerPlugin
