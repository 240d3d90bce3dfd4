import SignerPlugin.LocalKey.Source
import SignerPlugin.Proofs.KeyStore
import SignerPlugin.Proofs.LastOption
import SignerPlugin.Proofs.RsaSignatures

/-! Signing and checking with a key in a file look at the same input. For most keys that is a
hash function and a digest, which options give or which come from the message; for keys on
Edwards curves it is the message alone. -/

namespace SignerPlugin

open SignerOption (last?)

variable {α β : Type}

/-- With the public half of a key all signatures are accepted that were made with it. -/
structure KeySuite.Accepts (suite : KeySuite) (key : PrivateKey) : Prop where
  digests : ∀ hash digest signature, suite.signDigest key hash digest = some signature →
    suite.verifyDigest (suite.publicOf key) hash digest signature = true
  messages : ∀ seed, key = .ed25519 seed → ∀ message,
    suite.verifyMessage (suite.publicOf key) message (suite.signMessage key message) = true

open Crypto.Rsa (provenKey)

/-- A key whose factors are prime accepts what it signs. -/
theorem KeySuite.accepts_rsa {key : Crypto.Rsa.PrivateKey} (fits : key.fits = true)
    (first : key.first.Prime) (second : key.second.Prime)
    (handy : key.publicKey.isHandy = true) : KeySuite.standard.Accepts (.rsa key) where
  digests _ _ _ signed := Crypto.Rsa.verify_sign fits first second handy signed
  messages := nofun

theorem KeySuite.accepts_provenKey : KeySuite.standard.Accepts (.rsa provenKey) := by
  refine accepts_rsa (by decide +kernel) ?first ?second (by decide +kernel)
  case first =>
    exact Crypto.prime_of_powMod 19 Nat.prime_three rfl (by decide +kernel) (by decide +kernel)
      (by decide +kernel)
  case second =>
    have seven : Nat.Prime 7 := by decide
    exact Crypto.prime_of_powMod 3 seven rfl (by decide +kernel) (by decide +kernel)
      (by decide +kernel)

/-- Whether a key signs digests. -/
def PrivateKey.takesDigests : PrivateKey → Bool
  | .ec _ _ | .rsa _ => true
  | .ed25519 _ | .x25519 _ => false

namespace LocalKey

variable {here : LocalKey} {key : PrivateKey} {disk : Disk} {streams : Streams}
  {options : List SignerOption}

/-! ### Options -/

/-- The hash function that is signed with: what the last option about it says, or else the
key's own one. -/
def resolvedHash (here : LocalKey) (options : List SignerOption) : HashFunc :=
  (last? options .hashFunc).getD here.hash

/-- The digest that is signed: what the last option about it says, or else that of the message. -/
def effectiveDigest (here : LocalKey) (message : Bytes) (options : List SignerOption) : Bytes :=
  (last? options .digest).getD ((here.resolvedHash options).digest message)

theorem digest_ofOptions (options : List SignerOption) :
    (OptionValues.ofOptions options).digest = last? options .digest :=
  OptionValues.get_ofOptions options .digest

private theorem hashFunc_ofOptions (options : List SignerOption) :
    (OptionValues.ofOptions options).hashFunc = last? options .hashFunc :=
  OptionValues.get_ofOptions options .hashFunc

theorem digest_of_some {digest : Bytes} (given : last? options .digest = some digest) :
    (OptionValues.ofOptions options).digest = some digest := (digest_ofOptions options).trans given

theorem digest_of_none (absent : last? options .digest = none) :
    (OptionValues.ofOptions options).digest = none :=
  (digest_ofOptions options).trans absent

/-- The same as the cases of the value, with the digest at its own type. -/
theorem exists_digest (present : last? options .digest ≠ none) :
    ∃ digest : Bytes, last? options .digest = some digest :=
  Option.ne_none_iff_exists'.mp present

/-- A digest from the message always has the right length, one from an option is measured. -/
theorem signingInput_ofOptions (here : LocalKey) (message : Bytes) (options : List SignerOption) :
    here.signingInput message (.ofOptions options) =
      if (here.effectiveDigest message options).length = (here.resolvedHash options).digestSize then
        .ok (here.resolvedHash options, here.effectiveDigest message options)
      else .error .digestLength := by
  rw [signingInput, digest_ofOptions, hashFunc_ofOptions, effectiveDigest]
  cases last? options .digest with
  | some digest => rfl
  | none => exact (if_pos (HashFunc.length_digest _ _)).symm

theorem signingInput_bind_eq_ok {message : Bytes}
    {use : HashFunc × Bytes → Except LocalKeyFault α} {a : α} :
    (here.signingInput message (.ofOptions options) >>= use) = .ok a ↔
      (here.effectiveDigest message options).length = (here.resolvedHash options).digestSize ∧
        use (here.resolvedHash options, here.effectiveDigest message options) = .ok a := by
  rw [signingInput_ofOptions]
  by_cases length : (here.effectiveDigest message options).length =
    (here.resolvedHash options).digestSize
  · rw [if_pos length, and_iff_right length]
    rfl
  · rw [if_neg length]
    exact ⟨nofun, fun ⟨same, _⟩ => absurd same length⟩

private theorem signWith_eq (takes : key.takesDigests = true) (message : Bytes)
    (values : OptionValues) :
    here.signWith key message values = here.signingInput message values >>= fun input =>
      match here.suite.signDigest key input.1 input.2 with
      | some signature => .ok signature
      | none => .error .digestTooLarge := by
  cases key with
  | ec _ _ | rsa _ => rfl
  | ed25519 _ | x25519 _ => cases takes

private theorem verifyWith_eq (takes : key.takesDigests = true) (signature message : Bytes)
    (values : OptionValues) :
    here.verifyWith key signature message values = here.signingInput message values >>= fun input =>
      if here.suite.verifyDigest (here.suite.publicOf key) input.1 input.2 signature then .ok ()
      else .error .wrongSignature := by
  cases key with
  | ec _ _ | rsa _ => rfl
  | ed25519 _ | x25519 _ => cases takes

theorem signWith_eq_ok (takes : key.takesDigests = true) {message signature : Bytes} :
    here.signWith key message (.ofOptions options) = .ok signature ↔
      (here.effectiveDigest message options).length = (here.resolvedHash options).digestSize ∧
        here.suite.signDigest key (here.resolvedHash options)
          (here.effectiveDigest message options) =
          some signature := by
  rw [signWith_eq takes, signingInput_bind_eq_ok]
  dsimp only
  cases here.suite.signDigest key (here.resolvedHash options)
    (here.effectiveDigest message options) <;> simp

private theorem verifyWith_eq_ok (takes : key.takesDigests = true) {signature message : Bytes} :
    here.verifyWith key signature message (.ofOptions options) = .ok () ↔
      (here.effectiveDigest message options).length = (here.resolvedHash options).digestSize ∧
        here.suite.verifyDigest (here.suite.publicOf key) (here.resolvedHash options)
          (here.effectiveDigest message options) signature = true := by
  rw [verifyWith_eq takes, signingInput_bind_eq_ok]
  simp

/-- What was signed as a digest is accepted wherever hash function and digest come out the same. -/
theorem verifyWith_of_signWith (accepts : here.suite.Accepts key) (takes : key.takesDigests = true)
    {message later signature : Bytes} {laterOptions : List SignerOption}
    (signed : here.signWith key message (.ofOptions options) = .ok signature)
    (hash : here.resolvedHash laterOptions = here.resolvedHash options)
    (digest : here.effectiveDigest later laterOptions = here.effectiveDigest message options) :
    here.verifyWith key signature later (.ofOptions laterOptions) = .ok () := by
  obtain ⟨length, made⟩ := (signWith_eq_ok takes).mp signed
  rw [verifyWith_eq_ok takes, hash, digest]
  exact ⟨length, accepts.digests _ _ _ made⟩

/-! ### Runs -/

/-- What a run comes to, with what the streams have left and the disk after it. -/
def StreamRun.outcome (run : StreamRun α) (streams : Streams) (disk : Disk) :
    Except LocalKeyFault α × Streams × Disk := run.run.run (streams, disk)

/-- What is read of a message, and what the streams have left then. -/
def heard (message : MessageSource) (options : List SignerOption) (streams : Streams) :
    Bytes × Streams :=
  match last? options .digest with
  | some _ => ([], streams)
  | none => message.read.run streams

theorem heard_of_some {digest : Bytes} (given : last? options .digest = some digest)
    (message : MessageSource) :
    heard message options streams = ([], streams) := by
  rw [heard, given]

theorem heard_of_none (absent : last? options .digest = none) (message : MessageSource) :
    heard message options streams = message.read.run streams := by
  rw [heard, absent]

theorem StreamRun.outcome_bind (run : StreamRun α) (next : α → StreamRun β) (streams : Streams)
    (disk : Disk) :
    (run >>= next).outcome streams disk = match run.outcome streams disk with
      | (.ok a, streams, disk) => (next a).outcome streams disk
      | (.error fault, after) => (.error fault, after) := by
  unfold StreamRun.outcome
  simp only [ExceptT.run_bind, StateT.run_bind]
  cases (ExceptT.run run).run (streams, disk) with
  | mk result after => cases result <;> rfl

theorem besideStreams_privateKey_outcome (here : LocalKey) (streams : Streams) (disk : Disk) :
    (besideStreams here.privateKey).outcome streams disk =
      (here.load disk.files, streams, disk) := rfl

private theorem readSource_outcome (source : MessageSource) (streams : Streams) (disk : Disk) :
    (readSource source).outcome streams disk =
      (.ok (source.read.run streams).1, (source.read.run streams).2, disk) := rfl

theorem readMessage_outcome (message : MessageSource) (options : List SignerOption)
    (streams : Streams) (disk : Disk) :
    (readMessage message (.ofOptions options)).outcome streams disk =
      (.ok (heard message options streams).1, (heard message options streams).2, disk) := by
  rw [readMessage, heard, digest_ofOptions]
  cases last? options .digest <;> rfl

theorem signFrom_outcome (here : LocalKey) (message : MessageSource)
    (options : List SignerOption) (streams : Streams) (disk : Disk) :
    (here.signFrom message options).outcome streams disk = match here.load disk.files with
      | .error fault => (.error fault, streams, disk)
      | .ok key =>
        (here.signWith key (heard message options streams).1 (.ofOptions options),
          (heard message options streams).2,
          disk) := by
  rw [signFrom, StreamRun.outcome_bind, besideStreams_privateKey_outcome]
  cases here.load disk.files with
  | error fault => rfl
  | ok key =>
    simp only
    rw [StreamRun.outcome_bind, readMessage_outcome]
    rfl

theorem verifyFrom_outcome (here : LocalKey) (signature message : MessageSource)
    (options : List SignerOption) (streams : Streams) (disk : Disk) :
    (here.verifyFrom signature message options).outcome streams disk =
      match here.load disk.files with
      | .error fault => (.error fault, streams, disk)
      | .ok key =>
        let given := signature.read.run streams
        (here.verifyWith key given.1 (heard message options given.2).1 (.ofOptions options),
          (heard message options given.2).2, disk) := by
  rw [verifyFrom, StreamRun.outcome_bind, besideStreams_privateKey_outcome]
  cases here.load disk.files with
  | error fault => rfl
  | ok key =>
    simp only
    rw [StreamRun.outcome_bind, readSource_outcome]
    simp only
    rw [StreamRun.outcome_bind, readMessage_outcome]
    rfl

/-- What is signed or checked does not depend on a message beside a digest. -/
theorem signWith_heard (here : LocalKey) (key : PrivateKey) (message : MessageSource)
    (options : List SignerOption) (streams : Streams) :
    here.signWith key (heard message options streams).1 (.ofOptions options) =
      here.signWith key (message.read.run streams).1 (.ofOptions options) := by
  by_cases absent : last? options .digest = none
  · rw [heard_of_none absent]
  · obtain ⟨digest, given⟩ := exists_digest absent
    cases key <;> simp [signWith, signingInput, digest_of_some given]

theorem verifyWith_heard (here : LocalKey) (key : PrivateKey) (signature : Bytes)
    (message : MessageSource) (options : List SignerOption) (streams : Streams) :
    here.verifyWith key signature (heard message options streams).1 (.ofOptions options) =
      here.verifyWith key signature (message.read.run streams).1 (.ofOptions options) := by
  by_cases absent : last? options .digest = none
  · rw [heard_of_none absent]
  · obtain ⟨digest, given⟩ := exists_digest absent
    cases key <;> simp [verifyWith, signingInput, digest_of_some given]

theorem heard_bytes (content : Bytes) (options : List SignerOption) (streams : Streams) :
    (heard (.bytes content) options streams).2 = streams := by
  rw [heard]
  cases last? options .digest <;> rfl

/-- Messages and signatures at hand are signed and checked as such, and streams are left alone. -/
theorem signFrom_bytes (here : LocalKey) (content : Bytes) (options : List SignerOption)
    (streams : Streams) (disk : Disk) :
    (here.signFrom (.bytes content) options).outcome streams disk =
      (((here.sign content options).outcome disk).1, streams,
        ((here.sign content options).outcome disk).2) := by
  rw [signFrom_outcome, sign_outcome]
  cases here.load disk.files with
  | error fault => rfl
  | ok key =>
    simp only [signWith_heard, heard_bytes]
    rfl

private theorem verifyFrom_bytes (here : LocalKey) (given content : Bytes)
    (options : List SignerOption) (streams : Streams) (disk : Disk) :
    (here.verifyFrom (.bytes given) (.bytes content) options).outcome streams disk =
      (((here.verify given content options).outcome disk).1, streams,
        ((here.verify given content options).outcome disk).2) := by
  rw [verifyFrom_outcome, verify_outcome]
  cases here.load disk.files with
  | error fault => rfl
  | ok key =>
    simp only [verifyWith_heard, heard_bytes]
    rfl

/-! ### The law -/

/-- Signing and checking with a key that accepts what it signed. What stands on a source is
signed and checked as if it were at hand, and it is never read when a digest is given. With
keys that take digests a signature is accepted wherever the same hash function and the same
digest come out, each from an option, the message or the key. The others refuse digests before
they read a message; what they sign is accepted for the same message under any hash
function. -/
theorem signing_agrees (here : LocalKey) (key : PrivateKey) (accepts : here.suite.Accepts key) :
    (∀ content options streams disk,
      (here.signFrom (.bytes content) options).outcome streams disk =
          (((here.sign content options).outcome disk).1, streams,
            ((here.sign content options).outcome disk).2) ∧
        ∀ given, (here.verifyFrom (.bytes given) (.bytes content) options).outcome streams disk =
          (((here.verify given content options).outcome disk).1, streams,
            ((here.verify given content options).outcome disk).2)) ∧
    (∀ options digest, last? options .digest = some digest → ∀ message other,
      here.signFrom message options = here.signFrom other options ∧
        ∀ signature, here.verifyFrom signature message options =
          here.verifyFrom signature other options) ∧
    (key.takesDigests = true → ∀ (streams laterStreams between : Streams) (disk laterDisk : Disk)
      (message signature laterMessage : MessageSource)
        (options laterOptions : List SignerOption) (made : Bytes),
      here.load disk.files = .ok key →
        ((here.signFrom message options).outcome streams disk).1 = .ok made →
      here.load laterDisk.files = .ok key → signature.read.run laterStreams = (made, between) →
      here.resolvedHash laterOptions = here.resolvedHash options →
      here.effectiveDigest (laterMessage.read.run between).1 laterOptions =
        here.effectiveDigest (message.read.run streams).1 options →
      ((here.verifyFrom signature laterMessage laterOptions).outcome laterStreams laterDisk).1 =
        .ok ()) ∧
    ∀ seed, key = .ed25519 seed → ∀ (streams : Streams) (disk : Disk) (message : MessageSource)
      (options : List SignerOption), here.load disk.files = .ok key →
      (last? options .digest ≠ none →
        (here.signFrom message options).outcome streams disk =
          (.error .digestToSign, streams, disk) ∧
          ∀ signature, (here.verifyFrom signature message options).outcome streams disk =
            (.error .digestToVerify, (signature.read.run streams).2, disk)) ∧
      (last? options .digest = none → ∃ made,
        (here.signFrom message options).outcome streams disk =
          (.ok made, (message.read.run streams).2, disk) ∧
          ∀ (laterStreams between : Streams) (laterDisk : Disk)
            (signature laterMessage : MessageSource)
            (laterOptions : List SignerOption),
            here.load laterDisk.files = .ok key →
              signature.read.run laterStreams = (made, between) →
            last? laterOptions .digest = none →
            (laterMessage.read.run between).1 = (message.read.run streams).1 →
            ((here.verifyFrom signature laterMessage laterOptions).outcome laterStreams
              laterDisk).1 = .ok ()) := by
  refine ⟨?_, ?_, ?_, ?_⟩
  · intro content options streams disk
    refine ⟨here.signFrom_bytes content options streams disk, ?_⟩
    intro given
    exact here.verifyFrom_bytes given content options streams disk
  · intro options digest given message other
    have unread (source : MessageSource) : readMessage source (.ofOptions options) = pure [] := by
      rw [readMessage, digest_ofOptions, given]
    refine ⟨?_, fun signature => ?_⟩
    · simp only [signFrom, unread]
    · simp only [verifyFrom, unread]
  · intro takes streams laterStreams between disk laterDisk message signature laterMessage
      options laterOptions made
      loaded signed laterLoaded given hash digest
    simp only [signFrom_outcome, loaded, signWith_heard] at signed
    simp only [verifyFrom_outcome, laterLoaded, given, verifyWith_heard]
    exact verifyWith_of_signWith accepts takes signed hash digest
  · rintro seed rfl streams disk message options loaded
    refine ⟨?_, ?_⟩
    · intro present
      obtain ⟨digest, given⟩ := exists_digest present
      refine ⟨?_, fun signature => ?_⟩
      · simp [signFrom_outcome, loaded, heard_of_some given, signWith, digest_of_some given]
      · simp [verifyFrom_outcome, loaded, heard_of_some given, verifyWith, digest_of_some given]
    · intro absent
      refine ⟨here.suite.signMessage (.ed25519 seed) (message.read.run streams).1, ?_, ?_⟩
      · simp [signFrom_outcome, loaded, heard_of_none absent, signWith, digest_of_none absent]
      · intro laterStreams between laterDisk signature laterMessage laterOptions laterLoaded
          given laterAbsent same
        simp only [verifyFrom_outcome, laterLoaded, given, heard_of_none laterAbsent, same]
        simp [verifyWith, digest_of_none laterAbsent, accepts.messages seed rfl]

theorem signing_agrees_rsa :
    let here : LocalKey := ⟨⟨"", ["keys", "key.pem"]⟩, .sha1, .standard⟩
    let disk : Disk := ⟨freshWith (here.suite.write (.rsa provenKey)), ⟨[], 0⟩⟩
    let message := Bytes.ofText "message"
    let digest := HashFunc.sha256.digest message
    here.suite.Accepts (.rsa provenKey) ∧ here.load disk.files = .ok (.rsa provenKey) ∧
      ∃ made, ((here.signFrom (.stream 0) [.hashFunc .sha256]).outcome [message] disk).1 =
        .ok made ∧
        ((here.verifyFrom (.bytes made) (.stream 0) [.digest digest, .hashFunc .sha256]).outcome
          [[]] disk).1 =
          .ok () := by
  intro here disk message digest
  have reads : here.suite.read (here.suite.write (.rsa provenKey)) = .ok (.rsa provenKey) :=
    (PrivateKey.ofPem_toPem _).trans (by decide +kernel)
  have loaded : here.load disk.files = .ok (.rsa provenKey) := load_file reads (place_freshWith _)
  obtain ⟨made, signs⟩ : ∃ made, here.suite.signDigest (.rsa provenKey) .sha256 digest =
    some made :=
    Option.isSome_iff_exists.mp (by decide +kernel)
  have hash : here.resolvedHash [.hashFunc .sha256] = .sha256 := rfl
  have input : here.effectiveDigest message [.hashFunc .sha256] = digest := rfl
  have signed : ((here.signFrom (.stream 0) [.hashFunc .sha256]).outcome [message] disk).1 =
      .ok made := by
    simp only [signFrom_outcome, loaded, signWith_heard]
    refine (signWith_eq_ok rfl).mpr ?_
    change (here.effectiveDigest message _).length = _ ∧
      here.suite.signDigest _ _ (here.effectiveDigest message _) = _
    rw [hash, input]
    exact ⟨HashFunc.length_digest _ _, signs⟩
  obtain ⟨-, -, agrees, -⟩ := signing_agrees here (.rsa provenKey) KeySuite.accepts_provenKey
  refine ⟨KeySuite.accepts_provenKey, loaded, made, signed, ?_⟩
  exact agrees rfl _ _ _ _ _ _ _ _ _ _ _ loaded signed loaded rfl rfl input.symm

end LocalKey
end SignerPlugin
