import SignerPlugin.Digest.Md5
import SignerPlugin.Digest.Sha1
import SignerPlugin.Digest.Sha2
import SignerPlugin.Digest.Sha3
import SignerPlugin.HashFunc

/-! The digest of a message under each hash function, and message authentication with it. -/

namespace SignerPlugin.HashFunc

def digest : HashFunc → Bytes → Bytes
  | .md5 => Digest.Md5.digest
  | .sha1 => Digest.Sha1.digest
  | .sha224 => Digest.Sha2.digest224
  | .sha256 => Digest.Sha2.digest256
  | .sha384 => Digest.Sha2.digest384
  | .sha512 => Digest.Sha2.digest512
  | .sha3_224 => Digest.Sha3.digest 28
  | .sha3_256 => Digest.Sha3.digest 32
  | .sha3_384 => Digest.Sha3.digest 48
  | .sha3_512 => Digest.Sha3.digest 64
  | .sha512_224 => Digest.Sha2.digest512_224
  | .sha512_256 => Digest.Sha2.digest512_256

/-- The length of the blocks that a message is read in. -/
def blockSize : HashFunc → Nat
  | .md5 | .sha1 | .sha224 | .sha256 => 64
  | .sha384 | .sha512 | .sha512_224 | .sha512_256 => 128
  | hash => 200 - 2 * hash.digestSize

/-- The authentication code of a message under a key. -/
def authenticate (hash : HashFunc) (key message : Bytes) : Bytes :=
  let short := if hash.blockSize < key.length then hash.digest key else key
  let block := short ++ List.replicate (hash.blockSize - short.length) 0
  hash.digest (block.map (· ^^^ 0x5c) ++ hash.digest (block.map (· ^^^ 0x36) ++ message))

end SignerPlugin.HashFunc
