import ApiGateway.Crypto.Sha256

/-!
# HMAC-SHA256

The keyed hash of a message. A key longer than a block is first hashed; the key is then
padded with zeros to one 64-byte block, and the digest is the hash of the key masked with
`0x5c` followed by the hash of the key masked with `0x36` and the message.

Main statements:
* `hmacSha256_length`: every keyed hash has 32 bytes.
-/

namespace ApiGateway.Crypto

/-- The hash block size in bytes. -/
def blockBytes : Nat := 64

/-- The key as one block: hashed when longer than a block, then padded with zeros. -/
def keyBlock (key : List UInt8) : List UInt8 :=
  let k := if blockBytes < key.length then sha256 key else key
  k ++ List.replicate (blockBytes - k.length) 0

/-- The HMAC-SHA256 of a message under a key. -/
def hmacSha256 (key msg : List UInt8) : List UInt8 :=
  let k := keyBlock key
  let inner := sha256 (k.map (· ^^^ 0x36) ++ msg)
  sha256 (k.map (· ^^^ 0x5c) ++ inner)

/-- Every keyed hash has 32 bytes. -/
theorem hmacSha256_length (key msg : List UInt8) : (hmacSha256 key msg).length = 32 :=
  digest_length _

end ApiGateway.Crypto
