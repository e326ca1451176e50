import CredentialBroker.Digest.Sha256

namespace CredentialBroker.Hmac

/-!
# Keyed digests

`Hmac.sign` is the keyed digest over SHA-256: a key longer than a block is replaced by its digest,
and the message is digested between two masked copies of the key.
-/

/-- The octets of a block. -/
def blockSize : Nat := 64

/-- The key as one block. -/
def keyBlock (key : Bytes) : Bytes :=
  let k := if key.length ≤ blockSize then key else Sha256.digest key
  k ++ List.replicate (blockSize - k.length) 0

/-- The keyed digest of a message. -/
def sign (key message : Bytes) : Bytes :=
  let k := keyBlock key
  Sha256.digest (k.map (· ^^^ 0x5C) ++ Sha256.digest (k.map (· ^^^ 0x36) ++ message))

@[simp] theorem length_sign (key message : Bytes) : (sign key message).length = 32 := rfl

end CredentialBroker.Hmac
