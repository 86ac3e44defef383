import SessionKeeper.Digest.Sha256

/-!
The keyed digest HMAC over SHA-256.
-/

namespace SessionKeeper.Digest

/-- The key as one block: a key longer than a block counts by its digest. -/
def hmacBlock (key : List UInt8) : List UInt8 :=
  let short := if 64 < key.length then Sha256.digest key else key
  short ++ List.replicate (64 - short.length) 0

/-- The digest of a message under a key. -/
def hmac (key message : List UInt8) : List UInt8 :=
  let block := hmacBlock key
  let inner := Sha256.digest (block.map (· ^^^ 0x36) ++ message)
  Sha256.digest (block.map (· ^^^ 0x5c) ++ inner)

end SessionKeeper.Digest
