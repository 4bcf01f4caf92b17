import EventGateway.Hash.Sha256

/-!
# Keyed digests

The digest of a message under a secret key: two nested digests with the key mixed into each.
-/

namespace EventGateway.Hash

/-- The key as one block of sixty-four bytes; a longer key is digested first. -/
def keyBlock (key : List UInt8) : List UInt8 :=
  let key := if key.length > 64 then sha256 key else key
  key ++ List.replicate (64 - key.length) 0

def hmac (key message : List UInt8) : List UInt8 :=
  let block := keyBlock key
  sha256 (block.map (· ^^^ 0x5c) ++ sha256 (block.map (· ^^^ 0x36) ++ message))

end EventGateway.Hash
