import MoveWallet.Hash.Sha2

/-! # Keyed hashes and key stretching

HMAC over any hash, and PBKDF2 over any keyed hash.
-/

namespace MoveWallet

/-- Add two byte strings bit by bit, as far as the shorter one reaches. -/
def Bytes.xor (a b : Bytes) : Bytes := List.zipWith (· ^^^ ·) a b

namespace Hmac

/-- The keyed hash of a message. A key longer than a block is hashed first. -/
def hmac {size : Nat} (hash : Bytes → FixedBytes size) (blockSize : Nat) (key message : Bytes) :
    FixedBytes size :=
  let short := if blockSize < key.length then (hash key).toList else key
  let block := Bytes.padRight blockSize short
  let pad (byte : UInt8) : Bytes := block.map (· ^^^ byte)
  hash (pad 0x5c ++ (hash (pad 0x36 ++ message)).toList)

def sha256 (key message : Bytes) : FixedBytes 32 := hmac Sha2.sha256 64 key message

def sha512 (key message : Bytes) : FixedBytes 64 := hmac Sha2.sha512 128 key message

/-- One block of PBKDF2: the sum of the hashes of a chain that starts at the salt and the number
of the block. -/
def stretch (keyed : Bytes → Bytes → Bytes) (password salt : Bytes) (rounds : Nat) : Bytes :=
  let first := keyed password (salt ++ Bytes.ofNatBE 4 1)
  go (rounds - 1) first first
where
  /-- The remaining rounds, from the last link of the chain and the sum so far. -/
  go : Nat → Bytes → Bytes → Bytes
    | 0, _, sum => sum
    | rounds + 1, link, sum =>
      let next := keyed password link
      go rounds next (Bytes.xor sum next)

end Hmac

end MoveWallet
