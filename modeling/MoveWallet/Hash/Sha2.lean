import MoveWallet.Bytes.Basic

/-! # SHA-256 and SHA-512

The two hashes share one construction over words of 32 and 64 bits. Their constants are leading
bits of irrational numbers: the start values come from the square roots and the round constants
from the cube roots of the first primes.
-/

namespace MoveWallet.Sha2

/-- The largest number whose power `degree` does not exceed `n`, found bit by bit from bit
`bits - 1` down. -/
def root (degree n : Nat) : (bits : Nat) → (found : Nat) → Nat
  | 0, found => found
  | bits + 1, found =>
    let candidate := found + Nat.pow 2 bits
    root degree n bits (if Nat.pow candidate degree ≤ n then candidate else found)

/-- The first 64 bits of the fraction part of a square root or cube root. -/
def rootFraction (degree n : Nat) : Nat :=
  root degree (n * Nat.pow 2 (64 * degree)) 70 0 % UInt64.size

def isPrime (n : Nat) : Bool := 2 ≤ n && (List.range n).all fun d => d < 2 || n % d ≠ 0

def primes : List Nat := (List.range 410).filter isPrime

/-- The fraction bits of the square roots of the first eight primes. -/
def startBits : List Nat := (primes.take 8).map (rootFraction 2)

/-- The fraction bits of the cube roots of the first 80 primes. -/
def roundBits : List Nat := (primes.take 80).map (rootFraction 3)

/-- Words with the functions that mix them. -/
class Word (w : Type) extends Add w, XorOp w, AndOp w, Complement w, Inhabited w where
  /-- Bytes in a word. -/
  size : Nat
  ofNat : Nat → w
  toNat : w → Nat
  /-- The round function of the first word. -/
  upper0 : w → w
  /-- The round function of the fifth word. -/
  upper1 : w → w
  /-- The schedule function of the word fifteen places back. -/
  lower0 : w → w
  /-- The schedule function of the word two places back. -/
  lower1 : w → w

/-- Rotate a word of 32 bits towards its low end, by 1 to 31 places. -/
@[inline] def rotate32 (x : UInt32) (n : UInt32) : UInt32 := (x >>> n) ||| (x <<< (32 - n))

/-- Rotate a word of 64 bits towards its low end, by 1 to 63 places. -/
@[inline] def rotate64 (x : UInt64) (n : UInt64) : UInt64 := (x >>> n) ||| (x <<< (64 - n))

instance : Word UInt32 where
  size := 4
  ofNat := UInt32.ofNat
  toNat := UInt32.toNat
  upper0 x := rotate32 x 2 ^^^ rotate32 x 13 ^^^ rotate32 x 22
  upper1 x := rotate32 x 6 ^^^ rotate32 x 11 ^^^ rotate32 x 25
  lower0 x := rotate32 x 7 ^^^ rotate32 x 18 ^^^ (x >>> 3)
  lower1 x := rotate32 x 17 ^^^ rotate32 x 19 ^^^ (x >>> 10)

instance : Word UInt64 where
  size := 8
  ofNat := UInt64.ofNat
  toNat := UInt64.toNat
  upper0 x := rotate64 x 28 ^^^ rotate64 x 34 ^^^ rotate64 x 39
  upper1 x := rotate64 x 14 ^^^ rotate64 x 18 ^^^ rotate64 x 41
  lower0 x := rotate64 x 1 ^^^ rotate64 x 8 ^^^ (x >>> 7)
  lower1 x := rotate64 x 19 ^^^ rotate64 x 61 ^^^ (x >>> 6)

/-- The eight words that a message is folded into. -/
structure State (w : Type) where
  a : w
  b : w
  c : w
  d : w
  e : w
  f : w
  g : w
  h : w

section

variable {w : Type} [Word w]

@[specialize] def State.add (s t : State w) : State w :=
  ⟨s.a + t.a, s.b + t.b, s.c + t.c, s.d + t.d, s.e + t.e, s.f + t.f, s.g + t.g, s.h + t.h⟩

def State.toList (s : State w) : List w := [s.a, s.b, s.c, s.d, s.e, s.f, s.g, s.h]

/-- One round with a schedule word and a round constant. -/
@[specialize] def State.round (s : State w) (word constant : w) : State w :=
  let choice := (s.e &&& s.f) ^^^ (~~~ s.e &&& s.g)
  let majority := (s.a &&& s.b) ^^^ (s.a &&& s.c) ^^^ (s.b &&& s.c)
  let first := s.h + Word.upper1 s.e + choice + constant + word
  let second := Word.upper0 s.a + majority
  ⟨first + second, s.a, s.b, s.c, s.d + first, s.e, s.f, s.g⟩

/-- Extend the schedule of a block to the given number of words. -/
@[specialize] def extend : (more : Nat) → Array w → Array w
  | 0, schedule => schedule
  | more + 1, schedule =>
    let n := schedule.size
    let back (k : Nat) : w := schedule.getD (n - k) default
    extend more (schedule.push (Word.lower1 (back 2) + back 7 + Word.lower0 (back 15) + back 16))

/-- Fold a block of sixteen words into a state. -/
@[specialize] def compress (constants : Array w) (state : State w) (block : Array w) : State w :=
  let schedule := extend (constants.size - 16) block
  state.add (go schedule constants.size 0 state)
where
  /-- The rounds from the given one on. -/
  @[specialize] go (schedule : Array w) : (left round : Nat) → State w → State w
    | 0, _, s => s
    | left + 1, round, s =>
      go schedule left (round + 1)
        (s.round (schedule.getD round default) (constants.getD round default))

/-- A message with one bit, zeros and its bit length behind it, up to a whole block. -/
def padded (wordSize : Nat) (message : Bytes) : Bytes :=
  let block := 16 * wordSize
  let used := (message.length + 1 + 2 * wordSize) % block
  let zeros := (block - used) % block
  message ++ 0x80 :: List.replicate zeros 0 ++ Bytes.ofNatBE (2 * wordSize) (8 * message.length)

@[specialize] def words (block : Bytes) : Array w :=
  ((chunks (Word.size w) block).map fun word => Word.ofNat (Bytes.toNatBE word)).toArray

/-- The final state of a message. -/
@[specialize] def digest (constants : Array w) (start : State w) (message : Bytes) : State w :=
  (chunks (16 * Word.size w) (padded (Word.size w) message)).foldl
    (fun state block => compress constants state (words block)) start

end

def State.ofList {w : Type} [Word w] (words : List w) : State w :=
  let word (index : Nat) : w := words.getD index default
  ⟨word 0, word 1, word 2, word 3, word 4, word 5, word 6, word 7⟩

def constants256 : Array UInt32 :=
  ((roundBits.take 64).map fun bits => UInt32.ofNat (bits / UInt32.size)).toArray

def constants512 : Array UInt64 := (roundBits.map UInt64.ofNat).toArray

def start256 : State UInt32 :=
  State.ofList (startBits.map fun bits => UInt32.ofNat (bits / UInt32.size))

def start512 : State UInt64 := State.ofList (startBits.map UInt64.ofNat)

def sha256 (message : Bytes) : FixedBytes 32 :=
  let state := digest constants256 start256 message
  ⟨state.toList.flatMap fun word => Bytes.ofNatBE 4 word.toNat, by simp [State.toList]⟩

def sha512 (message : Bytes) : FixedBytes 64 :=
  let state := digest constants512 start512 message
  ⟨state.toList.flatMap fun word => Bytes.ofNatBE 8 word.toNat, by simp [State.toList]⟩

end MoveWallet.Sha2
