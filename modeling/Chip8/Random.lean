/-!
# A random stream of bytes

The random bytes of a machine come from the ChaCha stream cipher with twenty rounds: a key of eight
words determines an endless stream of words, sixteen to a block, and each word gives one byte. The
stream is a function of the key and of the position in it (`byteAt`), so a source of random bytes
(`RandomSource`) is no more than a key and a position, and taking a byte moves the position by one.
-/

namespace Chip8

/-! ### The cipher -/

/-- The eight words that determine a stream. -/
abbrev StreamKey := Vector UInt32 8

/-- Sixteen words of a stream, or of the state that they are made from. -/
abbrev StreamBlock := Vector UInt32 16

/-- The bits of `w` moved left by `n` places, those that fall off coming in on the right. -/
def rotateLeft (w n : UInt32) : UInt32 :=
  (w <<< n) ||| (w >>> (32 - n))

namespace StreamBlock

/-- One half of a quarter round: adds, mixes and rotates by `m`, then by `n`. -/
def mix (s : StreamBlock) (a b c d : Fin 16) (m n : UInt32) : StreamBlock :=
  let va := s.get a + s.get b
  let vd := rotateLeft (s.get d ^^^ va) m
  let vc := s.get c + vd
  let vb := rotateLeft (s.get b ^^^ vc) n
  (((s.set a va).set b vb).set c vc).set d vd

/-- Mixes the four words at the given places with each other. -/
def quarterRound (s : StreamBlock) (a b c d : Fin 16) : StreamBlock :=
  (s.mix a b c d 16 12).mix a b c d 8 7

/-- One round on the columns of the state seen as a square, and one on its diagonals. -/
def doubleRound (s : StreamBlock) : StreamBlock :=
  ((((((((s.quarterRound 0 4 8 12).quarterRound 1 5 9 13).quarterRound 2 6 10 14).quarterRound
    3 7 11 15).quarterRound 0 5 10 15).quarterRound 1 6 11 12).quarterRound 2 7 8 13).quarterRound
    3 4 9 14)

/-- The state that a block is made from: four constants, the key, the number of the block as two
words, low word first, and two zeros. -/
def start (key : StreamKey) (counter : UInt64) : StreamBlock :=
  #v[0x61707865, 0x3320646e, 0x79622d32, 0x6b206574,
    key.get 0, key.get 1, key.get 2, key.get 3, key.get 4, key.get 5, key.get 6, key.get 7,
    counter.toUInt32, (counter >>> 32).toUInt32, 0, 0]

/-- The block of a stream with a given number: ten double rounds of its starting state, added to
that state word by word. -/
def ofKey (key : StreamKey) (counter : UInt64) : StreamBlock :=
  let s := start key counter
  Vector.zipWith (· + ·) (Nat.repeat doubleRound 10 s) s

end StreamBlock

namespace StreamKey

/-- The byte at a position of a stream: the low byte of the word there. -/
def byteAt (key : StreamKey) (position : Nat) : UInt8 :=
  ((StreamBlock.ofKey key (UInt64.ofNat (position / 16))).get
    ⟨position % 16, Nat.mod_lt _ (by decide)⟩).toUInt8

/-! ### Seeds -/

/-- One step of the generator that seeds are expanded with. -/
def advanceSeed (s : UInt64) : UInt64 :=
  s * 6364136223846793005 + 11634580027462260723

/-- The word that a state of that generator gives: some of its high bits, rotated right by the
highest five. -/
def wordOfSeed (s : UInt64) : UInt32 :=
  let w := (((s >>> 18) ^^^ s) >>> 27).toUInt32
  let n := (s >>> 59).toUInt32
  (w >>> n) ||| (w <<< ((32 - n) % 32))

/-- The states of the generator after `1, 2, …, n` steps. -/
def seedStates : Nat → UInt64 → List UInt64
  | 0, _ => []
  | n + 1, s => advanceSeed s :: seedStates n (advanceSeed s)

/-- The key that a seed expands to. -/
def ofSeed (seed : UInt64) : StreamKey :=
  Vector.ofFn fun k => wordOfSeed ((seedStates 8 seed).getD k.val 0)

end StreamKey

/-! ### Sources -/

/-- A stream together with how much of it has been used. -/
structure RandomSource where
  /-- The key of the stream. -/
  key : StreamKey
  /-- How many bytes have been taken. -/
  position : Nat
deriving DecidableEq

namespace RandomSource

/-- The unused stream of a seed. -/
def ofSeed (seed : UInt64) : RandomSource :=
  ⟨.ofSeed seed, 0⟩

/-- The next byte of the stream. -/
def byte (s : RandomSource) : UInt8 :=
  s.key.byteAt s.position

/-- The source after one byte has been taken. -/
def advance (s : RandomSource) : RandomSource :=
  { s with position := s.position + 1 }

end RandomSource

end Chip8
