/-!
# SHA-1

The digest of a message: the message is padded to a whole number of blocks of 64 bytes, and a state
of five words is carried through the blocks in order.
-/

namespace Rollout

/-- A digest of twenty bytes. -/
abbrev Digest := Vector UInt8 20

namespace Sha1

/-! ## Words -/

/-- The word rotated to the left by `k` bits, where `0 < k < 32`. -/
def rotateLeft (w : UInt32) (k : UInt32) : UInt32 :=
  (w <<< k) ||| (w >>> (32 - k))

/-- Four bytes as a word, the most significant byte first. -/
def wordOfBytes (bytes : List UInt8) : UInt32 :=
  bytes.foldl (fun w b => (w <<< 8) ||| b.toUInt32) 0

/-- The four bytes of a word, the most significant first. -/
def bytesOfWord (w : UInt32) : List UInt8 :=
  [(w >>> 24).toUInt8, (w >>> 16).toUInt8, (w >>> 8).toUInt8, w.toUInt8]

/-- The list cut into pieces of `k` elements; the last piece may be shorter. There are at most
`count` pieces. -/
def pieces {α : Type} (k : Nat) : (count : Nat) → List α → List (List α)
  | 0, _ => []
  | count + 1, l => if l.isEmpty then [] else l.take k :: pieces k count (l.drop k)

/-! ## Padding -/

/-- The message followed by a one bit, zeros and its length in bits, up to a whole number of
blocks. -/
def padded (message : List UInt8) : List UInt8 :=
  let n := message.length
  let bits := UInt64.ofNat (8 * n)
  let zeros := (119 - n % 64) % 64
  message ++ [(0x80 : UInt8)] ++ List.replicate zeros (0 : UInt8)
    ++ bytesOfWord (bits >>> 32).toUInt32 ++ bytesOfWord bits.toUInt32

/-- The blocks of the padded message, as sixteen words each. -/
def blocks (message : List UInt8) : List (List UInt32) :=
  let bytes := padded message
  (pieces 64 bytes.length bytes).map fun block => (pieces 4 16 block).map wordOfBytes

/-! ## Rounds -/

/-- The state between two rounds. -/
structure State where
  a : UInt32
  b : UInt32
  c : UInt32
  d : UInt32
  e : UInt32

/-- The state before the first block. -/
def initial : State :=
  ⟨0x67452301, 0xEFCDAB89, 0x98BADCFE, 0x10325476, 0xC3D2E1F0⟩

/-- The mixing function and the constant of round `t`. -/
def mix (t : Nat) (b c d : UInt32) : UInt32 :=
  if t < 20 then ((b &&& c) ||| (~~~b &&& d)) + 0x5A827999
  else if t < 40 then (b ^^^ c ^^^ d) + 0x6ED9EBA1
  else if t < 60 then ((b &&& c) ||| (b &&& d) ||| (c &&& d)) + 0x8F1BBCDC
  else (b ^^^ c ^^^ d) + 0xCA62C1D6

/-- Round `t` with the word `w` of the schedule. -/
def round (s : State) (t : Nat) (w : UInt32) : State :=
  ⟨rotateLeft s.a 5 + mix t s.b s.c s.d + s.e + w, s.a, rotateLeft s.b 30, s.c, s.d⟩

/-- Rounds `t` and following. `window` holds the sixteen words of the schedule from `t` on, and
each round replaces the first of them by the word sixteen rounds later. -/
def rounds (t : Nat) : (count : Nat) → (window : List UInt32) → State → State
  | 0, _, s => s
  | count + 1, window, s =>
    let w := window.headD 0
    let next := rotateLeft
      (window.getD 13 0 ^^^ window.getD 8 0 ^^^ window.getD 2 0 ^^^ w) 1
    rounds (t + 1) count (window.drop 1 ++ [next]) (round s t w)

/-- The state after a block. -/
def absorb (s : State) (block : List UInt32) : State :=
  let r := rounds 0 80 block s
  ⟨s.a + r.a, s.b + r.b, s.c + r.c, s.d + r.d, s.e + r.e⟩

/-- The digest of a message. -/
def digest (message : List UInt8) : Digest :=
  let s := (blocks message).foldl absorb initial
  let bytes := [s.a, s.b, s.c, s.d, s.e].flatMap bytesOfWord
  Vector.ofFn fun i => bytes.getD i 0

end Sha1

end Rollout
