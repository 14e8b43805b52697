/-
The 256-bit secure hash.

A message is padded to blocks of 64 bytes.  Each block is stretched to 64 words
of 32 bits, which are mixed one after another into a state of eight words; the
final state is the digest.
-/
import JarAtlas.Bytes

namespace JarAtlas
namespace Sha256

def roundConstants : Vector UInt32 64 :=
  #v[0x428a2f98, 0x71374491, 0xb5c0fbcf, 0xe9b5dba5, 0x3956c25b, 0x59f111f1, 0x923f82a4,
    0xab1c5ed5, 0xd807aa98, 0x12835b01, 0x243185be, 0x550c7dc3, 0x72be5d74, 0x80deb1fe,
    0x9bdc06a7, 0xc19bf174, 0xe49b69c1, 0xefbe4786, 0x0fc19dc6, 0x240ca1cc, 0x2de92c6f,
    0x4a7484aa, 0x5cb0a9dc, 0x76f988da, 0x983e5152, 0xa831c66d, 0xb00327c8, 0xbf597fc7,
    0xc6e00bf3, 0xd5a79147, 0x06ca6351, 0x14292967, 0x27b70a85, 0x2e1b2138, 0x4d2c6dfc,
    0x53380d13, 0x650a7354, 0x766a0abb, 0x81c2c92e, 0x92722c85, 0xa2bfe8a1, 0xa81a664b,
    0xc24b8b70, 0xc76c51a3, 0xd192e819, 0xd6990624, 0xf40e3585, 0x106aa070, 0x19a4c116,
    0x1e376c08, 0x2748774c, 0x34b0bcb5, 0x391c0cb3, 0x4ed8aa4a, 0x5b9cca4f, 0x682e6ff3,
    0x748f82ee, 0x78a5636f, 0x84c87814, 0x8cc70208, 0x90befffa, 0xa4506ceb, 0xbef9a3f7,
    0xc67178f2]

def initialState : Vector UInt32 8 :=
  #v[0x6a09e667, 0xbb67ae85, 0x3c6ef372, 0xa54ff53a, 0x510e527f, 0x9b05688c, 0x1f83d9ab,
    0x5be0cd19]

def turn (word amount : UInt32) : UInt32 :=
  (word >>> amount) ||| (word <<< (32 - amount))

/-- The message, a one bit, zeros, and the length of the message in bits as
eight bytes. -/
def padded (message : ByteArray) : ByteArray :=
  let zeros := (119 - message.size % 64) % 64
  let length := 8 * message.size
  let lengthBytes := (List.range 8).map fun place => (length / Nat.pow 256 (7 - place)).toUInt8
  message ++ ⟨(0x80 :: (List.replicate zeros 0 ++ lengthBytes)).toArray⟩

def wordAt (bytes : ByteArray) (position : Nat) : UInt32 :=
  let byteAt (offset : Nat) : UInt32 := (Bytes.byteAt bytes (position + offset)).toUInt32
  (byteAt 0 <<< 24) ||| (byteAt 1 <<< 16) ||| (byteAt 2 <<< 8) ||| byteAt 3

def nextWord (words : Array UInt32) : UInt32 :=
  let back (count : Nat) : UInt32 := words.getD (words.size - count) 0
  let early := back 15
  let late := back 2
  back 16 + (turn early 7 ^^^ turn early 18 ^^^ (early >>> 3)) + back 7 +
    (turn late 17 ^^^ turn late 19 ^^^ (late >>> 10))

def schedule (bytes : ByteArray) (start : Nat) : Array UInt32 :=
  let given := (Array.range 16).map fun index => wordAt bytes (start + 4 * index)
  Nat.repeat (fun words => words.push (nextWord words)) 48 given

def round (state : Vector UInt32 8) (constant word : UInt32) : Vector UInt32 8 :=
  let a := state[0]
  let b := state[1]
  let c := state[2]
  let e := state[4]
  let choice := (e &&& state[5]) ^^^ (~~~e &&& state[6])
  let majority := (a &&& b) ^^^ (a &&& c) ^^^ (b &&& c)
  let first := state[7] + (turn e 6 ^^^ turn e 11 ^^^ turn e 25) + choice + constant + word
  let second := (turn a 2 ^^^ turn a 13 ^^^ turn a 22) + majority
  #v[first + second, a, b, c, state[3] + first, e, state[5], state[6]]

def compress (bytes : ByteArray) (start : Nat) (state : Vector UInt32 8) : Vector UInt32 8 :=
  let words := schedule bytes start
  let mixed := (Array.range 64).foldl
    (fun working index => round working (roundConstants.toArray.getD index 0) (words.getD index 0))
    state
  Vector.zipWith (· + ·) state mixed

def finalState (message : ByteArray) : Vector UInt32 8 :=
  let bytes := padded message
  (List.range (bytes.size / 64)).foldl (fun state index => compress bytes (64 * index) state)
    initialState

def digest (message : ByteArray) : Vector UInt8 32 :=
  let state := finalState message
  Vector.ofFn fun place : Fin 32 =>
    (state[place.val / 4] >>> (8 * (3 - place.val % 4)).toUInt32).toUInt8

end Sha256
end JarAtlas
