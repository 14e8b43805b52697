/-
UTF-8 text.

Decoding reads one character after another.  Where the bytes are no character
the fault is the longest run of bytes that could have begun one; it is cut off
by the end of the bytes, or wrong in itself.  A tolerant reader puts the
replacement character in its place.
-/
import JarAtlas.Bytes
import JarAtlas.Text.Digits

namespace JarAtlas
namespace Utf8

/-- Why bytes are not UTF-8.  The position is that of the first byte which
begins no character. -/
inductive Fault where
  | incomplete (position : Nat)
  | invalid (length position : Nat)
  deriving DecidableEq, Repr

def Fault.message : Fault → String
  | incomplete position =>
    "incomplete utf-8 byte sequence from index " ++ decimalText position
  | invalid length position =>
    "invalid utf-8 sequence of " ++ decimalText length ++ " bytes from index " ++
      decimalText position

/-- What stands at the front of some bytes: a character and its length, or a
run of bytes that begins none, which the end may have cut off. -/
inductive Front where
  | character (c : Char) (length : Nat)
  | broken (length : Nat) (cutOff : Bool)
  deriving DecidableEq, Repr

def within (low high byte : UInt8) : Bool :=
  low ≤ byte && byte ≤ high

/-- The number of bytes after the first in a character, and the range of the
second byte, for each first byte of a longer character. -/
def shape? (first : UInt8) : Option (Nat × UInt8 × UInt8) :=
  if within 0xC2 0xDF first then some (1, 0x80, 0xBF)
  else if first = 0xE0 then some (2, 0xA0, 0xBF)
  else if first = 0xED then some (2, 0x80, 0x9F)
  else if within 0xE1 0xEF first then some (2, 0x80, 0xBF)
  else if first = 0xF0 then some (3, 0x90, 0xBF)
  else if within 0xF1 0xF3 first then some (3, 0x80, 0xBF)
  else if first = 0xF4 then some (3, 0x80, 0x8F)
  else none

def firstBits (more : Nat) (first : UInt8) : Nat :=
  first.toNat % Nat.pow 2 (6 - more)

def laterBytes (taken value : Nat) : Nat → UInt8 → UInt8 → Bytes → Front
  | 0, _, _, _ => .character (Char.ofNat value) taken
  | _ + 1, _, _, [] => .broken taken true
  | more + 1, low, high, byte :: rest =>
    if within low high byte then
      laterBytes (taken + 1) (value * 0x40 + byte.toNat % 0x40) more 0x80 0xBF rest
    else
      .broken taken false

def front (first : UInt8) (rest : Bytes) : Front :=
  if first < 0x80 then .character (Char.ofNat first.toNat) 1
  else
    match shape? first with
    | none => .broken 1 false
    | some (more, low, high) => laterBytes 1 (firstBits more first) more low high rest

/-- Decodes bytes after the characters already read, which are reversed.  The
bytes of a character already read are skipped. -/
def decodeFrom (done : List Char) (position skip : Nat) : Bytes → Except Fault (List Char)
  | [] => .ok done.reverse
  | byte :: rest =>
    match skip with
    | skip + 1 => decodeFrom done (position + 1) skip rest
    | 0 =>
      match front byte rest with
      | .character c length => decodeFrom (c :: done) (position + 1) (length - 1) rest
      | .broken _ true => .error (.incomplete position)
      | .broken length false => .error (.invalid length position)

def decode (bytes : Bytes) : Except Fault String :=
  (decodeFrom [] 0 0 bytes).map String.ofList

def decodeTolerantlyFrom (done : List Char) (skip : Nat) : Bytes → List Char
  | [] => done.reverse
  | byte :: rest =>
    match skip with
    | skip + 1 => decodeTolerantlyFrom done skip rest
    | 0 =>
      match front byte rest with
      | .character c length => decodeTolerantlyFrom (c :: done) (length - 1) rest
      | .broken length _ => decodeTolerantlyFrom ('\uFFFD' :: done) (length - 1) rest

/-- The text of bytes, with the replacement character for each run of bytes that
is no character. -/
def decodeTolerantly (bytes : Bytes) : String :=
  String.ofList (decodeTolerantlyFrom [] 0 bytes)

def encode (text : String) : Bytes :=
  text.toUTF8.data.toList

end Utf8
end JarAtlas
