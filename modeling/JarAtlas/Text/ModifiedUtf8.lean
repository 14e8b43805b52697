/-
The text encoding of class files.

Class files write text in a variant of UTF-8: NUL takes two bytes, and a
character beyond U+FFFF is written as two surrogates of three bytes each.  A
surrogate without its partner reads as the replacement character.  Surrogates
are told by their code point alone; any other bytes must be sound UTF-8.  ASCII
bytes, zero included, are taken as they are.
-/
import JarAtlas.Bytes

namespace JarAtlas
namespace ModifiedUtf8

def isContinuation (byte : UInt8) : Bool :=
  byte &&& 0xC0 == 0x80

def pair (a b : UInt8) : Nat :=
  (a.toNat % 0x20) * 0x40 + b.toNat % 0x40

def triple (a b c : UInt8) : Nat :=
  (a.toNat % 0x10) * 0x1000 + (b.toNat % 0x40) * 0x40 + c.toNat % 0x40

def isHigh (code : Nat) : Bool :=
  0xD800 ≤ code && code < 0xDC00

def isLow (code : Nat) : Bool :=
  0xDC00 ≤ code && code < 0xE000

def wide (high low : Nat) : Char :=
  Char.ofNat (0x10000 + (high - 0xD800) * 0x400 + (low - 0xDC00))

def decodeFrom? (done : List Char) : Bytes → Option (List Char)
  | [] => some done.reverse
  | a :: rest =>
    if a < 0x80 then
      decodeFrom? (Char.ofNat a.toNat :: done) rest
    else if a < 0xC0 then
      none
    else if a < 0xE0 then
      match rest with
      | b :: after =>
        if isContinuation b ∧ (pair a b = 0 ∨ 0x80 ≤ pair a b) then
          decodeFrom? (Char.ofNat (pair a b) :: done) after
        else none
      | [] => none
    else if a < 0xF0 then
      match rest with
      | b :: c :: d :: e :: f :: after =>
        if isHigh (triple a b c) ∧ d = 0xED ∧ isLow (triple d e f) then
          decodeFrom? (wide (triple a b c) (triple d e f) :: done) after
        else if isHigh (triple a b c) ∨ isLow (triple a b c) then
          decodeFrom? ('\uFFFD' :: done) (d :: e :: f :: after)
        else if isContinuation b ∧ isContinuation c ∧ 0x800 ≤ triple a b c then
          decodeFrom? (Char.ofNat (triple a b c) :: done) (d :: e :: f :: after)
        else none
      | b :: c :: after =>
        if isHigh (triple a b c) ∨ isLow (triple a b c) then
          decodeFrom? ('\uFFFD' :: done) after
        else if isContinuation b ∧ isContinuation c ∧ 0x800 ≤ triple a b c then
          decodeFrom? (Char.ofNat (triple a b c) :: done) after
        else none
      | _ => none
    else
      none

def decode? (bytes : Bytes) : Option String :=
  (decodeFrom? [] bytes).map String.ofList

end ModifiedUtf8
end JarAtlas
