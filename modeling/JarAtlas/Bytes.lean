/-
Reading bytes.

A reading step takes a value off the front of a list of bytes and returns the
bytes after it, or fails when the bytes do not hold such a value.  Repeated
steps read the tables of a binary format.
-/

namespace JarAtlas

abbrev Bytes := List UInt8

abbrev Step (α : Type) := Bytes → Option (α × Bytes)

namespace Bytes

def takeExactly? (count : Nat) (done : Bytes) : Step Bytes := fun bytes =>
  match count, bytes with
  | 0, rest => some (done.reverse, rest)
  | _ + 1, [] => none
  | more + 1, byte :: rest => takeExactly? more (byte :: done) rest

def bigEndian (bytes : Bytes) : Nat :=
  bytes.foldl (fun value byte => value * 256 + byte.toNat) 0

def littleEndian (bytes : Bytes) : Nat :=
  bytes.foldr (fun byte value => byte.toNat + 256 * value) 0

def big? (width : Nat) : Step Nat := fun bytes =>
  (takeExactly? width [] bytes).map fun (field, rest) => (bigEndian field, rest)

def little? (width : Nat) : Step Nat := fun bytes =>
  (takeExactly? width [] bytes).map fun (field, rest) => (littleEndian field, rest)

def times? {α : Type} (step : Step α) (count : Nat) (done : List α) : Step (List α) :=
  fun bytes =>
    match count with
    | 0 => some (done.reverse, bytes)
    | more + 1 =>
      match step bytes with
      | none => none
      | some (value, rest) => times? step more (value :: done) rest

/-- Reads a table: the number of its rows in two bytes, most significant first,
and the rows. -/
def table? {α : Type} (step : Step α) : Step (List α) := fun bytes =>
  match big? 2 bytes with
  | none => none
  | some (count, rest) => times? step count [] rest

def signed (width : Nat) (number : Nat) : Int :=
  if number < Nat.pow 2 (8 * width - 1) then number
  else (number : Int) - Nat.pow 2 (8 * width)

def byteAt (file : ByteArray) (position : Nat) : UInt8 :=
  if h : position < file.size then file[position] else 0

def slice (file : ByteArray) (start length : Nat) : Bytes :=
  (file.extract (min start file.size) (min (start + length) file.size)).data.toList

def littleAt? (file : ByteArray) (position width : Nat) : Option Nat :=
  if position + width ≤ file.size then some (littleEndian (slice file position width)) else none

end Bytes
end JarAtlas
