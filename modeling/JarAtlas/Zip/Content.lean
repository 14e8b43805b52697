/-
The contents of archive entries.

An entry is opened before anything is read from it: it must be neither encrypted
nor sealed, its method must be known, and its header must stand where the
directory says.  Reading takes no size on trust.  The declared size is only held
against the limit, the content is bounded by the same limit, and its checksum
must agree.  The checksum is the remainder of the bits, least significant first,
by a fixed polynomial over the field of two elements, with the register inverted
before and after.
-/
import JarAtlas.Zip.Directory
import JarAtlas.Zip.Inflate

namespace JarAtlas
namespace Crc32

def polynomial : UInt32 := 0xEDB88320

def stepBit (register : UInt32) : UInt32 :=
  if register &&& 1 = 1 then (register >>> 1) ^^^ polynomial else register >>> 1

def stepByte (register : UInt32) : UInt32 :=
  Nat.repeat stepBit 8 register

def table : Array UInt32 :=
  Array.ofFn fun value : Fin 256 => stepByte value.val.toUInt32

def addByte (register : UInt32) (byte : UInt8) : UInt32 :=
  table.getD ((register ^^^ byte.toUInt32) &&& 0xFF).toNat 0 ^^^ (register >>> 8)

def checksum (bytes : ByteArray) : UInt32 :=
  bytes.foldl addByte 0xFFFFFFFF ^^^ 0xFFFFFFFF

end Crc32

namespace Zip

inductive Method where
  | stored
  | deflated
  deriving DecidableEq, Repr

def Method.ofNumber? : Nat → Option Method
  | 0 => some .stored
  | 8 => some .deflated
  | _ => none

structure OpenEntry where
  entry : Entry
  method : Method
  dataStart : Nat
  deriving DecidableEq, Repr

def headerSignature : Nat := 0x04034B50

def Entry.open? (file : ByteArray) (entry : Entry) : Option OpenEntry :=
  if entry.isEncrypted || entry.isSealed then none
  else do
    let opening ← Bytes.littleAt? file entry.headerStart 4
    if opening ≠ headerSignature then none
    else
      let nameLength ← Bytes.littleAt? file (entry.headerStart + 26) 2
      let extraLength ← Bytes.littleAt? file (entry.headerStart + 28) 2
      let method ← Method.ofNumber? entry.method
      return ⟨entry, method, entry.headerStart + 30 + nameLength + extraLength⟩

inductive ReadFault where
  | declaresTooMuch (declared limit : Nat)
  | holdsTooMuch (limit : Nat)
  | unreadable
  deriving DecidableEq, Repr

def ReadFault.message : ReadFault → String
  | declaresTooMuch declared limit =>
    "entry declares " ++ decimalText declared ++ " bytes, limit is " ++ decimalText limit
  | holdsTooMuch limit => "entry exceeds " ++ decimalText limit ++ " bytes"
  | unreadable => "failed to read entry"

def OpenEntry.data (file : ByteArray) (entry : OpenEntry) : ByteArray :=
  file.extract (min entry.dataStart file.size)
    (min (entry.dataStart + entry.entry.compressedSize) file.size)

/-- The content of an entry, or of its beginning when there is more than
`limit`. -/
def OpenEntry.content? (file : ByteArray) (limit : Nat) (entry : OpenEntry) : Option ByteArray :=
  match entry.method with
  | .stored => some (entry.data file)
  | .deflated => Inflate.inflate? limit (entry.data file)

def OpenEntry.read (file : ByteArray) (limit : Nat) (entry : OpenEntry) :
    Except ReadFault ByteArray :=
  if limit < entry.entry.size then .error (.declaresTooMuch entry.entry.size limit)
  else
    match entry.content? file limit with
    | none => .error .unreadable
    | some content =>
      if limit < content.size then .error (.holdsTooMuch limit)
      else if (Crc32.checksum content).toNat = entry.entry.checksum then .ok content
      else .error .unreadable

end Zip
end JarAtlas
