/-
The directory of an archive.

An archive ends with a record that says where its directory stands and how many
entries it lists.  The record is looked for from the end of the file, since a
comment may follow it; bytes in front of the archive shift every stated offset.
When a record of the wide form stands before it, that one is followed instead.
Shifted offsets must stay positions.  Each directory entry tells the name, the
sizes, the checksum and the place of the data.  Names that are not marked as
UTF-8 are written in a character set of 256 characters whose lower half is
ASCII.
-/
import JarAtlas.Bytes
import JarAtlas.Text.Utf8

namespace JarAtlas
namespace CodePage437

def upperHalf : List Char :=
  ("ÇüéâäàåçêëèïîìÄÅÉæÆôöòûùÿÖÜ¢£¥₧ƒáíóúñÑªº¿⌐¬½¼¡«»" ++
    "░▒▓│┤╡╢╖╕╣║╗╝╜╛┐└┴┬├─┼╞╟╚╔╩╦╠═╬╧╨╤╥╙╘╒╓╫╪┘┌█▄▌▐▀" ++
    "αßΓπΣσµτΦΘΩδ∞φε∩≡±≥≤⌠⌡÷≈°∙·√ⁿ²■\u00A0").toList

def character (byte : UInt8) : Char :=
  if byte < 0x80 then Char.ofNat byte.toNat else upperHalf.getD (byte.toNat - 0x80) ' '

def decode (bytes : Bytes) : String :=
  String.ofList (bytes.map character)

end CodePage437

namespace Zip

def positionLimit : Nat := 0x10000000000000000

def shifted? (shift position : Nat) : Option Nat :=
  if position + shift < positionLimit then some (position + shift) else none

structure EndRecord where
  position : Nat
  disk : Nat
  directoryDisk : Nat
  entriesHere : Nat
  entries : Nat
  directorySize : Nat
  directoryOffset : Nat
  commentLength : Nat
  deriving DecidableEq, Repr

namespace EndRecord

def signature : Nat := 0x06054B50

def size : Nat := 22

def at? (file : ByteArray) (position : Nat) : Option EndRecord := do
  let disk ← Bytes.littleAt? file (position + 4) 2
  let directoryDisk ← Bytes.littleAt? file (position + 6) 2
  let entriesHere ← Bytes.littleAt? file (position + 8) 2
  let entries ← Bytes.littleAt? file (position + 10) 2
  let directorySize ← Bytes.littleAt? file (position + 12) 4
  let directoryOffset ← Bytes.littleAt? file (position + 16) 4
  let commentLength ← Bytes.littleAt? file (position + 20) 2
  if file.size < position + size + commentLength then none
  else
    return {
      position, disk, directoryDisk, entriesHere, entries
      directorySize, directoryOffset, commentLength }

def isNarrow (record : EndRecord) : Bool :=
  [record.disk, record.directoryDisk, record.entriesHere, record.entries].contains 0xFFFF ||
    [record.directorySize, record.directoryOffset].contains 0xFFFFFFFF

def isWhole (record : EndRecord) : Bool :=
  record.isNarrow || record.disk = record.directoryDisk

def findFrom? (file : ByteArray) : Nat → Nat → Option Nat
  | 0, position => if Bytes.littleAt? file position 4 = some signature then some position else none
  | more + 1, position =>
    if Bytes.littleAt? file position 4 = some signature then some position
    else findFrom? file more (position - 1)

def find? (file : ByteArray) : Option EndRecord :=
  if file.size < size then none
  else
    let last := file.size - size
    (findFrom? file (min last 0xFFFF) last).bind (at? file)

end EndRecord

/-! ### Where the directory stands -/

/-- The place of the directory: by how much offsets are shifted, where it
starts, and how many entries it lists. -/
structure Location where
  shift : Nat
  start : Nat
  entries : Nat
  deriving DecidableEq, Repr

namespace Location

def ofRecord? (record : EndRecord) : Option Location :=
  let described := record.directorySize + record.directoryOffset
  if record.position < described then none
  else
    let shift := record.position - described
    some ⟨shift, record.directoryOffset + shift, record.entriesHere⟩

def wideSignature : Nat := 0x06064B50

def pointerSignature : Nat := 0x07064B50

def pointerSize : Nat := 20

def pointer? (file : ByteArray) (record : EndRecord) : Option Nat :=
  let behind := pointerSize + EndRecord.size + record.commentLength
  if file.size < behind then none
  else
    let position := file.size - behind
    if Bytes.littleAt? file position 4 = some pointerSignature then some position else none

def findWide? (file : ByteArray) : Nat → Nat → Option Nat
  | 0, _ => none
  | more + 1, position =>
    if Bytes.littleAt? file position 4 = some wideSignature then some position
    else findWide? file more (position + 1)

def ofPointer? (file : ByteArray) (record : EndRecord) (pointer : Nat) : Option Location := do
  let pointerDisk ← Bytes.littleAt? file (pointer + 4) 4
  let nominal ← Bytes.littleAt? file (pointer + 8) 8
  if (!record.isNarrow && record.disk ≠ pointerDisk) || record.position < 60 then none
  else
    let position ← findWide? file (record.position - 60 + 1 - nominal) nominal
    let disk ← Bytes.littleAt? file (position + 16) 4
    let directoryDisk ← Bytes.littleAt? file (position + 20) 4
    let entries ← Bytes.littleAt? file (position + 32) 8
    let offset ← Bytes.littleAt? file (position + 48) 8
    if disk ≠ directoryDisk then none
    else
      let start ← shifted? (position - nominal) offset
      return ⟨position - nominal, start, entries⟩

def of? (file : ByteArray) (record : EndRecord) : Option Location :=
  match pointer? file record with
  | some pointer => ofPointer? file record pointer
  | none => ofRecord? record

end Location

/-! ### Directory entries -/

/-- An entry as the directory lists it.  It is sealed when encryption data
stand in its extra data. -/
structure Entry where
  name : String
  isEncrypted : Bool
  isSealed : Bool
  method : Nat
  checksum : Nat
  compressedSize : Nat
  size : Nat
  headerStart : Nat
  deriving DecidableEq, Repr

namespace Entry

def signature : Nat := 0x02014B50

def elsewhere : Nat := 0xFFFFFFFF

def wideNumber? (value : Nat) : Step Nat := fun bytes =>
  if value = elsewhere then Bytes.little? 8 bytes else some (value, bytes)

/-- Takes numbers that stand elsewhere from wide data, in a fixed order, and
returns the data after them.  Where the data ends the other numbers stay. -/
def takeWide (entry : Entry) (data : Bytes) : Entry × Bytes :=
  match wideNumber? entry.size data with
  | none => (entry, [])
  | some (size, rest) =>
    match wideNumber? entry.compressedSize rest with
    | none => ({ entry with size }, [])
    | some (compressedSize, rest) =>
      match wideNumber? entry.headerStart rest with
      | none => ({ entry with size, compressedSize }, [])
      | some (headerStart, rest) => ({ entry with size, compressedSize, headerStart }, rest)

/-- Encryption data: the version and the mark of its format, the strength of
the cipher, and the method behind it. -/
structure Seal where
  version : Nat
  mark : Nat
  strength : Nat
  method : Nat
  deriving DecidableEq, Repr

namespace Seal

def size : Nat := 7

def knownMark : Nat := 0x4541

def read? : Step Seal := fun bytes => do
  let (version, rest) ← Bytes.little? 2 bytes
  let (mark, rest) ← Bytes.little? 2 rest
  let (strength, rest) ← Bytes.little? 1 rest
  let (method, rest) ← Bytes.little? 2 rest
  return (⟨version, mark, strength, method⟩, rest)

def isKnown (data : Seal) : Bool :=
  data.mark = knownMark && [1, 2].contains data.version && [1, 2, 3].contains data.strength

end Seal

def wideKind : Nat := 0x0001

def sealKind : Nat := 0x9901

/-- Applies the extra data of an entry, a list of fields with a kind and a
length.  Only wide numbers and encryption data matter; reading stops quietly
where the data is cut, but unknown encryption data are unsound.  Encryption data
are skipped once more after they were read. -/
def withExtra? : Nat → Entry → Bytes → Option Entry
  | 0, entry, _ => some entry
  | fuel + 1, entry, extra =>
    match Bytes.little? 2 extra with
    | none => some entry
    | some (kind, rest) =>
      match Bytes.little? 2 rest with
      | none => some entry
      | some (length, rest) =>
        if kind = wideKind then
          let (entry, after) := takeWide entry rest
          withExtra? fuel entry (after.drop (length - (rest.length - after.length)))
        else if kind = sealKind then
          if length ≠ Seal.size then none
          else
            match Seal.read? rest with
            | none => some entry
            | some (data, after) =>
              if data.isKnown then
                withExtra? fuel { entry with isSealed := true, method := data.method }
                  (after.drop length)
              else none
        else
          withExtra? fuel entry (rest.drop length)

def concealedMethod : Nat := 99

def hasMethod (entry : Entry) : Bool :=
  entry.isSealed || entry.method ≠ concealedMethod

def read? (shift : Nat) : Step Entry := fun bytes => do
  let (opening, rest) ← Bytes.little? 4 bytes
  if opening ≠ signature then none
  else
    let (_, rest) ← Bytes.takeExactly? 4 [] rest
    let (flags, rest) ← Bytes.little? 2 rest
    let (method, rest) ← Bytes.little? 2 rest
    let (_, rest) ← Bytes.takeExactly? 4 [] rest
    let (checksum, rest) ← Bytes.little? 4 rest
    let (compressedSize, rest) ← Bytes.little? 4 rest
    let (size, rest) ← Bytes.little? 4 rest
    let (nameLength, rest) ← Bytes.little? 2 rest
    let (extraLength, rest) ← Bytes.little? 2 rest
    let (commentLength, rest) ← Bytes.little? 2 rest
    let (_, rest) ← Bytes.takeExactly? 8 [] rest
    let (headerStart, rest) ← Bytes.little? 4 rest
    let (nameBytes, rest) ← Bytes.takeExactly? nameLength [] rest
    let (extra, rest) ← Bytes.takeExactly? extraLength [] rest
    let (_, rest) ← Bytes.takeExactly? commentLength [] rest
    let name :=
      if flags.testBit 11 then Utf8.decodeTolerantly nameBytes
      else CodePage437.decode nameBytes
    let stated : Entry :=
      { name, isEncrypted := flags % 2 = 1, isSealed := false, method, checksum
        compressedSize, size, headerStart }
    let entry ← stated.withExtra? extraLength extra
    if entry.hasMethod then
      let headerStart ← shifted? shift entry.headerStart
      return ({ entry with headerStart }, rest)
    else none

def isDirectory (entry : Entry) : Bool :=
  match entry.name.toList.getLast? with
  | some c => c = '/' || c = '\\'
  | none => false

end Entry

def directory? (file : ByteArray) : Option (List Entry) := do
  let record ← EndRecord.find? file
  if !record.isWhole then none
  else
    let location ← Location.of? file record
    let bytes := Bytes.slice file location.start file.size
    let (entries, _) ← Bytes.times? (Entry.read? location.shift) location.entries [] bytes
    return entries

end Zip
end JarAtlas
