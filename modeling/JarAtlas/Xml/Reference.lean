/-
Characters and references.

A document may hold any character but the controls other than tab, line feed and
carriage return, and the two noncharacters U+FFFE and U+FFFF.  Names are built
from letters, digits and a few marks over the whole of Unicode.  A character of
a document can be written as itself or as a reference, by its number or by one
of five names.  In running text a line end may be written in three ways and is
read as a line feed; in an attribute every line end or tab is read as a space.
A character that comes from a reference is not changed.
-/
import JarAtlas.Text.CharacterClass
import JarAtlas.Text.Digits

namespace JarAtlas
namespace Xml

def isAllowed (c : Char) : Bool :=
  if c.toNat < 0x20 then
    c = '\t' || c = '\n' || c = '\r'
  else
    c.toNat != 0xFFFE && c.toNat != 0xFFFF

def isSpace (c : Char) : Bool :=
  c = ' ' || c = '\t' || c = '\n' || c = '\r'

def nameStarts : CodePoints :=
  [(0x3A, 0x3A), (0x41, 0x5A), (0x5F, 0x5F), (0x61, 0x7A), (0xC0, 0xD6), (0xD8, 0xF6),
   (0xF8, 0x2FF), (0x370, 0x37D), (0x37F, 0x1FFF), (0x200C, 0x200D), (0x2070, 0x218F),
   (0x2C00, 0x2FEF), (0x3001, 0xD7FF), (0xF900, 0xFDCF), (0xFDF0, 0xFFFD),
   (0x10000, 0xEFFFF)]

def nameContinuations : CodePoints :=
  [(0x2D, 0x2E), (0x30, 0x39), (0xB7, 0xB7), (0x300, 0x36F), (0x203F, 0x2040)]

def startsName (c : Char) : Bool :=
  nameStarts.contains c

def continuesName (c : Char) : Bool :=
  nameStarts.contains c || nameContinuations.contains c

/-- The character with a given number.  A number beyond the code points, or of
a surrogate, stands for the replacement character; one beyond 32 bits, or of a
character that no document may hold, stands for none. -/
def numbered? (number : Nat) : Option Char :=
  if number < 4294967296 then
    let c := if number.isValidChar then Char.ofNat number else '\uFFFD'
    if isAllowed c then some c else none
  else
    none

def named? (name : List Char) : Option Char :=
  match String.ofList name with
  | "quot" => some '"'
  | "amp" => some '&'
  | "apos" => some '\''
  | "lt" => some '<'
  | "gt" => some '>'
  | _ => none

def endReference? (c : Option Char) : List Char → Option (Char × List Char)
  | ';' :: rest => c.map (·, rest)
  | _ => none

def numberReference? (base : Nat) (isDigit : Char → Bool) (text : List Char) :
    Option (Char × List Char) :=
  let digits := text.takeWhile isDigit
  if digits.isEmpty then none
  else endReference? (numbered? (numberOf base digits)) (text.dropWhile isDigit)

def reference? : List Char → Option (Char × List Char)
  | '#' :: 'x' :: rest => numberReference? 16 isHexDigit rest
  | '#' :: rest => numberReference? 10 isDecimalDigit rest
  | rest => endReference? (named? (rest.takeWhile continuesName)) (rest.dropWhile continuesName)

inductive Piece where
  | raw (c : Char)
  | referenced (c : Char)
  deriving DecidableEq, Repr

def pieces? : Nat → List Piece → List Char → Option (List Piece)
  | _, done, [] => some done.reverse
  | 0, _, _ :: _ => none
  | fuel + 1, done, '&' :: rest =>
    match reference? rest with
    | some (c, after) => pieces? fuel (.referenced c :: done) after
    | none => none
  | fuel + 1, done, c :: rest => pieces? fuel (.raw c :: done) rest

def piecesOf? (text : List Char) : Option (List Piece) :=
  pieces? text.length [] text

/-- Adds a raw character to the reversed text read so far.  A carriage return
that is waiting at the end of that text becomes a line feed, which swallows a
line feed written after it. -/
def addRaw (c : Char) (atEnd : Bool) : List Char → List Char
  | '\r' :: before =>
    if atEnd ∧ c = '\r' then '\n' :: '\n' :: before
    else if c = '\n' then '\n' :: before
    else c :: '\n' :: before
  | before => if atEnd ∧ c = '\r' then '\n' :: before else c :: before

/-- Reads pieces into a reversed text.  A referenced character and the raw
character just after one are taken as they are. -/
def joinPieces (afterReference : Bool) (done : List Char) : List Piece → List Char
  | [] => done
  | .referenced c :: rest => joinPieces true (c :: done) rest
  | .raw c :: rest =>
    if afterReference then joinPieces false (c :: done) rest
    else joinPieces false (addRaw c rest.isEmpty done) rest

def runningText (pieces : List Piece) : List Char :=
  (joinPieces false [] pieces).reverse

def attributeText : List Piece → List Char
  | [] => []
  | .referenced c :: rest => c :: attributeText rest
  | .raw '\r' :: .raw '\n' :: rest => ' ' :: attributeText rest
  | .raw c :: rest => (if isSpace c then ' ' else c) :: attributeText rest

end Xml
end JarAtlas
