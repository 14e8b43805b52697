/-
Decompression of archive entries.

Compressed data is a sequence of bits, least significant first in each byte,
made of blocks.  A block is stored as it is, or coded by two prefix codes: one
for bytes and the lengths of repetitions, one for how far back a repetition
reaches.  The codes are fixed, or described at the start of the block by the
lengths of their words.  A repetition may reach back before the output, where
it finds zeros.  What follows the last block is ignored.
-/
import JarAtlas.Bytes

namespace JarAtlas
namespace Inflate

def bit? (data : ByteArray) (position : Nat) : Option Nat :=
  if h : position / 8 < data.size then
    some (data[position / 8].toNat >>> (position % 8) % 2)
  else
    none

def bits? (data : ByteArray) (position : Nat) : Nat → Option Nat
  | 0 => some 0
  | count + 1 => do
    let low ← bit? data position
    let high ← bits? data (position + 1) count
    return low + 2 * high

/-! ### Prefix codes -/

/-- A prefix code in canonical form: how many words there are of each length,
and the symbols ordered by the length of their words, then by value. -/
structure Code where
  counts : Array Nat
  symbols : Array Nat
  deriving Repr

namespace Code

def maxLength : Nat := 15

def ofLengths (lengths : List Nat) : Code where
  counts := ((List.range (maxLength + 1)).map fun length =>
    if length = 0 then 0 else lengths.count length).toArray
  symbols := ((List.range (maxLength + 1)).flatMap fun length =>
    if length = 0 then []
    else (lengths.zipIdx.filter fun (own, _) => own = length).map (·.2)).toArray

/-- Whether the words fill the code exactly: no bits begin a word that is not
there. -/
def isComplete (code : Code) : Bool :=
  let room := (List.range (maxLength + 1)).foldl
    (fun used length => used + code.counts.getD length 0 * Nat.pow 2 (maxLength - length)) 0
  room = Nat.pow 2 maxLength

def isDegenerate (code : Code) : Bool :=
  code.symbols.isEmpty || code.symbols.size = 1 && code.counts.getD 1 0 = 1

def complete? (lengths : List Nat) : Option Code :=
  let code := ofLengths lengths
  if code.isComplete then some code else none

/-- The code of given word lengths, if it is complete or so small that it
cannot be. -/
def ofLengths? (lengths : List Nat) : Option Code :=
  let code := ofLengths lengths
  if code.isComplete || code.isDegenerate then some code else none

/-- Reads the rest of a word.  `word` is what was read so far, `first` the
first word of this length and `index` the place of its symbol. -/
def symbolFrom? (code : Code) (data : ByteArray) :
    Nat → Nat → Nat → Nat → Nat → Nat → Option (Nat × Nat)
  | 0, _, _, _, _, _ => none
  | more + 1, length, position, word, first, index =>
    match bit? data position with
    | none => none
    | some bit =>
      let word := 2 * word + bit
      let count := code.counts.getD length 0
      if first ≤ word ∧ word < first + count then
        (code.symbols[index + (word - first)]?).map (·, position + 1)
      else
        symbolFrom? code data more (length + 1) (position + 1) word
          (2 * (first + count)) (index + count)

def symbol? (code : Code) (data : ByteArray) (position : Nat) : Option (Nat × Nat) :=
  symbolFrom? code data maxLength 1 position 0 0 0

end Code

/-- The least length of a repetition and the number of further bits, by symbol
from 257 on. -/
def lengthRules : Array (Nat × Nat) :=
  #[(3, 0), (4, 0), (5, 0), (6, 0), (7, 0), (8, 0), (9, 0), (10, 0), (11, 1), (13, 1), (15, 1),
    (17, 1), (19, 2), (23, 2), (27, 2), (31, 2), (35, 3), (43, 3), (51, 3), (59, 3), (67, 4),
    (83, 4), (99, 4), (115, 4), (131, 5), (163, 5), (195, 5), (227, 5), (258, 0)]

/-- The least distance of a repetition and the number of further bits, by
symbol. -/
def distanceRules : Array (Nat × Nat) :=
  #[(1, 0), (2, 0), (3, 0), (4, 0), (5, 1), (7, 1), (9, 2), (13, 2), (17, 3), (25, 3), (33, 4),
    (49, 4), (65, 5), (97, 5), (129, 6), (193, 6), (257, 7), (385, 7), (513, 8), (769, 8),
    (1025, 9), (1537, 9), (2049, 10), (3073, 10), (4097, 11), (6145, 11), (8193, 12),
    (12289, 12), (16385, 13), (24577, 13)]

def ruled? (rules : Array (Nat × Nat)) (symbol : Nat) (data : ByteArray) (position : Nat) :
    Option (Nat × Nat) := do
  let (base, extra) ← rules[symbol]?
  let more ← bits? data position extra
  return (base + more, position + extra)

/-- The byte that stands `distance` back from the end.  The output is preceded
by zeros. -/
def byteBack (output : ByteArray) (distance : Nat) : UInt8 :=
  if output.size < distance then 0 else Bytes.byteAt output (output.size - distance)

def repeatBack (distance : Nat) : Nat → ByteArray → ByteArray
  | 0, output => output
  | more + 1, output => repeatBack distance more (output.push (byteBack output distance))

/-! ### Blocks -/

/-- Reads the words of a block up to its end.  Reading stops early when the
output is longer than `limit`. -/
def words? (limit : Nat) (literals distances : Code) (data : ByteArray) :
    Nat → Nat → ByteArray → Option (Nat × ByteArray)
  | 0, _, _ => none
  | fuel + 1, position, output =>
    if limit < output.size then some (position, output)
    else
      match literals.symbol? data position with
      | none => none
      | some (symbol, position) =>
        if symbol < 256 then
          words? limit literals distances data fuel position (output.push symbol.toUInt8)
        else if symbol = 256 then
          some (position, output)
        else
          match ruled? lengthRules (symbol - 257) data position with
          | none => none
          | some (length, position) =>
            match distances.symbol? data position with
            | none => none
            | some (distanceSymbol, position) =>
              match ruled? distanceRules distanceSymbol data position with
              | none => none
              | some (distance, position) =>
                words? limit literals distances data fuel position
                  (repeatBack distance length output)

def fixedLiteralLengths : List Nat :=
  List.replicate 144 8 ++ List.replicate 112 9 ++ List.replicate 24 7 ++ List.replicate 8 8

def fixedDistanceLengths : List Nat :=
  List.replicate 32 5

/-- The order in which a block states the word lengths of the code that its
other word lengths are written in. -/
def lengthOrder : List Nat :=
  [16, 17, 18, 0, 8, 7, 9, 6, 10, 5, 11, 4, 12, 3, 13, 2, 14, 1, 15]

def threeBitNumbers? (data : ByteArray) (position : Nat) : Nat → Option (List Nat)
  | 0 => some []
  | count + 1 => do
    let number ← bits? data position 3
    let rest ← threeBitNumbers? data (position + 3) count
    return number :: rest

def wordLengths? (code : Code) (data : ByteArray) (wanted : Nat) :
    Nat → Nat → List Nat → Option (List Nat × Nat)
  | 0, _, _ => none
  | fuel + 1, position, done =>
    if done.length = wanted then some (done.reverse, position)
    else if wanted < done.length then none
    else
      match code.symbol? data position with
      | none => none
      | some (symbol, position) =>
        let repeated (value : Option Nat) (base extra : Nat) :=
          match value, bits? data position extra with
          | some value, some more =>
            wordLengths? code data wanted fuel (position + extra)
              (List.replicate (base + more) value ++ done)
          | _, _ => none
        if symbol < 16 then wordLengths? code data wanted fuel position (symbol :: done)
        else if symbol = 16 then repeated done.head? 3 2
        else if symbol = 17 then repeated (some 0) 3 3
        else repeated (some 0) 11 7

def codes? (data : ByteArray) (position : Nat) : Option (Code × Code × Nat) := do
  let literalCount := 257 + (← bits? data position 5)
  let distanceCount := 1 + (← bits? data (position + 5) 5)
  let orderCount := 4 + (← bits? data (position + 10) 4)
  if 286 < literalCount ∨ 30 < distanceCount then none
  else
    let stated ← threeBitNumbers? data (position + 14) orderCount
    let named := lengthOrder.zip stated
    let outer ← Code.complete? ((List.range 19).map fun symbol => (named.lookup symbol).getD 0)
    let wanted := literalCount + distanceCount
    let (lengths, position) ←
      wordLengths? outer data wanted (wanted + 1) (position + 14 + 3 * orderCount) []
    let literals ← Code.ofLengths? (lengths.take literalCount)
    let distances ← Code.ofLengths? (lengths.drop literalCount)
    return (literals, distances, position)

/-- Copies a stored block: its length twice, the second time inverted, and the
bytes. -/
def stored? (data : ByteArray) (position : Nat) (output : ByteArray) :
    Option (Nat × ByteArray) := do
  let start := (position + 7) / 8 * 8
  let length ← bits? data start 16
  let inverted ← bits? data (start + 16) 16
  let first := start / 8 + 4
  if length + inverted ≠ 0xFFFF ∨ data.size < first + length then none
  else return ((first + length) * 8, output ++ data.extract first (first + length))

def blocks? (limit : Nat) (data : ByteArray) : Nat → Nat → ByteArray → Option ByteArray
  | 0, _, _ => none
  | fuel + 1, position, output =>
    match bits? data position 1, bits? data (position + 1) 2 with
    | some last, some form =>
      let start := position + 3
      let read :=
        if form = 0 then stored? data start output
        else if form = 1 then
          words? limit (.ofLengths fixedLiteralLengths) (.ofLengths fixedDistanceLengths) data
            (8 * data.size + 1) start output
        else if form = 2 then
          match codes? data start with
          | some (literals, distances, start) =>
            words? limit literals distances data (8 * data.size + 1) start output
          | none => none
        else none
      match read with
      | none => none
      | some (position, output) =>
        if last = 1 ∨ limit < output.size then some output
        else blocks? limit data fuel position output
    | _, _ => none

/-- The decompressed bytes.  When they are more than `limit`, not all of them
need be there. -/
def inflate? (limit : Nat) (data : ByteArray) : Option ByteArray :=
  blocks? limit data (8 * data.size + 1) 0 ByteArray.empty

end Inflate
end JarAtlas
