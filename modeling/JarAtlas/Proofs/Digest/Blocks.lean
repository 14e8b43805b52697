/-
The secure hash over lists.

The words of a block are told from the list of its bytes, and the words to which
they are stretched are kept with the latest first, so that each new word is made
from the front of the list.  The final state is the one that is computed in
arrays.
-/
import JarAtlas.Digest.Sha256
import Mathlib.Data.List.GetD

namespace JarAtlas
namespace Sha256

def paddedBytes (message : Bytes) : Bytes :=
  message ++ 0x80 :: (List.replicate ((119 - message.length % 64) % 64) 0 ++
    (List.range 8).map fun place => (8 * message.length / Nat.pow 256 (7 - place)).toUInt8)

def wordOfBytes (bytes : Bytes) (position : Nat) : UInt32 :=
  let byteAt (offset : Nat) : UInt32 := (bytes.getD (position + offset) 0).toUInt32
  (byteAt 0 <<< 24) ||| (byteAt 1 <<< 16) ||| (byteAt 2 <<< 8) ||| byteAt 3

/-- The word after those of a list with the latest first. -/
def wordAfter (latest : List UInt32) : UInt32 :=
  let early := latest.getD 14 0
  let late := latest.getD 1 0
  latest.getD 15 0 + (turn early 7 ^^^ turn early 18 ^^^ (early >>> 3)) + latest.getD 6 0 +
    (turn late 17 ^^^ turn late 19 ^^^ (late >>> 10))

def stretched (given : List UInt32) : List UInt32 :=
  (Nat.repeat (fun latest => wordAfter latest :: latest) 48 given.reverse).reverse

def mixBlock (block : Bytes) (state : Vector UInt32 8) : Vector UInt32 8 :=
  let words := stretched ((List.range 16).map fun index => wordOfBytes block (4 * index))
  Vector.zipWith (· + ·) state
    ((roundConstants.toArray.toList.zip words).foldl
      (fun working pair => round working pair.1 pair.2) state)

def stateOfBytes (bytes : Bytes) : Vector UInt32 8 :=
  (List.range (bytes.length / 64)).foldl
    (fun state index => mixBlock (bytes.drop (64 * index)) state) initialState

theorem byteAt_eq (file : ByteArray) (position : Nat) :
    Bytes.byteAt file position = file.data.toList.getD position 0 := by
  rw [Bytes.byteAt]
  split
  · rename_i inside
    rw [List.getD_eq_getElem _ _ (by exact inside)]
    rfl
  · rename_i outside
    rw [List.getD_eq_default _ _ (Nat.le_of_not_lt outside)]

theorem wordAt_eq (bytes : ByteArray) (start position : Nat) :
    wordAt bytes (start + position) = wordOfBytes (bytes.data.toList.drop start) position := by
  have same (offset : Nat) : Bytes.byteAt bytes (start + position + offset) =
      (bytes.data.toList.drop start).getD (position + offset) 0 := by
    rw [byteAt_eq, List.getD_eq_getElem?_getD, List.getD_eq_getElem?_getD, List.getElem?_drop,
      Nat.add_assoc]
  simp only [wordAt, wordOfBytes, same]

theorem nextWord_eq {latest : List UInt32} (enough : 16 ≤ latest.length) :
    nextWord latest.reverse.toArray = wordAfter latest := by
  have back (count : Nat) (positive : 0 < count) (few : count ≤ 16) :
      latest.reverse.toArray.getD (latest.reverse.toArray.size - count) 0 =
        latest.getD (count - 1) 0 := by
    have size : latest.reverse.toArray.size = latest.length := by
      rw [List.size_toArray, List.length_reverse]
    rw [size, Array.getD_eq_getD_getElem?, List.getElem?_toArray, List.getD_eq_getElem?_getD,
      List.getElem?_reverse (by omega)]
    congr 2
    omega
  simp only [nextWord, wordAfter, back _ (Nat.succ_pos _) (by decide : 15 ≤ 16),
    back 2 (by decide) (by decide), back 16 (by decide) (by decide),
    back 7 (by decide) (by decide)]

theorem push_nextWord (count : Nat) {latest : List UInt32} (enough : 16 ≤ latest.length) :
    Nat.repeat (fun words => words.push (nextWord words)) count latest.reverse.toArray =
      (Nat.repeat (fun latest => wordAfter latest :: latest) count latest).reverse.toArray ∧
      16 ≤ (Nat.repeat (fun latest => wordAfter latest :: latest) count latest).length := by
  induction count with
  | zero => exact ⟨rfl, enough⟩
  | succ count ih =>
      obtain ⟨same, still⟩ := ih
      constructor
      · rw [Nat.repeat, same, nextWord_eq still, List.push_toArray, Nat.repeat, List.reverse_cons]
      · rw [Nat.repeat, List.length_cons]
        exact Nat.le_succ_of_le still

theorem schedule_eq (bytes : ByteArray) (start : Nat) :
    schedule bytes start =
      (stretched ((List.range 16).map fun index =>
        wordOfBytes (bytes.data.toList.drop start) (4 * index))).toArray := by
  have given : ((Array.range 16).map fun index => wordAt bytes (start + 4 * index)) =
      ((List.range 16).map fun index =>
        wordOfBytes (bytes.data.toList.drop start) (4 * index)).reverse.reverse.toArray := by
    rw [List.reverse_reverse, ← List.map_toArray, List.toArray_range]
    exact congrArg (Array.map · _) (funext fun index => wordAt_eq bytes start (4 * index))
  rw [schedule, given, stretched]
  exact (push_nextWord 48 (by simp)).1

theorem foldl_range_getD {α β γ : Type} (step : γ → α → β → γ) (first : α) (second : β)
    {as : List α} {bs : List β} {count : Nat} (many : as.length = count) (same : bs.length = count)
    (state : γ) :
    (List.range count).foldl
        (fun state index => step state (as.getD index first) (bs.getD index second)) state =
      (as.zip bs).foldl (fun state pair => step state pair.1 pair.2) state := by
  have pairs : as.zip bs =
      (List.range count).map fun index => (as.getD index first, bs.getD index second) := by
    apply List.ext_getElem
    · simp [many, same]
    · intro index inside outside
      simp only [List.length_zip, Nat.lt_min] at inside
      rw [List.getElem_zip, List.getElem_map, List.getElem_range,
        List.getD_eq_getElem _ _ inside.1, List.getD_eq_getElem _ _ inside.2]
  rw [pairs, List.foldl_map]

theorem length_stretched (given : List UInt32) : (stretched given).length = given.length + 48 := by
  have grows (count : Nat) : (Nat.repeat (fun latest => wordAfter latest :: latest) count
      given.reverse).length = given.length + count := by
    induction count with
    | zero => exact List.length_reverse
    | succ count ih => rw [Nat.repeat, List.length_cons, ih, Nat.add_assoc]
  rw [stretched, List.length_reverse, grows]

theorem compress_eq (bytes : ByteArray) (start : Nat) (state : Vector UInt32 8) :
    compress bytes start state = mixBlock (bytes.data.toList.drop start) state := by
  have constants : roundConstants.toArray.toList.length = 64 := rfl
  have words : (stretched ((List.range 16).map fun index =>
      wordOfBytes (bytes.data.toList.drop start) (4 * index))).length = 64 := by
    rw [length_stretched, List.length_map, List.length_range]
  rw [mixBlock, ← foldl_range_getD round 0 0 constants words state, compress, schedule_eq,
    ← List.toArray_range, List.foldl_toArray]
  simp only [Array.getD_eq_getD_getElem?, List.getD_eq_getElem?_getD, List.getElem?_toArray,
    Array.getElem?_toList]

theorem toList_padded (message : ByteArray) :
    (padded message).data.toList = paddedBytes message.data.toList := by
  rw [padded, ByteArray.data_append, Array.toList_append]
  rfl

theorem finalState_eq (message : ByteArray) :
    finalState message = stateOfBytes (paddedBytes message.data.toList) := by
  rw [← toList_padded, stateOfBytes, finalState]
  simp only [compress_eq]
  rfl

end Sha256
end JarAtlas
