/-
Reading an archive over the list of its bytes.

The entries of the directory and the contents of entries are pieces of this
list, and the checksum of a content is computed bit by bit, without the table of
the remainders of single bytes.
-/
import JarAtlas.Zip.Content

namespace JarAtlas

theorem Bytes.slice_eq (file : ByteArray) (start length : Nat) :
    Bytes.slice file start length = (file.data.toList.drop start).take length := by
  rw [Bytes.slice, ByteArray.data_extract, Array.toList_extract, List.extract_eq_take_drop]
  have size : file.data.toList.length = file.size := rfl
  rcases Nat.le_total start file.size with inside | outside
  · rw [Nat.min_eq_left inside, ← size, List.take_eq_take_iff, List.length_drop]
    omega
  · have nothing : file.data.toList.drop start = [] :=
      List.drop_eq_nil_of_le (by rw [size]; exact outside)
    have past : file.data.toList.drop file.size = [] :=
      List.drop_eq_nil_of_le (Nat.le_of_eq size)
    rw [nothing, Nat.min_eq_right outside, past, List.take_nil, List.take_nil]

theorem Bytes.foldl_loop {α : Type} (step : α → UInt8 → α) (bytes : ByteArray)
    (whole : bytes.size ≤ bytes.size) (left done : Nat) (fits : left + done = bytes.size)
    (value : α) :
    ByteArray.foldlM.loop (fun value byte => (pure (step value byte) : Id α)) bytes bytes.size whole
        left done value =
      (bytes.data.toList.drop done).foldl step value := by
  induction left generalizing done value with
  | zero =>
      have ended : bytes.data.toList.drop done = [] :=
        List.drop_eq_nil_of_le (Nat.le_of_eq (by rw [← Nat.zero_add done, fits]; rfl))
      rw [ByteArray.foldlM.loop, ended]
      split <;> rfl
  | succ left ih =>
      have inside : done < bytes.size := by omega
      have next : bytes.data.toList.drop done = bytes[done] :: bytes.data.toList.drop (done + 1) :=
        List.drop_eq_getElem_cons inside
      rw [ByteArray.foldlM.loop, dif_pos inside, next, List.foldl_cons]
      exact ih (done + 1) (by omega) _

theorem Bytes.foldl_eq {α : Type} (step : α → UInt8 → α) (start : α) (bytes : ByteArray) :
    bytes.foldl step start = bytes.data.toList.foldl step start := by
  rw [ByteArray.foldl, ByteArray.foldlM, dif_pos (Nat.le_refl _)]
  exact foldl_loop step bytes _ bytes.size 0 rfl start

namespace Crc32

def checksumOfBytes (bytes : Bytes) : UInt32 :=
  bytes.foldl
    (fun register byte => stepByte ((register ^^^ byte.toUInt32) &&& 0xFF) ^^^ (register >>> 8))
    0xFFFFFFFF ^^^ 0xFFFFFFFF

theorem addByte_eq (register : UInt32) (byte : UInt8) :
    addByte register byte =
      stepByte ((register ^^^ byte.toUInt32) &&& 0xFF) ^^^ (register >>> 8) := by
  have small : ((register ^^^ byte.toUInt32) &&& 0xFF).toNat < 256 := by
    rw [UInt32.toNat_and]
    exact Nat.and_lt_two_pow (n := 8) _ (by decide)
  rw [addByte, table, Array.getD_eq_getD_getElem?, Array.getElem?_ofFn, dif_pos small,
    Option.getD_some]
  exact congrArg (stepByte · ^^^ (register >>> 8)) UInt32.ofNat_toNat

theorem checksum_eq (bytes : ByteArray) :
    checksum bytes = checksumOfBytes bytes.data.toList := by
  have step := funext fun register => funext (addByte_eq register)
  rw [checksum, Bytes.foldl_eq, checksumOfBytes, step]

end Crc32

namespace Zip

theorem directory?_eq (file : ByteArray) :
    directory? file =
      (EndRecord.find? file).bind fun record =>
        if !record.isWhole then none
        else
          (Location.of? file record).bind fun location =>
            (Bytes.times? (Entry.read? location.shift) location.entries []
              (file.data.toList.drop location.start)).map Prod.fst := by
  have whole (start : Nat) : Bytes.slice file start file.size = file.data.toList.drop start := by
    rw [Bytes.slice_eq, List.take_of_length_le]
    rw [List.length_drop]
    exact Nat.sub_le file.size start
  simp only [directory?, whole, Option.bind_eq_bind]
  congr 1
  funext record
  split
  · rfl
  · congr 1
    funext location
    cases Bytes.times? (Entry.read? location.shift) location.entries []
      (file.data.toList.drop location.start) <;> rfl

namespace OpenEntry

variable (file : ByteArray) (entry : OpenEntry)

def dataBytes : Bytes :=
  (file.data.toList.drop entry.dataStart).take entry.entry.compressedSize

theorem data_eq : entry.data file = ⟨(entry.dataBytes file).toArray⟩ := by
  apply ByteArray.ext
  apply Array.toList_inj.mp
  rw [dataBytes, ← Bytes.slice_eq]
  rfl

end OpenEntry
end Zip
end JarAtlas
