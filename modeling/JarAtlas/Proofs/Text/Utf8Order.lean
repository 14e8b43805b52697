/-
The order of texts and the order of their bytes.

Texts are compared by their code points, stored keys by their bytes.  The two
orders agree: longer characters begin with larger bytes, and the bytes of a
character of one length hold its bits from the highest to the lowest.
-/
import JarAtlas.Proofs.Text.Utf8
import Mathlib.Tactic.SplitIfs

namespace JarAtlas
namespace Utf8

theorem toNat_utf8EncodeChar (c : Char) :
    (String.utf8EncodeChar c).map UInt8.toNat =
      if c.toNat ≤ 127 then [c.toNat]
      else if c.toNat ≤ 2047 then [c.toNat / 64 + 192, c.toNat % 64 + 128]
      else if c.toNat ≤ 65535 then
        [c.toNat / 4096 + 224, c.toNat / 64 % 64 + 128, c.toNat % 64 + 128]
      else
        [c.toNat / 262144 + 240, c.toNat / 4096 % 64 + 128, c.toNat / 64 % 64 + 128,
          c.toNat % 64 + 128] := by
  have inRange := toNat_lt_bound c
  split
  · rename_i one
    rw [utf8EncodeChar_one one]
    simp [UInt8.toNat_ofNat']
    omega
  · rename_i notOne
    split
    · rename_i two
      rw [utf8EncodeChar_two (Nat.lt_of_not_le notOne) two]
      simp [UInt8.toNat_ofNat', toNat_laterByte]
      omega
    · rename_i notTwo
      split
      · rename_i three
        rw [utf8EncodeChar_three (Nat.lt_of_not_le notTwo) three]
        simp [UInt8.toNat_ofNat', toNat_laterByte]
        omega
      · rename_i notThree
        rw [utf8EncodeChar_four (Nat.lt_of_not_le notThree)]
        simp [UInt8.toNat_ofNat', toNat_laterByte]
        omega

theorem lt_of_map_toNat_lt {bytes others : Bytes}
    (below : bytes.map UInt8.toNat < others.map UInt8.toNat) : bytes < others := by
  induction bytes generalizing others with
  | nil =>
      cases others with
      | nil => exact absurd below (List.not_lt_nil _)
      | cons other others => exact List.nil_lt_cons other others
  | cons byte bytes ih =>
      cases others with
      | nil => exact absurd below (List.not_lt_nil _)
      | cons other others =>
          rw [List.map_cons, List.map_cons, List.cons_lt_cons_iff] at below
          rw [List.cons_lt_cons_iff]
          rcases below with first | ⟨same, later⟩
          · exact Or.inl (UInt8.lt_iff_toNat_lt.mpr first)
          · exact Or.inr ⟨UInt8.toNat_inj.mp same, ih later⟩

/-- The first byte that differs decides, whatever follows the characters. -/
theorem utf8EncodeChar_append_lt {c d : Char} (below : c < d) (rest other : Bytes) :
    String.utf8EncodeChar c ++ rest < String.utf8EncodeChar d ++ other := by
  have smaller : c.toNat < d.toNat := UInt32.lt_iff_toNat_lt.mp below
  apply lt_of_map_toNat_lt
  rw [List.map_append, List.map_append, toNat_utf8EncodeChar, toNat_utf8EncodeChar]
  split_ifs <;> simp only [List.cons_append, List.nil_append, List.cons_lt_cons_iff] <;> omega

theorem flatMap_utf8EncodeChar_lt {chars others : List Char} (below : chars < others) :
    chars.flatMap String.utf8EncodeChar < others.flatMap String.utf8EncodeChar := by
  induction chars generalizing others with
  | nil =>
      cases others with
      | nil => exact absurd below (List.not_lt_nil _)
      | cons d others =>
          obtain ⟨first, more, bytes, -⟩ := spells_utf8EncodeChar d
          rw [List.flatMap_cons, bytes]
          exact List.nil_lt_cons first _
  | cons c chars ih =>
      cases others with
      | nil => exact absurd below (List.not_lt_nil _)
      | cons d others =>
          rw [List.flatMap_cons, List.flatMap_cons]
          rcases List.cons_lt_cons_iff.mp below with first | ⟨rfl, later⟩
          · exact utf8EncodeChar_append_lt first _ _
          · exact List.append_left_lt (ih later)

theorem encode_lt {text other : String} (below : text < other) : encode text < encode other := by
  rw [encode_eq, encode_eq]
  exact flatMap_utf8EncodeChar_lt (String.lt_iff.mp below)

end Utf8
end JarAtlas
