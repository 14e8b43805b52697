/-
Writing bytes.

A number is written in a field of some width, most significant byte first, and a
table as the number of its rows and the rows.  A step reads a value from some
bytes if it gives the value and all that follows, whatever follows.
-/
import JarAtlas.Bytes

namespace JarAtlas
namespace Bytes

/-- A step takes exactly these bytes off the front of any bytes for a value. -/
def Reads {α : Type} (step : Step α) (front : Bytes) (value : α) : Prop :=
  ∀ rest, step (front ++ rest) = some (value, rest)

theorem Reads.bind {α β : Type} {step : Step α} {front : Bytes} {value : α}
    (reads : Reads step front value) (next : α × Bytes → Option β) (rest : Bytes) :
    (step (front ++ rest) >>= next) = next (value, rest) := by
  rw [reads]
  rfl

def big : Nat → Nat → Bytes
  | 0, _ => []
  | width + 1, number => big width (number / 256) ++ [UInt8.ofNat (number % 256)]

@[simp] theorem length_big (width number : Nat) : (big width number).length = width := by
  induction width generalizing number with
  | zero => rfl
  | succ width ih => rw [big, List.length_append, ih, List.length_singleton]

theorem bigEndian_concat (bytes : Bytes) (byte : UInt8) :
    bigEndian (bytes ++ [byte]) = bigEndian bytes * 256 + byte.toNat := by
  rw [bigEndian, List.foldl_append]
  rfl

theorem bigEndian_big {width number : Nat} (fits : number < Nat.pow 256 width) :
    bigEndian (big width number) = number := by
  induction width generalizing number with
  | zero =>
      have isZero : number = 0 := Nat.lt_one_iff.mp fits
      rw [isZero]
      rfl
  | succ width ih =>
      have wide : number < 256 * Nat.pow 256 width := by
        rw [Nat.mul_comm]
        exact fits
      have last : (UInt8.ofNat (number % 256)).toNat = number % 256 := by
        rw [UInt8.toNat_ofNat']
        omega
      rw [big, bigEndian_concat, ih (Nat.div_lt_of_lt_mul wide), last]
      omega

theorem takeExactly?_append (front done rest : Bytes) :
    takeExactly? front.length done (front ++ rest) = some (done.reverse ++ front, rest) := by
  induction front generalizing done with
  | nil =>
      rw [List.length_nil, List.nil_append, List.append_nil]
      cases rest <;> rfl
  | cons byte front ih =>
      rw [List.length_cons, List.cons_append, takeExactly?, ih, List.reverse_cons,
        List.append_assoc, List.singleton_append]

theorem reads_takeExactly? {front : Bytes} {count : Nat} (length : front.length = count) :
    Reads (takeExactly? count []) front front := by
  intro rest
  rw [← length, takeExactly?_append]
  rfl

theorem reads_big?_of_length {front : Bytes} {width : Nat} (length : front.length = width) :
    Reads (big? width) front (bigEndian front) := by
  intro rest
  rw [big?, reads_takeExactly? length, Option.map_some]

theorem reads_big? {width number : Nat} (fits : number < Nat.pow 256 width) :
    Reads (big? width) (big width number) number := by
  have read := reads_big?_of_length (length_big width number)
  rwa [bigEndian_big fits] at read

theorem reads_two {number : Nat} (small : number < 65536) :
    Reads (big? 2) (big 2 number) number :=
  reads_big? small

/-- A number as it is written in a field of some width, negative numbers as the
complement to the width. -/
def unsigned (width : Nat) (number : Int) : Nat :=
  (number % (Nat.pow 2 (8 * width) : Nat)).toNat

theorem unsigned_lt (width : Nat) (number : Int) : unsigned width number < Nat.pow 256 width := by
  have positive : 0 < Nat.pow 2 (8 * width) := Nat.two_pow_pos _
  have full : Nat.pow 256 width = Nat.pow 2 (8 * width) := (Nat.pow_mul 2 8 width).symm
  have most : number % (Nat.pow 2 (8 * width) : Nat) < (Nat.pow 2 (8 * width) : Nat) :=
    Int.emod_lt_of_pos number (Int.natCast_pos.mpr positive)
  rw [full, unsigned]
  omega

theorem signed_unsigned {width : Nat} (wide : 0 < width) {number : Int}
    (low : -(Nat.pow 2 (8 * width - 1) : Nat) ≤ number)
    (high : number < (Nat.pow 2 (8 * width - 1) : Nat)) :
    signed width (unsigned width number) = number := by
  have double : Nat.pow 2 (8 * width) = 2 * Nat.pow 2 (8 * width - 1) := by
    obtain ⟨bits, next⟩ : ∃ bits, 8 * width = bits + 1 := ⟨8 * width - 1, by omega⟩
    rw [next, Nat.mul_comm]
    rfl
  rw [signed, unsigned, double]
  generalize Nat.pow 2 (8 * width - 1) = half at low high ⊢
  by_cases negative : number < 0
  · have folded : number % ((2 * half : Nat) : Int) = number + (2 * half : Nat) := by
      rw [← Int.add_emod_right]
      exact Int.emod_eq_of_lt (by omega) (by omega)
    rw [folded, if_neg (by omega)]
    omega
  · rw [Int.emod_eq_of_lt (by omega) (by omega), if_pos (by omega)]
    omega

def rows {α : Type} (write : α → Bytes) (items : List α) : Bytes :=
  big 2 items.length ++ items.flatMap write

section

variable {α β : Type} {step : Step β} {write : α → Bytes} {meant : α → β} {items : List α}

theorem times?_flatMap (reads : ∀ item ∈ items, Reads step (write item) (meant item))
    (done : List β) (rest : Bytes) :
    times? step items.length done (items.flatMap write ++ rest) =
      some (done.reverse ++ items.map meant, rest) := by
  induction items generalizing done with
  | nil => rw [List.length_nil, times?, List.map_nil, List.append_nil, List.flatMap_nil,
      List.nil_append]
  | cons item items ih =>
      have later := ih fun other member => reads other (List.mem_cons_of_mem item member)
      rw [List.length_cons, times?, List.flatMap_cons, List.append_assoc,
        reads item List.mem_cons_self]
      dsimp only
      rw [later, List.reverse_cons, List.append_assoc, List.singleton_append, List.map_cons]

theorem reads_table? (few : items.length < 65536)
    (reads : ∀ item ∈ items, Reads step (write item) (meant item)) :
    Reads (table? step) (rows write items) (items.map meant) := by
  intro rest
  rw [table?, rows, List.append_assoc, reads_two few]
  exact times?_flatMap reads [] rest

end

end Bytes
end JarAtlas
