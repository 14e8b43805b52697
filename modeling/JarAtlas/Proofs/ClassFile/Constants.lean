/-
Constants, read after writing.

A constant is written as its tag and its content, and a pool as one more than
the number of its slots and the constants in order.  Reading gives both back; a
wide constant leaves the slot after its own empty there.
-/
import JarAtlas.ClassFile.Constant
import JarAtlas.Proofs.Bytes.Writing
import JarAtlas.Proofs.Text.ModifiedUtf8

namespace JarAtlas
namespace ClassFile

open Bytes (big unsigned Reads reads_big? reads_two)

namespace Constant

def tag : Constant → Nat
  | utf8 _ => 1
  | integer _ => 3
  | float _ => 4
  | long _ => 5
  | double _ => 6
  | typeName _ => 7
  | string _ => 8
  | member .field _ _ => 9
  | member .method _ _ => 10
  | member .interfaceMethod _ _ => 11
  | nameAndType _ _ => 12
  | methodHandle _ _ => 15
  | methodType _ => 16
  | dynamic .constant _ _ => 17
  | dynamic .call _ _ => 18
  | module _ => 19
  | package _ => 20

def content : Constant → Bytes
  | utf8 text => big 2 (ModifiedUtf8.encode text).length ++ ModifiedUtf8.encode text
  | integer value => big 4 (unsigned 4 value)
  | float bits => big 4 bits
  | long value => big 8 (unsigned 8 value)
  | double bits => big 8 bits
  | typeName name => big 2 name
  | string text => big 2 text
  | member _ owner pair => big 2 owner ++ big 2 pair
  | nameAndType name descriptor => big 2 name ++ big 2 descriptor
  | methodHandle kind reference => big 1 kind ++ big 2 reference
  | methodType descriptor => big 2 descriptor
  | dynamic _ bootstrap pair => big 2 bootstrap ++ big 2 pair
  | module name => big 2 name
  | package name => big 2 name

def bytes (constant : Constant) : Bytes :=
  big 1 constant.tag ++ constant.content

/-- Whether each part of a constant fits the field that the format has for it. -/
def Fits : Constant → Prop
  | utf8 text => (ModifiedUtf8.encode text).length < 65536
  | integer value => -(Nat.pow 2 31 : Nat) ≤ value ∧ value < (Nat.pow 2 31 : Nat)
  | float bits => bits < Nat.pow 2 32
  | long value => -(Nat.pow 2 63 : Nat) ≤ value ∧ value < (Nat.pow 2 63 : Nat)
  | double bits => bits < Nat.pow 2 64
  | typeName name => name < 65536
  | string text => text < 65536
  | member _ owner pair => owner < 65536 ∧ pair < 65536
  | nameAndType name descriptor => name < 65536 ∧ descriptor < 65536
  | methodHandle kind reference => 1 ≤ kind ∧ kind ≤ 9 ∧ reference < 65536
  | methodType descriptor => descriptor < 65536
  | dynamic _ bootstrap pair => bootstrap < 65536 ∧ pair < 65536
  | module name => name < 65536
  | package name => name < 65536

theorem reads_ofNumber? (make : Nat → Constant) {number : Nat} (fits : number < 65536) :
    Reads (ofNumber? make) (big 2 number) (make number) := by
  intro rest
  rw [ofNumber?, reads_two fits]
  rfl

theorem reads_ofNumbers? (make : Nat → Nat → Constant) {first second : Nat}
    (firstFits : first < 65536) (secondFits : second < 65536) :
    Reads (ofNumbers? make) (big 2 first ++ big 2 second) (make first second) := by
  intro rest
  rw [ofNumbers?, List.append_assoc, (reads_two firstFits).bind]
  dsimp only
  rw [(reads_two secondFits).bind]
  rfl

theorem reads_ofWide? (make : Nat → Constant) {width number : Nat}
    (fits : number < Nat.pow 256 width) :
    Reads (ofWide? width make) (big width number) (make number) := by
  intro rest
  rw [ofWide?, reads_big? fits]
  rfl

theorem reads_ofText? {text : String} (fits : (ModifiedUtf8.encode text).length < 65536) :
    Reads ofText? (utf8 text).content (utf8 text) := by
  intro rest
  rw [ofText?, content, List.append_assoc, (reads_two fits).bind]
  dsimp only
  rw [(Bytes.reads_takeExactly? rfl).bind, ModifiedUtf8.decode?_encode]
  rfl

theorem reads_ofHandle? {kind reference : Nat} (least : 1 ≤ kind) (most : kind ≤ 9)
    (fits : reference < 65536) :
    Reads ofHandle? (methodHandle kind reference).content (methodHandle kind reference) := by
  intro rest
  have first : Reads (Bytes.big? 1) (big 1 kind) kind :=
    reads_big? (Nat.lt_of_le_of_lt most (by decide))
  rw [ofHandle?, content, List.append_assoc, first.bind]
  dsimp only
  rw [(reads_two fits).bind]
  exact if_pos ⟨least, most⟩

theorem reads_ofTag? {constant : Constant} (fits : constant.Fits) :
    Reads (ofTag? constant.tag) constant.content constant := by
  cases constant with
  | utf8 text => exact reads_ofText? fits
  | integer value =>
      have read := reads_ofWide? (fun number => integer (Bytes.signed 4 number))
        (Bytes.unsigned_lt 4 value)
      rwa [Bytes.signed_unsigned (by decide) fits.1 fits.2] at read
  | float bits => exact reads_ofWide? float fits
  | long value =>
      have read := reads_ofWide? (fun number => long (Bytes.signed 8 number))
        (Bytes.unsigned_lt 8 value)
      rwa [Bytes.signed_unsigned (by decide) fits.1 fits.2] at read
  | double bits => exact reads_ofWide? double fits
  | typeName name => exact reads_ofNumber? typeName fits
  | string text => exact reads_ofNumber? string fits
  | member sort owner pair => cases sort <;> exact reads_ofNumbers? _ fits.1 fits.2
  | nameAndType name descriptor => exact reads_ofNumbers? nameAndType fits.1 fits.2
  | methodHandle kind reference => exact reads_ofHandle? fits.1 fits.2.1 fits.2.2
  | methodType descriptor => exact reads_ofNumber? methodType fits
  | dynamic sort bootstrap pair => cases sort <;> exact reads_ofNumbers? _ fits.1 fits.2
  | module name => exact reads_ofNumber? module fits
  | package name => exact reads_ofNumber? package fits

theorem tag_lt (constant : Constant) : constant.tag < 256 := by
  unfold tag
  split <;> decide

theorem reads_bytes {constant : Constant} (fits : constant.Fits) :
    Reads read? constant.bytes constant := by
  intro rest
  rw [read?, bytes, List.append_assoc, reads_big? constant.tag_lt]
  exact reads_ofTag? fits rest

end Constant

namespace ConstantPool

def ofConstants (constants : List Constant) : ConstantPool :=
  ⟨none :: constants.flatMap slotsOf⟩

/-- The count in front of a pool, one more than the number of its slots. -/
def countOf (constants : List Constant) : Nat :=
  (constants.flatMap slotsOf).length + 1

def bytes (constants : List Constant) : Bytes :=
  big 2 (countOf constants) ++ constants.flatMap Constant.bytes

theorem length_slotsOf (constant : Constant) : (slotsOf constant).length = constant.width := by
  cases constant <;> rfl

theorem width_pos (constant : Constant) : 0 < constant.width := by
  unfold Constant.width
  split <;> decide

/-- Every constant fills a slot at least, so a fuel as large as the number of the
slots is enough. -/
theorem readSlots?_bytes {constants : List Constant}
    (fits : ∀ constant ∈ constants, constant.Fits) {fuel : Nat}
    (enough : (constants.flatMap slotsOf).length ≤ fuel) (done : List (Option Constant))
    (rest : Bytes) :
    readSlots? fuel (constants.flatMap slotsOf).length done
        (constants.flatMap Constant.bytes ++ rest) =
      some (done.reverse ++ constants.flatMap slotsOf, rest) := by
  induction constants generalizing fuel done with
  | nil =>
      cases fuel <;>
        simp only [List.flatMap_nil, List.length_nil, readSlots?, List.nil_append, List.append_nil]
  | cons constant constants ih =>
      have positive := width_pos constant
      have later := @ih fun other member => fits other (List.mem_cons_of_mem constant member)
      rw [List.flatMap_cons, List.length_append, length_slotsOf] at enough
      obtain ⟨wanted, total⟩ : ∃ wanted,
          constant.width + (constants.flatMap slotsOf).length = wanted + 1 :=
        ⟨_, (Nat.succ_pred_eq_of_pos (by omega)).symm⟩
      obtain ⟨fuel, rfl⟩ : ∃ more, fuel = more + 1 :=
        ⟨_, (Nat.succ_pred_eq_of_pos (by omega)).symm⟩
      rw [List.flatMap_cons, List.flatMap_cons, List.length_append, length_slotsOf, total,
        readSlots?, List.append_assoc]
      dsimp only
      rw [Constant.reads_bytes (fits constant List.mem_cons_self)]
      dsimp only
      have left : wanted + 1 - (slotsOf constant).length =
          (constants.flatMap slotsOf).length := by
        rw [length_slotsOf]
        omega
      rw [left, later (by omega), List.reverse_append, List.reverse_reverse, List.append_assoc]

theorem reads_bytes {constants : List Constant} (fits : ∀ constant ∈ constants, constant.Fits)
    (few : countOf constants < 65536) :
    Reads read? (bytes constants) (ofConstants constants) := by
  intro rest
  rw [read?, bytes, List.append_assoc, reads_two few, countOf]
  dsimp only
  rw [readSlots?_bytes fits (Nat.le_refl _)]
  rfl

end ConstantPool
end ClassFile
end JarAtlas
