/-
The text of class files, read after writing.

NUL and the characters from U+0080 to U+07FF take two bytes, the rest up to
U+FFFF three, and each character beyond is written as two surrogates of three
bytes.  Decoding gives back every text, since no character is a surrogate itself.
-/
import JarAtlas.Proofs.Text.Utf8
import JarAtlas.Text.ModifiedUtf8

namespace JarAtlas
namespace ModifiedUtf8

open Utf8 (laterByte toNat_laterByte)

def pairOf (code : Nat) : Bytes :=
  [UInt8.ofNat (code / 64 + 192), laterByte code]

def tripleOf (code : Nat) : Bytes :=
  [UInt8.ofNat (code / 4096 + 224), laterByte (code / 64), laterByte code]

def highHalf (code : Nat) : Nat :=
  0xD800 + (code - 0x10000) / 0x400

def lowHalf (code : Nat) : Nat :=
  0xDC00 + (code - 0x10000) % 0x400

def encodeChar (c : Char) : Bytes :=
  let code := c.toNat
  if 0 < code ∧ code < 0x80 then [UInt8.ofNat code]
  else if code < 0x800 then pairOf code
  else if code < 0x10000 then tripleOf code
  else tripleOf (highHalf code) ++ tripleOf (lowHalf code)

def encode (text : String) : Bytes :=
  text.toList.flatMap encodeChar

theorem isContinuation_laterByte (bits : Nat) : isContinuation (laterByte bits) = true := by
  have every : ∀ low : Fin 64, isContinuation (UInt8.ofNat (low.val + 128)) = true := by decide
  exact every ⟨bits % 64, Nat.mod_lt _ (by decide)⟩

section

variable {first : UInt8} {code : Nat} {done : List Char} {rest : Bytes}

theorem announces_pair (least : 192 ≤ first.toNat) (most : first.toNat < 224) :
    ¬first < 0x80 ∧ ¬first < 0xC0 ∧ first < 0xE0 := by
  simp only [UInt8.lt_iff_toNat_lt, UInt8.reduceToNat]
  omega

theorem announces_triple (least : 224 ≤ first.toNat) (most : first.toNat < 240) :
    ¬first < 0x80 ∧ ¬first < 0xC0 ∧ ¬first < 0xE0 ∧ first < 0xF0 := by
  simp only [UInt8.lt_iff_toNat_lt, UInt8.reduceToNat]
  omega

theorem decodeFrom?_small (small : first.toNat < 128) :
    decodeFrom? done (first :: rest) = decodeFrom? (Char.ofNat first.toNat :: done) rest := by
  have isSmall : first < 0x80 := UInt8.lt_iff_toNat_lt.mpr small
  rw [decodeFrom?.eq_def]
  simp only [isSmall, if_true]

theorem decodeFrom?_pairOf (encodes : code = 0 ∨ 0x80 ≤ code) (few : code < 0x800) :
    decodeFrom? done (pairOf code ++ rest) = decodeFrom? (Char.ofNat code :: done) rest := by
  have first : (UInt8.ofNat (code / 64 + 192)).toNat = code / 64 + 192 := by
    rw [UInt8.toNat_ofNat']
    omega
  have value : pair (UInt8.ofNat (code / 64 + 192)) (laterByte code) = code := by
    rw [pair, first, toNat_laterByte]
    omega
  have least : 192 ≤ (UInt8.ofNat (code / 64 + 192)).toNat := by omega
  have most : (UInt8.ofNat (code / 64 + 192)).toNat < 224 := by omega
  obtain ⟨notSmall, notLater, isPair⟩ := announces_pair least most
  rw [pairOf, List.cons_append, List.cons_append, List.nil_append, decodeFrom?.eq_def]
  simp only [notSmall, notLater, isPair, if_false, if_true, value, isContinuation_laterByte,
    encodes, and_self]

theorem tripleOf_parts (few : code < 0x10000) :
    ∃ a b c, tripleOf code = [a, b, c] ∧ 224 ≤ a.toNat ∧ a.toNat < 240 ∧
      isContinuation b = true ∧ isContinuation c = true ∧ triple a b c = code := by
  have first : (UInt8.ofNat (code / 4096 + 224)).toNat = code / 4096 + 224 := by
    rw [UInt8.toNat_ofNat']
    omega
  refine ⟨_, _, _, rfl, ?_, ?_, isContinuation_laterByte _, isContinuation_laterByte _, ?_⟩
  · omega
  · omega
  · rw [triple, first, toNat_laterByte, toNat_laterByte]
    omega

theorem decodeFrom?_tripleOf (large : 0x800 ≤ code) (few : code < 0x10000)
    (notHigh : isHigh code = false) (notLow : isLow code = false) :
    decodeFrom? done (tripleOf code ++ rest) = decodeFrom? (Char.ofNat code :: done) rest := by
  obtain ⟨a, b, c, bytes, least, most, laterB, laterC, value⟩ := tripleOf_parts few
  obtain ⟨notSmall, notLater, notPair, isTriple⟩ := announces_triple least most
  rw [bytes, List.cons_append, List.cons_append, List.cons_append, List.nil_append]
  -- Decoding looks three bytes ahead, so that it matters how many there are.
  match rest with
  | [] | [_] | [_, _] | _ :: _ :: _ :: _ =>
    rw [decodeFrom?.eq_def]
    simp only [notSmall, notLater, notPair, isTriple, if_false, if_true, value, notHigh, notLow,
      laterB, laterC, large, Bool.false_eq_true, false_and, or_false, and_self]

theorem decodeFrom?_surrogates {high low : Nat} (isHigh : isHigh high = true)
    (isLow : isLow low = true) :
    decodeFrom? done (tripleOf high ++ (tripleOf low ++ rest)) =
      decodeFrom? (wide high low :: done) rest := by
  have highRange := isHigh
  have lowRange := isLow
  simp only [ModifiedUtf8.isHigh, ModifiedUtf8.isLow, Bool.and_eq_true, decide_eq_true_eq]
    at highRange lowRange
  have few : high < 0x10000 := by omega
  obtain ⟨a, b, c, bytes, least, most, _, _, value⟩ := tripleOf_parts few
  have mark : UInt8.ofNat (low / 4096 + 224) = 0xED := by
    have quotient : low / 4096 = 13 := by omega
    rw [quotient]
    rfl
  have lowBytes : tripleOf low = [0xED, laterByte (low / 64), laterByte low] := by
    rw [tripleOf, mark]
  have lowValue : triple 0xED (laterByte (low / 64)) (laterByte low) = low := by
    simp only [triple, toNat_laterByte, UInt8.reduceToNat]
    omega
  obtain ⟨notSmall, notLater, notPair, isTriple⟩ := announces_triple least most
  rw [bytes, lowBytes]
  simp only [List.cons_append, List.nil_append]
  rw [decodeFrom?.eq_def]
  simp only [notSmall, notLater, notPair, isTriple, if_false, if_true, value, isHigh, lowValue,
    isLow, and_self]

end

theorem wide_halves {c : Char} (beyond : 0x10000 ≤ c.toNat) :
    wide (highHalf c.toNat) (lowHalf c.toNat) = c := by
  have joined : 0x10000 + (highHalf c.toNat - 0xD800) * 0x400 + (lowHalf c.toNat - 0xDC00) =
      c.toNat := by
    unfold highHalf lowHalf
    omega
  rw [wide, joined, Char.ofNat_toNat]

theorem decodeFrom?_encodeChar (c : Char) (done : List Char) (rest : Bytes) :
    decodeFrom? done (encodeChar c ++ rest) = decodeFrom? (c :: done) rest := by
  have noSurrogate : c.toNat < 0xD800 ∨ 0xDFFF < c.toNat ∧ c.toNat < 0x110000 := c.valid
  rw [encodeChar]
  by_cases one : 0 < c.toNat ∧ c.toNat < 0x80
  · have value : (UInt8.ofNat c.toNat).toNat = c.toNat := by
      rw [UInt8.toNat_ofNat']
      omega
    rw [if_pos one, List.singleton_append, decodeFrom?_small (by omega), value, Char.ofNat_toNat]
  · rw [if_neg one]
    by_cases two : c.toNat < 0x800
    · rw [if_pos two, decodeFrom?_pairOf (by omega) two, Char.ofNat_toNat]
    · rw [if_neg two]
      by_cases three : c.toNat < 0x10000
      · have notHigh : isHigh c.toNat = false := by
          simp only [isHigh, Bool.and_eq_false_iff, decide_eq_false_iff_not]
          omega
        have notLow : isLow c.toNat = false := by
          simp only [isLow, Bool.and_eq_false_iff, decide_eq_false_iff_not]
          omega
        rw [if_pos three, decodeFrom?_tripleOf (by omega) three notHigh notLow, Char.ofNat_toNat]
      · have high : isHigh (highHalf c.toNat) = true := by
          rw [isHigh, highHalf, Bool.and_eq_true, decide_eq_true_eq, decide_eq_true_eq]
          omega
        have low : isLow (lowHalf c.toNat) = true := by
          rw [isLow, lowHalf, Bool.and_eq_true, decide_eq_true_eq, decide_eq_true_eq]
          omega
        rw [if_neg three, List.append_assoc, decodeFrom?_surrogates high low,
          wide_halves (by omega)]

theorem decodeFrom?_flatMap (chars done : List Char) :
    decodeFrom? done (chars.flatMap encodeChar) = some (done.reverse ++ chars) := by
  induction chars generalizing done with
  | nil => rw [List.flatMap_nil, decodeFrom?, List.append_nil]
  | cons c chars ih =>
      rw [List.flatMap_cons, decodeFrom?_encodeChar, ih, List.reverse_cons, List.append_assoc,
        List.singleton_append]

theorem decode?_encode (text : String) : decode? (encode text) = some text := by
  rw [decode?, encode, decodeFrom?_flatMap, List.reverse_nil, List.nil_append, Option.map_some,
    String.ofList_toList]

end ModifiedUtf8
end JarAtlas
