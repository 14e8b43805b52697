/-
UTF-8 decoding after encoding.

Decoding gives back every text from its bytes.  The bytes of a character stand
in the ranges that decoding allows after its first byte, and their low bits put
the code point together again.
-/
import JarAtlas.Text.Utf8

namespace JarAtlas
namespace Utf8

theorem within_iff {low high byte : UInt8} :
    within low high byte = true ↔ low.toNat ≤ byte.toNat ∧ byte.toNat ≤ high.toNat := by
  simp [within, UInt8.le_iff_toNat_le]

theorem shape?_eq (first : UInt8) :
    shape? first =
      if 194 ≤ first.toNat ∧ first.toNat ≤ 223 then some (1, 0x80, 0xBF)
      else if first.toNat = 224 then some (2, 0xA0, 0xBF)
      else if first.toNat = 237 then some (2, 0x80, 0x9F)
      else if 225 ≤ first.toNat ∧ first.toNat ≤ 239 then some (2, 0x80, 0xBF)
      else if first.toNat = 240 then some (3, 0x90, 0xBF)
      else if 241 ≤ first.toNat ∧ first.toNat ≤ 243 then some (3, 0x80, 0xBF)
      else if first.toNat = 244 then some (3, 0x80, 0x8F)
      else none := by
  simp only [shape?, within_iff, ← UInt8.toNat_inj, UInt8.reduceToNat]

theorem front_of_small {first : UInt8} (small : first.toNat < 128) (rest : Bytes) :
    front first rest = .character (Char.ofNat first.toNat) 1 := by
  rw [front, if_pos (UInt8.lt_iff_toNat_lt.mpr small)]

def laterByte (bits : Nat) : UInt8 :=
  UInt8.ofNat (bits % 64 + 128)

theorem toNat_laterByte (bits : Nat) : (laterByte bits).toNat = bits % 64 + 128 := by
  rw [laterByte, UInt8.toNat_ofNat']
  omega

theorem laterBytes_laterByte {low high : UInt8} {bits : Nat}
    (least : low.toNat ≤ bits % 64 + 128) (greatest : bits % 64 + 128 ≤ high.toNat)
    (taken value more : Nat) (rest : Bytes) :
    laterBytes taken value (more + 1) low high (laterByte bits :: rest) =
      laterBytes (taken + 1) (value * 64 + bits % 64) more 0x80 0xBF rest := by
  have inside : within low high (laterByte bits) = true := by
    rw [within_iff, toNat_laterByte]
    exact ⟨least, greatest⟩
  rw [laterBytes, if_pos inside, toNat_laterByte]
  congr 2
  omega

theorem laterBytes_laterByte_full (bits taken value more : Nat) (rest : Bytes) :
    laterBytes taken value (more + 1) 0x80 0xBF (laterByte bits :: rest) =
      laterBytes (taken + 1) (value * 64 + bits % 64) more 0x80 0xBF rest := by
  refine laterBytes_laterByte ?_ ?_ taken value more rest
  · exact Nat.le_add_left 128 _
  · have small : bits % 64 < 64 := Nat.mod_lt _ (by decide)
    show bits % 64 + 128 ≤ 191
    omega

/-- Whether a first byte announces a number of later bytes and admits the bits
of the first of them. -/
def Announces (first : UInt8) (more bits : Nat) : Prop :=
  ∃ low high, shape? first = some (more, low, high) ∧
    low.toNat ≤ bits % 64 + 128 ∧ bits % 64 + 128 ≤ high.toNat

theorem front_of_announces {first : UInt8} {more bits : Nat} (large : 128 ≤ first.toNat)
    (announces : Announces first (more + 1) bits) (rest : Bytes) :
    front first (laterByte bits :: rest) =
      laterBytes 2 (firstBits (more + 1) first * 64 + bits % 64) more 0x80 0xBF rest := by
  obtain ⟨low, high, shape, least, greatest⟩ := announces
  have notSmall : ¬first < 0x80 := by
    rw [UInt8.lt_iff_toNat_lt]
    exact Nat.not_lt_of_le large
  rw [front, if_neg notSmall, shape]
  exact laterBytes_laterByte least greatest _ _ _ _

section

variable {c : Char}

theorem utf8EncodeChar_one (high : c.toNat ≤ 127) :
    String.utf8EncodeChar c = [UInt8.ofNat c.toNat] :=
  if_pos high

theorem utf8EncodeChar_two (low : 127 < c.toNat) (high : c.toNat ≤ 2047) :
    String.utf8EncodeChar c =
      [UInt8.ofNat (c.toNat / 64 % 32 + 192), laterByte c.toNat] := by
  show (if c.toNat ≤ 127 then _ else if c.toNat ≤ 2047 then _ else _) = _
  rw [if_neg (Nat.not_le_of_lt low), if_pos high]
  rfl

theorem utf8EncodeChar_three (low : 2047 < c.toNat) (high : c.toNat ≤ 65535) :
    String.utf8EncodeChar c =
      [UInt8.ofNat (c.toNat / 4096 % 16 + 224), laterByte (c.toNat / 64), laterByte c.toNat] := by
  show (if c.toNat ≤ 127 then _ else if c.toNat ≤ 2047 then _ else if c.toNat ≤ 65535 then _
    else _) = _
  rw [if_neg (by omega), if_neg (Nat.not_le_of_lt low), if_pos high]
  rfl

theorem utf8EncodeChar_four (low : 65535 < c.toNat) :
    String.utf8EncodeChar c =
      [UInt8.ofNat (c.toNat / 262144 % 8 + 240), laterByte (c.toNat / 4096),
        laterByte (c.toNat / 64), laterByte c.toNat] := by
  show (if c.toNat ≤ 127 then _ else if c.toNat ≤ 2047 then _ else if c.toNat ≤ 65535 then _
    else _) = _
  rw [if_neg (by omega), if_neg (by omega), if_neg (Nat.not_le_of_lt low)]
  rfl

theorem toNat_lt_bound (c : Char) : c.toNat < 0x110000 := by
  rcases c.valid with below | above
  · exact Nat.lt_trans below (by decide)
  · exact above.2

end

/-! ### Single characters -/

/-- Bytes that decoding takes for a character, whatever follows them. -/
def Spells (c : Char) (bytes : Bytes) : Prop :=
  ∃ first more, bytes = first :: more ∧
    ∀ rest, front first (more ++ rest) = .character c (more.length + 1)

section

variable {c : Char}

private theorem spells_one (high : c.toNat ≤ 127) : Spells c (String.utf8EncodeChar c) := by
  have first : (UInt8.ofNat c.toNat).toNat = c.toNat := by
    rw [UInt8.toNat_ofNat']
    omega
  refine ⟨_, [], utf8EncodeChar_one high, fun rest => ?_⟩
  rw [front_of_small (by omega), first, Char.ofNat_toNat]
  rfl

private theorem spells_two (low : 127 < c.toNat) (high : c.toNat ≤ 2047) :
    Spells c (String.utf8EncodeChar c) := by
  have first : (UInt8.ofNat (c.toNat / 64 % 32 + 192)).toNat = c.toNat / 64 + 192 := by
    rw [UInt8.toNat_ofNat']
    omega
  have announces : Announces (UInt8.ofNat (c.toNat / 64 % 32 + 192)) 1 c.toNat := by
    refine ⟨0x80, 0xBF, ?_, ?_⟩
    · rw [shape?_eq, first, if_pos (by omega)]
    · simp only [UInt8.reduceToNat]
      omega
  have bits : firstBits 1 (UInt8.ofNat (c.toNat / 64 % 32 + 192)) =
      (c.toNat / 64 + 192) % 32 := by
    rw [firstBits, first]
  have value : (c.toNat / 64 + 192) % 32 * 64 + c.toNat % 64 = c.toNat := by omega
  refine ⟨_, _, utf8EncodeChar_two low high, fun rest => ?_⟩
  rw [List.cons_append, front_of_announces (by omega) announces, laterBytes, bits, value,
    Char.ofNat_toNat]
  rfl

private theorem spells_three (low : 2047 < c.toNat) (high : c.toNat ≤ 65535) :
    Spells c (String.utf8EncodeChar c) := by
  have first : (UInt8.ofNat (c.toNat / 4096 % 16 + 224)).toNat = c.toNat / 4096 + 224 := by
    rw [UInt8.toNat_ofNat']
    omega
  have noSurrogate : c.toNat < 0xD800 ∨ 0xDFFF < c.toNat := by
    rcases c.valid with below | above
    · exact Or.inl below
    · exact Or.inr above.1
  have announces :
      Announces (UInt8.ofNat (c.toNat / 4096 % 16 + 224)) 2 (c.toNat / 64) := by
    rw [Announces, shape?_eq, first, if_neg (by omega)]
    split
    · exact ⟨_, _, rfl, by simp only [UInt8.reduceToNat]; omega⟩
    · split
      · exact ⟨_, _, rfl, by simp only [UInt8.reduceToNat]; omega⟩
      · rw [if_pos (by omega)]
        exact ⟨_, _, rfl, by simp only [UInt8.reduceToNat]; omega⟩
  have bits : firstBits 2 (UInt8.ofNat (c.toNat / 4096 % 16 + 224)) =
      (c.toNat / 4096 + 224) % 16 := by
    rw [firstBits, first]
  have value : ((c.toNat / 4096 + 224) % 16 * 64 + c.toNat / 64 % 64) * 64 +
      c.toNat % 64 = c.toNat := by
    omega
  refine ⟨_, _, utf8EncodeChar_three low high, fun rest => ?_⟩
  rw [List.cons_append, front_of_announces (by omega) announces, List.cons_append,
    laterBytes_laterByte_full, laterBytes, bits, value, Char.ofNat_toNat]
  rfl

private theorem spells_four (low : 65535 < c.toNat) : Spells c (String.utf8EncodeChar c) := by
  have inRange : c.toNat < 0x110000 := toNat_lt_bound c
  have first : (UInt8.ofNat (c.toNat / 262144 % 8 + 240)).toNat = c.toNat / 262144 + 240 := by
    rw [UInt8.toNat_ofNat']
    omega
  have announces :
      Announces (UInt8.ofNat (c.toNat / 262144 % 8 + 240)) 3 (c.toNat / 4096) := by
    rw [Announces, shape?_eq, first, if_neg (by omega), if_neg (by omega), if_neg (by omega),
      if_neg (by omega)]
    split
    · exact ⟨_, _, rfl, by simp only [UInt8.reduceToNat]; omega⟩
    · split
      · exact ⟨_, _, rfl, by simp only [UInt8.reduceToNat]; omega⟩
      · rw [if_pos (by omega)]
        exact ⟨_, _, rfl, by simp only [UInt8.reduceToNat]; omega⟩
  have bits : firstBits 3 (UInt8.ofNat (c.toNat / 262144 % 8 + 240)) =
      (c.toNat / 262144 + 240) % 8 := by
    rw [firstBits, first]
  have value : (((c.toNat / 262144 + 240) % 8 * 64 + c.toNat / 4096 % 64) * 64 +
      c.toNat / 64 % 64) * 64 + c.toNat % 64 = c.toNat := by
    omega
  refine ⟨_, _, utf8EncodeChar_four low, fun rest => ?_⟩
  rw [List.cons_append, front_of_announces (by omega) announces, List.cons_append,
    laterBytes_laterByte_full, List.cons_append, laterBytes_laterByte_full, laterBytes, bits,
    value, Char.ofNat_toNat]
  rfl

end

theorem spells_utf8EncodeChar (c : Char) : Spells c (String.utf8EncodeChar c) := by
  by_cases one : c.toNat ≤ 127
  · exact spells_one one
  · by_cases two : c.toNat ≤ 2047
    · exact spells_two (Nat.lt_of_not_le one) two
    · by_cases three : c.toNat ≤ 65535
      · exact spells_three (Nat.lt_of_not_le two) three
      · exact spells_four (Nat.lt_of_not_le three)

theorem decodeFrom_skipped (done : List Char) (position : Nat) (skipped rest : Bytes) :
    decodeFrom done position skipped.length (skipped ++ rest) =
      decodeFrom done (position + skipped.length) 0 rest := by
  induction skipped generalizing position with
  | nil => rfl
  | cons byte skipped ih =>
      rw [List.cons_append, List.length_cons, decodeFrom, ih]
      congr 1
      omega

theorem decodeFrom_spelled {c : Char} {bytes : Bytes} (spells : Spells c bytes)
    (done : List Char) (position : Nat) (rest : Bytes) :
    decodeFrom done position 0 (bytes ++ rest) =
      decodeFrom (c :: done) (position + bytes.length) 0 rest := by
  obtain ⟨first, more, rfl, taken⟩ := spells
  rw [List.cons_append, decodeFrom, taken rest]
  dsimp only
  rw [Nat.add_sub_cancel, decodeFrom_skipped, List.length_cons]
  congr 1
  omega

theorem decodeFrom_encoded (chars done : List Char) (position : Nat) :
    decodeFrom done position 0 (chars.flatMap String.utf8EncodeChar) =
      .ok (done.reverse ++ chars) := by
  induction chars generalizing done position with
  | nil => rw [List.flatMap_nil, decodeFrom, List.append_nil]
  | cons c chars ih =>
      rw [List.flatMap_cons, decodeFrom_spelled (spells_utf8EncodeChar c), ih,
        List.reverse_cons, List.append_assoc, List.singleton_append]

theorem encode_eq (text : String) :
    encode text = text.toList.flatMap String.utf8EncodeChar := by
  rw [encode, String.toUTF8_eq_toByteArray, ← String.utf8Encode_toList, List.utf8Encode,
    List.data_toByteArray, List.toList_toArray]

theorem decode_toUTF8 (text : String) : decode text.toUTF8.data.toList = .ok text := by
  rw [← encode, decode, encode_eq, decodeFrom_encoded, List.reverse_nil, List.nil_append]
  exact congrArg Except.ok String.ofList_toList

theorem encode_injective : Function.Injective encode := by
  intro text other same
  have decoded := decode_toUTF8 text
  rw [← encode, same] at decoded
  exact (Except.ok.inj (decoded.symm.trans (decode_toUTF8 other)))

end Utf8
end JarAtlas
