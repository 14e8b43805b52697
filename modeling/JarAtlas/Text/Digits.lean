/-
Digits.

Numbers are read from and written to digits in base ten and base sixteen.
-/

namespace JarAtlas

def digitValue (c : Char) : Nat :=
  if '0' ≤ c ∧ c ≤ '9' then c.toNat - 0x30
  else if 'a' ≤ c ∧ c ≤ 'f' then c.toNat - 0x61 + 10
  else c.toNat - 0x41 + 10

def isDecimalDigit (c : Char) : Bool :=
  '0' ≤ c && c ≤ '9'

def isHexDigit (c : Char) : Bool :=
  isDecimalDigit c || ('a' ≤ c && c ≤ 'f') || ('A' ≤ c && c ≤ 'F')

def numberOf (base : Nat) (digits : List Char) : Nat :=
  digits.foldl (fun value c => value * base + digitValue c) 0

def hexDigit (value : Nat) : Char :=
  if value < 10 then Char.ofNat (0x30 + value) else Char.ofNat (0x61 + value - 10)

def decimalText (number : Nat) : String :=
  String.ofList (Nat.toDigits 10 number)

def signedText (number : Int) : String :=
  if number < 0 then "-" ++ decimalText number.natAbs else decimalText number.natAbs

def hexText (number : Nat) : String :=
  String.ofList (Nat.toDigits 16 number)

def hexOfBytes (bytes : List UInt8) : String :=
  String.ofList (bytes.flatMap fun byte => [hexDigit (byte.toNat / 16), hexDigit (byte.toNat % 16)])

end JarAtlas
