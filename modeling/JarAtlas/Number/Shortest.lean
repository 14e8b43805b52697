/-
Shortest decimal text of binary floating-point numbers.

A finite binary number stands for all reals that round to it.  Its shortest
decimal is found on the coarsest decimal grid, the multiples of a power of ten,
that has a point among those reals.  Of two such points the nearer one is
taken, and the upper one when they are equally near.  All arithmetic is exact.
-/
import JarAtlas.Text.Digits

namespace JarAtlas

structure BinaryFormat where
  fractionBits : Nat
  exponentBits : Nat
  deriving DecidableEq, Repr

namespace BinaryFormat

def single : BinaryFormat := ⟨23, 8⟩

def double : BinaryFormat := ⟨52, 11⟩

end BinaryFormat

inductive Magnitude where
  | infinite
  | undefined
  /-- The number `mantissa * 2 ^ exponent`.  At the foot of a binade the number
  below is half as far away as the one above. -/
  | finite (mantissa : Nat) (exponent : Int) (atFoot : Bool)
  deriving DecidableEq, Repr

def BinaryFormat.decode (format : BinaryFormat) (bits : Nat) : Bool × Magnitude :=
  let fraction := bits % Nat.pow 2 format.fractionBits
  let biased := bits / Nat.pow 2 format.fractionBits % Nat.pow 2 format.exponentBits
  let negative := bits / Nat.pow 2 (format.fractionBits + format.exponentBits) % 2 = 1
  let bias := Nat.pow 2 (format.exponentBits - 1) - 1
  let magnitude :=
    if biased = Nat.pow 2 format.exponentBits - 1 then
      if fraction = 0 then .infinite else .undefined
    else if biased = 0 then
      .finite fraction (1 - (bias : Int) - format.fractionBits) false
    else
      .finite (Nat.pow 2 format.fractionBits + fraction)
        ((biased : Int) - bias - format.fractionBits) (fraction = 0)
  (negative, magnitude)

structure Decimal where
  digits : Nat
  exponent : Int
  deriving DecidableEq, Repr

namespace Decimal

structure Ratio where
  numerator : Nat
  denominator : Nat

def Ratio.scaled (number base : Nat) (exponent : Int) : Ratio :=
  if 0 ≤ exponent then ⟨number * Nat.pow base exponent.toNat, 1⟩
  else ⟨number, Nat.pow base (-exponent).toNat⟩

def Ratio.less (a b : Ratio) : Bool :=
  a.numerator * b.denominator < b.numerator * a.denominator

def between (closed : Bool) (low high point : Ratio) : Bool :=
  if closed then !point.less low && !high.less point else low.less point && point.less high

/-- The point of the grid of multiples of `10 ^ exponent` that is taken for a
number, if the grid has one between the bounds. -/
def onGrid? (closed : Bool) (low number high : Ratio) (exponent : Int) : Option Decimal :=
  let unit := Ratio.scaled 1 10 exponent
  let below :=
    number.numerator * unit.denominator / (number.denominator * unit.numerator)
  let fits := fun (digits : Nat) => between closed low high (.scaled digits 10 exponent)
  let upperNearer :=
    let middle := Ratio.scaled (2 * below + 1) 10 exponent
    !(Ratio.less ⟨2 * number.numerator, number.denominator⟩ middle)
  if fits (below + 1) && (!fits below || upperNearer) then some ⟨below + 1, exponent⟩
  else if fits below then some ⟨below, exponent⟩
  else none

def firstOnGrid? (closed : Bool) (low number high : Ratio) : Nat → Int → Option Decimal
  | 0, _ => none
  | more + 1, exponent =>
    match onGrid? closed low number high exponent with
    | some decimal => some decimal
    | none => firstOnGrid? closed low number high more (exponent - 1)

def shortest (mantissa : Nat) (exponent : Int) (atFoot : Bool) : Decimal :=
  let quarter := exponent - 2
  let low := Ratio.scaled (4 * mantissa - if atFoot then 1 else 2) 2 quarter
  let number := Ratio.scaled (4 * mantissa) 2 quarter
  let high := Ratio.scaled (4 * mantissa + 2) 2 quarter
  (firstOnGrid? (mantissa % 2 = 0) low number high 800 330).getD ⟨0, 0⟩

def digitText (decimal : Decimal) : List Char :=
  Nat.toDigits 10 decimal.digits

/-- How many places the decimal point stands to the right of the first
digit's left edge. -/
def pointPlace (decimal : Decimal) : Int :=
  decimal.digitText.length + decimal.exponent

def positional (decimal : Decimal) : List Char :=
  let digits := decimal.digitText
  let place := decimal.pointPlace
  if place ≤ 0 then
    ['0', '.'] ++ List.replicate (-place).toNat '0' ++ digits
  else if place.toNat < digits.length then
    digits.take place.toNat ++ '.' :: digits.drop place.toNat
  else
    digits ++ List.replicate (place.toNat - digits.length) '0' ++ ['.', '0']

def scientific (decimal : Decimal) : List Char :=
  let exponent := (signedText (decimal.pointPlace - 1)).toList
  match decimal.digitText with
  | [] => []
  | [digit] => digit :: 'e' :: exponent
  | digit :: more => digit :: '.' :: more ++ 'e' :: exponent

/-- Positional text from a ten-thousandth up to ten to the sixteenth, and
scientific text outside. -/
def text (decimal : Decimal) : List Char :=
  if -3 ≤ decimal.pointPlace ∧ decimal.pointPlace ≤ 16 then decimal.positional
  else decimal.scientific

end Decimal

/-- The text of a floating-point number.  Zero keeps its sign; an undefined
number has none. -/
def BinaryFormat.text (format : BinaryFormat) (bits : Nat) : String :=
  let (negative, magnitude) := format.decode bits
  let sign := if negative then "-" else ""
  match magnitude with
  | .undefined => "NaN"
  | .infinite => sign ++ "Infinity"
  | .finite 0 _ _ => sign ++ "0.0"
  | .finite mantissa exponent atFoot =>
    sign ++ String.ofList (Decimal.shortest mantissa exponent atFoot).text

end JarAtlas
