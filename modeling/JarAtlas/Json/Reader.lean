/-
Reading JSON.

The reader takes the whole of a text as one value, with blanks allowed between
its parts.  Numbers are natural numbers without needless zeros in front.
-/
import JarAtlas.Json.Value
import JarAtlas.Text.Split
import JarAtlas.Text.Digits

namespace JarAtlas
namespace Json

def isSpace (c : Char) : Bool :=
  c = ' ' || c = '\n' || c = '\r' || c = '\t'

def shortEscape? : Char → Option Char
  | '"' => some '"'
  | '\\' => some '\\'
  | '/' => some '/'
  | 'n' => some '\n'
  | 'r' => some '\r'
  | 't' => some '\t'
  | 'b' => some '\x08'
  | 'f' => some '\x0c'
  | _ => none

def fourDigits? (a b c d : Char) : Option Nat :=
  if [a, b, c, d].all isHexDigit then some (numberOf 16 [a, b, c, d]) else none

def surrogatePair? (high low : Nat) : Option Char :=
  if 0xD800 ≤ high ∧ high < 0xDC00 ∧ 0xDC00 ≤ low ∧ low < 0xE000 then
    some (Char.ofNat (0x10000 + (high - 0xD800) * 0x400 + (low - 0xDC00)))
  else
    none

def quotedRest? (done : List Char) : List Char → Option (String × List Char)
  | '"' :: rest => some (String.ofList done.reverse, rest)
  | '\\' :: 'u' :: a :: b :: c :: d :: '\\' :: 'u' :: e :: f :: g :: h :: rest =>
    match fourDigits? a b c d with
    | none => none
    | some code =>
      if code.isValidChar then
        quotedRest? (Char.ofNat code :: done) ('\\' :: 'u' :: e :: f :: g :: h :: rest)
      else
        match (fourDigits? e f g h).bind (surrogatePair? code) with
        | some wide => quotedRest? (wide :: done) rest
        | none => none
  | '\\' :: 'u' :: a :: b :: c :: d :: rest =>
    match fourDigits? a b c d with
    | none => none
    | some code =>
      if code.isValidChar then quotedRest? (Char.ofNat code :: done) rest else none
  | '\\' :: e :: rest =>
    match shortEscape? e with
    | some c => quotedRest? (c :: done) rest
    | none => none
  | c :: rest => if c.toNat < 0x20 ∨ c = '\\' then none else quotedRest? (c :: done) rest
  | [] => none

def fieldName? (text : List Char) : Option (String × List Char) :=
  match text.dropWhile isSpace with
  | '"' :: rest =>
    match quotedRest? [] rest with
    | none => none
    | some (name, after) =>
      match after.dropWhile isSpace with
      | ':' :: value => some (name, value)
      | _ => none
  | _ => none

def readNumber? (text : List Char) : Option (Json × List Char) :=
  let digits := text.takeWhile isDecimalDigit
  if digits = [] ∨ (digits.head? = some '0' ∧ digits ≠ ['0']) then none
  else some (.number (numberOf 10 digits), text.dropWhile isDecimalDigit)

def readWord? (text : List Char) : Option (Json × List Char) :=
  match afterStart? "null".toList text, afterStart? "true".toList text,
      afterStart? "false".toList text with
  | some rest, _, _ => some (.null, rest)
  | _, some rest, _ => some (.bool true, rest)
  | _, _, some rest => some (.bool false, rest)
  | _, _, _ => none

mutual

def readValue? : Nat → List Char → Option (Json × List Char)
  | 0, _ => none
  | fuel + 1, text =>
    match text.dropWhile isSpace with
    | '"' :: rest => (quotedRest? [] rest).map fun (content, after) => (.string content, after)
    | '[' :: rest =>
      match rest.dropWhile isSpace with
      | ']' :: after => some (.array [], after)
      | _ => readItems? fuel [] rest
    | '{' :: rest =>
      match rest.dropWhile isSpace with
      | '}' :: after => some (.object [], after)
      | _ => readFields? fuel [] rest
    | start => (readNumber? start).or (readWord? start)

def readItems? : Nat → List Json → List Char → Option (Json × List Char)
  | 0, _, _ => none
  | fuel + 1, done, text =>
    match readValue? fuel text with
    | none => none
    | some (item, rest) =>
      match rest.dropWhile isSpace with
      | ',' :: after => readItems? fuel (item :: done) after
      | ']' :: after => some (.array (item :: done).reverse, after)
      | _ => none

def readFields? : Nat → List (String × Json) → List Char → Option (Json × List Char)
  | 0, _, _ => none
  | fuel + 1, done, text =>
    match fieldName? text with
    | none => none
    | some (name, start) =>
      match readValue? fuel start with
      | none => none
      | some (value, rest) =>
        match rest.dropWhile isSpace with
        | ',' :: after => readFields? fuel ((name, value) :: done) after
        | '}' :: after => some (.object ((name, value) :: done).reverse, after)
        | _ => none

end

def ofText? (text : String) : Option Json :=
  let chars := text.toList
  match readValue? (chars.length + 1) chars with
  | some (value, rest) => if rest.all isSpace then some value else none
  | none => none

end Json
end JarAtlas
