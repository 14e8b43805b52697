/-
Writing JSON.

A document is written in one line without spaces, or over several lines with
two spaces of indentation for each level.  In both forms an empty list of items
or fields is written as a bare pair of brackets.
-/
import JarAtlas.Json.Value
import JarAtlas.Text.Digits

namespace JarAtlas
namespace Json

/-- A character inside a quoted text.  Quotes, backslashes and controls are
escaped; five controls have short forms. -/
def escaped (c : Char) : List Char :=
  if c = '"' then ['\\', '"']
  else if c = '\\' then ['\\', '\\']
  else if c = '\n' then ['\\', 'n']
  else if c = '\r' then ['\\', 'r']
  else if c = '\t' then ['\\', 't']
  else if c = '\x08' then ['\\', 'b']
  else if c = '\x0c' then ['\\', 'f']
  else if c.toNat < 0x20 then
    ['\\', 'u', '0', '0', hexDigit (c.toNat / 16), hexDigit (c.toNat % 16)]
  else [c]

def quoted (text : String) : List Char :=
  '"' :: (text.toList.flatMap escaped ++ ['"'])

mutual

def compactChars : Json → List Char
  | null => "null".toList
  | bool true => "true".toList
  | bool false => "false".toList
  | number value => (decimalText value).toList
  | string value => quoted value
  | array items => '[' :: compactItems true items
  | object fields => '{' :: compactFields true fields

def compactItems (first : Bool) : List Json → List Char
  | [] => [']']
  | item :: rest =>
    (if first then [] else [',']) ++ (compactChars item ++ compactItems false rest)

def compactFields (first : Bool) : List (String × Json) → List Char
  | [] => ['}']
  | (name, value) :: rest =>
    (if first then [] else [',']) ++
      (quoted name ++ (':' :: (compactChars value ++ compactFields false rest)))

end

def compact (value : Json) : String :=
  String.ofList value.compactChars

def lineBreak (level : Nat) : List Char :=
  '\n' :: List.replicate (2 * level) ' '

mutual

def prettyChars (level : Nat) : Json → List Char
  | null => "null".toList
  | bool true => "true".toList
  | bool false => "false".toList
  | number value => (decimalText value).toList
  | string value => quoted value
  | array [] => ['[', ']']
  | array (item :: rest) =>
    '[' :: (lineBreak (level + 1) ++ (prettyChars (level + 1) item ++ prettyItems level rest))
  | object [] => ['{', '}']
  | object ((name, value) :: rest) =>
    '{' :: (lineBreak (level + 1) ++ (quoted name ++
      (':' :: ' ' :: (prettyChars (level + 1) value ++ prettyFields level rest))))

def prettyItems (level : Nat) : List Json → List Char
  | [] => lineBreak level ++ [']']
  | item :: rest =>
    ',' :: (lineBreak (level + 1) ++ (prettyChars (level + 1) item ++ prettyItems level rest))

def prettyFields (level : Nat) : List (String × Json) → List Char
  | [] => lineBreak level ++ ['}']
  | (name, value) :: rest =>
    ',' :: (lineBreak (level + 1) ++ (quoted name ++
      (':' :: ' ' :: (prettyChars (level + 1) value ++ prettyFields level rest))))

end

def pretty (value : Json) : String :=
  String.ofList (value.prettyChars 0)

end Json
end JarAtlas
