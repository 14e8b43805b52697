/-
JSON values.

Stored models and printed reports are JSON documents.  Their numbers are
counts, so a number is a natural number, and the fields of an object keep their
order.
-/

namespace JarAtlas

inductive Json where
  | null
  | bool (value : Bool)
  | number (value : Nat)
  | string (value : String)
  | array (items : List Json)
  | object (fields : List (String × Json))
  deriving Repr, Inhabited

namespace Json

def field? (name : String) : Json → Option Json
  | object fields => fields.lookup name
  | _ => none

def string? : Json → Option String
  | string value => some value
  | _ => none

def bool? : Json → Option Bool
  | bool value => some value
  | _ => none

def number? : Json → Option Nat
  | number value => some value
  | _ => none

def items? : Json → Option (List Json)
  | array items => some items
  | _ => none

def strings? (value : Json) : Option (List String) :=
  value.items?.bind fun items => items.mapM string?

def ofStrings (texts : List String) : Json :=
  array (texts.map string)

end Json
end JarAtlas
