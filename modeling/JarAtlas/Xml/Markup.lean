/-
XML markup.

Reading markup checks the grammar of a document and gives its tree: elements
with the names and attributes as they are written, text, comments and
instructions.  Document type declarations are refused.  What the prefixes of
names stand for is settled afterwards.
-/
import JarAtlas.Text.Split
import JarAtlas.Xml.Reference

namespace JarAtlas
namespace Xml

/-- A name as it is written; a name without a colon, or with one in front, has
the empty qualifier. -/
structure QualifiedName where
  qualifier : String
  localName : String
  deriving DecidableEq, Repr

inductive Markup where
  | element (name : QualifiedName) (attributes : List (QualifiedName × String))
      (children : List Markup)
  | text (content : String)
  | comment (content : String)
  | instruction (target content : String)
  deriving Repr

namespace Markup

def skipSpaces (input : List Char) : List Char :=
  input.dropWhile isSpace

def startsSoundly (part : List Char) : Bool :=
  match part with
  | [] => true
  | c :: _ => startsName c

def qualifiedName? (input : List Char) : Option (QualifiedName × List Char) :=
  let whole := input.takeWhile continuesName
  let (qualifier, localName) := (cutAtFirst? ':' whole).getD ([], whole)
  if ':' ∈ localName ∨ localName = [] then none
  else if startsSoundly qualifier && startsSoundly localName then
    some (⟨String.ofList qualifier, String.ofList localName⟩, input.dropWhile continuesName)
  else none

def target? (input : List Char) : Option (List Char × List Char) :=
  match input with
  | c :: _ =>
    if startsName c then some (input.takeWhile continuesName, input.dropWhile continuesName)
    else none
  | [] => none

def untilMark? (mark : List Char) (done : List Char) :
    List Char → Option (List Char × List Char)
  | [] => none
  | c :: rest =>
    match afterStart? mark (c :: rest) with
    | some after => some (done.reverse, after)
    | none => if isAllowed c then untilMark? mark (c :: done) rest else none

def quotedValue? (input : List Char) : Option (List Char × List Char) :=
  match skipSpaces input with
  | '=' :: rest =>
    match skipSpaces rest with
    | quote :: body =>
      if quote = '"' ∨ quote = '\'' then
        match untilMark? [quote] [] body with
        | some (value, after) => if '<' ∈ value then none else some (value, after)
        | none => none
      else none
    | [] => none
  | _ => none

def attribute? (input : List Char) : Option ((QualifiedName × List Char) × List Char) :=
  match qualifiedName? input with
  | none => none
  | some (name, rest) =>
    match quotedValue? rest with
    | none => none
    | some (value, after) => some ((name, value), after)

/-- Reads a comment from after its opening.  It holds no pair of hyphens and
does not end with one. -/
def comment? (input : List Char) : Option (Markup × List Char) :=
  match untilMark? "-->".toList [] input with
  | none => none
  | some (content, rest) =>
    if occursIn ['-', '-'] content || content.getLast? = some '-' then none
    else some (.comment (String.ofList content), rest)

def instruction? (input : List Char) : Option (Markup × List Char) :=
  if (afterStart? "xml ".toList input).isSome then none
  else
    match target? input with
    | none => none
    | some (target, rest) =>
      match untilMark? "?>".toList [] (skipSpaces rest) with
      | none => none
      | some (content, after) =>
        some (.instruction (String.ofList target) (String.ofList content), after)

def plainSection? (input : List Char) : Option (Markup × List Char) :=
  match untilMark? "]]>".toList [] input with
  | none => none
  | some (content, rest) =>
    some (.text (String.ofList (runningText (content.map .raw))), rest)

def text? (input : List Char) : Option (Markup × List Char) :=
  let content := input.takeWhile (· != '<')
  if content.all isAllowed && !occursIn "]]>".toList content then
    match piecesOf? content with
    | some pieces =>
      some (.text (String.ofList (runningText pieces)), input.dropWhile (· != '<'))
    | none => none
  else
    none

/-! ### Elements -/

inductive TagEnd where
  | opened
  | closed
  deriving DecidableEq, Repr

def attributes? : Nat → List (QualifiedName × String) → List Char →
    Option ((List (QualifiedName × String) × TagEnd) × List Char)
  | 0, _, _ => none
  | fuel + 1, done, input =>
    match skipSpaces input with
    | '>' :: rest => some ((done.reverse, .opened), rest)
    | '/' :: '>' :: rest => some ((done.reverse, .closed), rest)
    | start =>
      if (input.take 1).any isSpace then
        match attribute? start with
        | none => none
        | some ((name, value), rest) =>
          match piecesOf? value with
          | none => none
          | some pieces =>
            attributes? fuel ((name, String.ofList (attributeText pieces)) :: done) rest
      else none

def endTag? (input : List Char) : Option (QualifiedName × List Char) :=
  match qualifiedName? input with
  | none => none
  | some (name, rest) =>
    match skipSpaces rest with
    | '>' :: after => some (name, after)
    | _ => none

mutual

def element? : Nat → List Char → Option (Markup × List Char)
  | 0, _ => none
  | fuel + 1, input =>
    match qualifiedName? input with
    | none => none
    | some (name, rest) =>
      match attributes? fuel [] rest with
      | none => none
      | some ((attributes, .closed), after) => some (.element name attributes [], after)
      | some ((attributes, .opened), after) =>
        match content? fuel [] after with
        | none => none
        | some ((children, closing), beyond) =>
          if closing = name then some (.element name attributes children, beyond) else none

def content? : Nat → List Markup → List Char →
    Option ((List Markup × QualifiedName) × List Char)
  | 0, _, _ => none
  | fuel + 1, done, input =>
    let continueWith (read : Option (Markup × List Char)) :=
      match read with
      | none => none
      | some (node, rest) => content? fuel (node :: done) rest
    match input with
    | [] => none
    | '<' :: '!' :: '-' :: '-' :: rest => continueWith (comment? rest)
    | '<' :: '!' :: rest =>
      match afterStart? "[CDATA[".toList rest with
      | some section_ => continueWith (plainSection? section_)
      | none => none
    | '<' :: '?' :: rest => continueWith (instruction? rest)
    | '<' :: '/' :: rest =>
      match endTag? rest with
      | some (name, after) => some ((done.reverse, name), after)
      | none => none
    | '<' :: rest => continueWith (element? fuel rest)
    | running => continueWith (text? running)

end

/-! ### Documents -/

def skipAsides? : Nat → List Char → Option (List Char)
  | 0, _ => none
  | fuel + 1, input =>
    match skipSpaces input with
    | '<' :: '!' :: '-' :: '-' :: rest =>
      match comment? rest with
      | some (_, after) => skipAsides? fuel after
      | none => none
    | '<' :: '?' :: rest =>
      match instruction? rest with
      | some (_, after) => skipAsides? fuel after
      | none => none
    | rest => some rest

/-- Skips the spaces after an item of the declaration; they may be missing only
before its end. -/
def spacesOrEnd? (input : List Char) : Option (List Char) :=
  if (input.take 1).any isSpace || (afterStart? "?>".toList input).isSome || input.isEmpty then
    some (skipSpaces input)
  else
    none

def declarationItem? (name : List Char) (input : List Char) : Option (List Char) :=
  match afterStart? name input with
  | none => some input
  | some _ => (attribute? input).map (·.2)

def declaration? (input : List Char) : Option (List Char) :=
  match spacesOrEnd? input with
  | none => none
  | some versioned =>
    if (afterStart? "version".toList versioned).isNone then none
    else
      match (declarationItem? "version".toList versioned).bind spacesOrEnd? with
      | none => none
      | some encoded =>
        let standalone :=
          if (afterStart? "encoding".toList encoded).isSome then
            (declarationItem? "encoding".toList encoded).bind spacesOrEnd?
          else
            some encoded
        match standalone.bind (declarationItem? "standalone".toList) with
        | none => none
        | some rest => afterStart? "?>".toList (skipSpaces rest)

def document? (document : List Char) : Option Markup :=
  let input := (afterStart? ['\uFEFF'] document).getD document
  let body :=
    match afterStart? "<?xml ".toList input with
    | some declared => declaration? (' ' :: declared)
    | none => some input
  match body.bind (skipAsides? (input.length + 1)) with
  | some ('<' :: rest) =>
    match element? (rest.length + 1) rest with
    | none => none
    | some (root, after) =>
      match skipAsides? (after.length + 1) after with
      | some [] => some root
      | _ => none
  | _ => none

end Markup
end Xml
end JarAtlas
