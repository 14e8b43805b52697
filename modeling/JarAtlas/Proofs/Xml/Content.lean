/-
The text of a node.

The text of a node is that of all text nodes inside it, put together in the order
of the document.  Its names, attributes, comments and instructions do not matter
for it, so it is the text of the bare tree too, which has elements and text
alone.
-/
import JarAtlas.Xml.Node

namespace JarAtlas
namespace Xml
namespace Node

def name? : Node → Option ExpandedName
  | .element name _ _ => some name
  | _ => none

def ownText? : Node → Option String
  | .text content => some content
  | _ => none

def texts (node : Node) : List String :=
  node.descendants.filterMap ownText?

mutual

theorem textContent_eq_join : ∀ node : Node, node.textContent = String.join node.texts
  | .element name attributes nodes => by
      rw [textContent, textContentAll_eq_join, texts, descendants,
        List.filterMap_cons_none (by rfl)]
  | .text content => by
      have alone : (Node.text content).texts = [content] := rfl
      rw [alone, textContent, String.join_cons, String.join_nil, String.append_empty]
  | .comment _ => rfl
  | .instruction _ _ => rfl

theorem textContentAll_eq_join : ∀ nodes : List Node,
    textContentAll nodes = String.join ((descendantsAll nodes).filterMap ownText?)
  | [] => rfl
  | node :: rest => by
      rw [textContentAll, descendantsAll, List.filterMap_append, String.join_append,
        textContent_eq_join, textContentAll_eq_join, texts]

end

mutual

/-- A node without the attributes, comments and instructions in it. -/
def bare : Node → Node
  | .element name _ children => .element name [] (bareAll children)
  | node => node

def bareAll : List Node → List Node
  | [] => []
  | .comment _ :: rest => bareAll rest
  | .instruction _ _ :: rest => bareAll rest
  | node :: rest => bare node :: bareAll rest

end

theorem name?_bare (node : Node) : node.bare.name? = node.name? := by
  cases node <;> rfl

mutual

theorem textContent_bare : ∀ node : Node, node.bare.textContent = node.textContent
  | .element name attributes nodes => by
      rw [bare, textContent, textContent, textContentAll_bareAll]
  | .text _ => rfl
  | .comment _ => rfl
  | .instruction _ _ => rfl

theorem textContentAll_bareAll :
    ∀ nodes : List Node, textContentAll (bareAll nodes) = textContentAll nodes
  | [] => rfl
  | .comment _ :: rest => by
      rw [bareAll, textContentAll, textContentAll_bareAll, textContent, String.empty_append]
  | .instruction _ _ :: rest => by
      rw [bareAll, textContentAll, textContentAll_bareAll, textContent, String.empty_append]
  | .text content :: rest => by
      rw [bareAll, textContentAll, textContentAll, textContentAll_bareAll, textContent_bare]
      all_goals nofun
  | .element name attributes nodes :: rest => by
      rw [bareAll, textContentAll, textContentAll, textContentAll_bareAll, textContent_bare]
      all_goals nofun

end

end Node
end Xml
end JarAtlas
