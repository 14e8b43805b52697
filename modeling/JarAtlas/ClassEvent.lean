/-
The events of one compiled class.

A class is told as a stream: its header, its annotations, its fields and
methods each followed by their annotations, and its end.  An annotation belongs
to whatever was opened last.
-/
import JarAtlas.Annotation.Signature

namespace JarAtlas

structure Access where
  bits : UInt16
  deriving DecidableEq, Repr

namespace Access

def has (access : Access) (flag : UInt16) : Bool :=
  access.bits &&& flag != 0

def isStatic (access : Access) : Bool :=
  access.has 0x0008

def isInterface (access : Access) : Bool :=
  access.has 0x0200

def isAbstract (access : Access) : Bool :=
  access.has 0x0400

end Access

structure ClassHeader where
  name : String
  access : Access
  superName : Option String
  interfaces : List String
  deriving Repr

inductive ClassEvent where
  | header (header : ClassHeader)
  | field (name descriptor : String) (access : Access)
  | method (name : String) (access : Access)
  | annotated (mark : AnnotationUse)
  | done
  deriving Repr

end JarAtlas
