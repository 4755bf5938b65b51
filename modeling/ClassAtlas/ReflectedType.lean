import ClassAtlas.Host.Assignable
import ClassAtlas.Translation.Basic

/-!
A source type together with the queries on it: its translation, its declaration, whether it is a
collection or a map, and its arguments.
-/
namespace ClassAtlas

structure ReflectedType where
  source : SourceType
  deriving Repr

namespace ReflectedType

def type (tr : Translator) (t : ReflectedType) : Traced TargetType := tr.translate t.source

def declaration? (h : Host) (t : ReflectedType) : Option TypeDeclaration :=
  h.declarationOf? t.source

def isCollection (h : Host) (t : ReflectedType) : Bool := h.isCollection t.source

def isMap (h : Host) (t : ReflectedType) : Bool := h.isMap t.source

def argument? (t : ReflectedType) (index : Int) : Option ReflectedType :=
  (t.source.argument? index).map mk

def same (t u : ReflectedType) : Bool := t.source.same u.source

def shown (t : ReflectedType) : String := "ReflectedType(" ++ t.source.shown ++ ")"

end ReflectedType
end ClassAtlas
