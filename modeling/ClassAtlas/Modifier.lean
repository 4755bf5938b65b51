import ClassAtlas.Check

/-! Modifiers of declarations. -/
namespace ClassAtlas

inductive Modifier where
  | isPublic
  | isProtected
  | isPrivate
  | isAbstract
  | isDefault
  | isStatic
  | isFinal
  | isTransient
  | isVolatile
  | isSynchronized
  | isNative
  deriving DecidableEq, Repr

namespace Modifier

def keyword : Modifier → String
  | isPublic => "public"
  | isProtected => "protected"
  | isPrivate => "private"
  | isAbstract => "abstract"
  | isDefault => "default"
  | isStatic => "static"
  | isFinal => "final"
  | isTransient => "transient"
  | isVolatile => "volatile"
  | isSynchronized => "synchronized"
  | isNative => "native"

/-- All modifiers, by keyword in alphabetical order. -/
def all : List Modifier :=
  [isAbstract, isDefault, isFinal, isNative, isPrivate, isProtected, isPublic, isStatic,
    isSynchronized, isTransient, isVolatile]

theorem mem_all (m : Modifier) : m ∈ all := by cases m <;> decide

/-- The modifiers of a list, each once and in alphabetical order. -/
def sorted (given : List Modifier) : List Modifier := all.filter given.contains

def byKeyword : List (String × Modifier) := all.map fun m => (m.keyword, m)

def ofKeyword? (keyword : String) : Option Modifier := byKeyword.lookup keyword

theorem ofKeyword?_keyword (m : Modifier) : ofKeyword? m.keyword = some m := by
  cases m <;> decide

def check : Value → Check Modifier := Check.word byKeyword .unknownMember

end Modifier
end ClassAtlas
