import ClassAtlas.AnnotatedClass
import ClassAtlas.Association

/-!
Several sets of annotated classes, each under a name, the questions they answer and the changes
they undergo. A visit goes over the classes its set holds when it starts, whatever is added on the
way.
-/
namespace ClassAtlas

/-- What a set can be asked about: an annotated class, an element, or a value that is neither. -/
inductive Operand where
  | wrapped (c : AnnotatedClass)
  | bare (e : Element)
  | foreign (v : Value)

inductive OperandError where
  | notAClass
  | notAKey
  deriving DecidableEq, Repr

namespace Operand

/-- Only annotated classes can be added. -/
def class? : Operand → Except OperandError AnnotatedClass
  | wrapped c => .ok c
  | _ => .error .notAClass

/-- The declaration an operand stands for, if it can be looked up at all. -/
def place? : Operand → Except OperandError (Option Place)
  | wrapped c => .ok (some c.place)
  | bare e => .ok (some e.place)
  | foreign v => if v.isKey then .ok none else .error .notAKey

/-- An annotated class is equal to its declaration, wrapped or bare. -/
def same : Operand → Operand → Bool
  | wrapped c, wrapped d => c.same d
  | wrapped c, bare e | bare e, wrapped c => c.place == e.place
  | bare e, bare f => e.place == f.place
  | foreign v, foreign w => v.same w
  | _, _ => false

end Operand

namespace ClassSet

def holds (s : ClassSet) (o : Operand) : Except OperandError Bool :=
  return (← o.place?).any s.contains

/-- A value of a kind that changes is no member and need not be looked up to know that. -/
def isMember (s : ClassSet) : Operand → Except OperandError Bool
  | .foreign v => if v.isMutable then .ok false else s.holds (.foreign v)
  | o => s.holds o

def find? (s : ClassSet) (o : Operand) : Except OperandError (Option AnnotatedClass) :=
  return (← o.place?).bind s.get?

end ClassSet

structure ClassSets where
  named : List (String × ClassSet)

inductive SetChange where
  | create (name : String) (items : List Operand)
  | insert (name : String) (item : Operand)
  | select (source into : String) (keep : AnnotatedClass → Bool)
  | visit (source into : String) (added : AnnotatedClass → List Operand)

inductive SetReply where
  | done
  | inserted (isNew : Bool)
  | visited (classes : List AnnotatedClass)
  | refused (e : OperandError)

namespace ClassSets

def empty : ClassSets := ⟨[]⟩

/-- A name under which nothing was put stands for the empty set. -/
def get (sets : ClassSets) (name : String) : ClassSet := (sets.named.lookup name).getD .empty

def put (sets : ClassSets) (name : String) (s : ClassSet) : ClassSets :=
  ⟨(name, s) :: sets.named.filter (·.1 != name)⟩

theorem get_put_self (sets : ClassSets) (name : String) (s : ClassSet) :
    (sets.put name s).get name = s := by
  simp [get, put]

theorem get_put_of_ne (sets : ClassSets) {name other : String} (s : ClassSet)
    (different : other ≠ name) : (sets.put name s).get other = sets.get other := by
  have apart : (other == name) = false := beq_eq_false_iff_ne.mpr different
  simp [get, put, List.lookup_cons, apart, Association.lookup_filter_of_ne different]

def insert (sets : ClassSets) (name : String) (c : AnnotatedClass) : ClassSets :=
  sets.put name ((sets.get name).add c)

/-- Adds operands in turn, up to the first that is no class. -/
def insertAll (name : String) (sets : ClassSets) : List Operand → ClassSets × Option OperandError
  | [] => (sets, none)
  | o :: rest =>
      match o.class? with
      | .ok c => insertAll name (sets.insert name c) rest
      | .error e => (sets, some e)

def visitAll (into : String) (added : AnnotatedClass → List Operand) (sets : ClassSets) :
    List AnnotatedClass → ClassSets × Option OperandError
  | [] => (sets, none)
  | c :: rest =>
      match sets.insertAll into (added c) with
      | (next, none) => visitAll into added next rest
      | (next, some e) => (next, some e)

def apply (sets : ClassSets) : SetChange → ClassSets × SetReply
  | .create name items =>
      match items.mapM Operand.class? with
      | .ok classes => (sets.put name (.ofList classes), .done)
      | .error e => (sets, .refused e)
  | .insert name item =>
      match item.class? with
      | .ok c => (sets.insert name c, .inserted !((sets.get name).contains c.place))
      | .error e => (sets, .refused e)
  | .select source into keep => (sets.put into ((sets.get source).filter keep), .done)
  | .visit source into added =>
      let classes := (sets.get source).toList
      match sets.visitAll into added classes with
      | (next, none) => (next, .visited classes)
      | (next, some e) => (next, .refused e)

end ClassSets
end ClassAtlas
