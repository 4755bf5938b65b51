import ClassAtlas.Check
import ClassAtlas.Text.Dotted

/-!
Annotations: a qualified kind and attribute values. Attributes are free values under text keys.
-/
namespace ClassAtlas

structure AnnotationUse where
  kind : String
  values : List (String × Value)
  deriving Repr, Inhabited

namespace AnnotationUse

def simpleName (a : AnnotationUse) : String := Text.Dotted.simpleName a.kind

def value? (a : AnnotationUse) (name : String) : Option Value := a.values.lookup name

def valueEntries (values : List (String × Value)) : List (Value × Value) :=
  values.map fun (key, v) => (.str key, v)

def same (a b : AnnotationUse) : Bool :=
  a.kind == b.kind && (Value.map (valueEntries a.values)).same (.map (valueEntries b.values))

def sameAll : List AnnotationUse → List AnnotationUse → Bool
  | [], [] => true
  | a :: as, b :: bs => a.same b && sameAll as bs
  | _, _ => false

def shown (a : AnnotationUse) : String :=
  let values := (Value.map (valueEntries a.values)).shown
  "AnnotationMirror(kind=" ++ Text.quoted a.kind ++ ", values=" ++ values ++ ")"

def shownAll (annotations : List AnnotationUse) : String :=
  Text.enclosed "[" "]" (annotations.map shown)

/-- A later attribute of the same name replaces the value of the earlier one. -/
def putValue (key : String) (value : Value) : List (String × Value) → List (String × Value)
  | [] => [(key, value)]
  | (k, v) :: rest => if k = key then (k, value) :: rest else (k, v) :: putValue key value rest

/-- The key of an attribute; one that is no text is located by a step of its own. -/
def checkKey (key : Value) : Check String :=
  ((Check.text key).under (.name "[key]")).under (Check.keyStep key)

def keyed : List (Value × Value) → Check (List (String × Value))
  | [] => .pass []
  | (key, v) :: rest => (fun k more => (k, v) :: more) <$> checkKey key <*> keyed rest

def checkValues (v : Value) : Check (List (String × Value)) :=
  match v.opened with
  | .map entries =>
      (fun pairs => pairs.foldl (fun kept (key, v) => putValue key v kept) []) <$> keyed entries
  | _ => Check.refuse .notMapping

/-- Unknown keys of an annotation are passed over. -/
def check (v : Value) : Check AnnotationUse :=
  match v.opened with
  | .map entries =>
      mk <$> Check.required "kind" Check.text entries
        <*> Check.optional "values" [] checkValues entries
  | _ => Check.refuse .notRecord

/-- An annotation of a part that lies within others. -/
def checkWithin (nest : Check.Nest) (v : Value) : Check AnnotationUse :=
  if nest.admits none then check v else Check.refuse .recursionLoop

def checkAllWithin (nest : Check.Nest) : List (Value × Value) → Check (List AnnotationUse) :=
  Check.optional "annotations" [] (Check.listOf (checkWithin nest))

def checkAll : List (Value × Value) → Check (List AnnotationUse) := checkAllWithin []

def toValue (a : AnnotationUse) : Value :=
  .map [(.str "kind", .str a.kind), (.str "values", .map (valueEntries a.values))]

end AnnotationUse
end ClassAtlas
