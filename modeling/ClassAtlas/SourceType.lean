import ClassAtlas.AnnotationUse

/-!
Occurrences of source types. Each of the four shapes carries the annotations of that occurrence;
a wildcard without bound can be written down but not translated.
-/
namespace ClassAtlas

inductive Variance where
  | producer
  | consumer
  deriving DecidableEq, Repr

namespace Variance

def word : Variance → String
  | producer => "producer"
  | consumer => "consumer"

def words : List (String × Variance) := [("producer", producer), ("consumer", consumer)]

def ofWord? (word : String) : Option Variance := words.lookup word

def check : Value → Check Variance := Check.word words .unknownMember

def shown : Variance → String
  | producer => "<Variance.PRODUCER: 'producer'>"
  | consumer => "<Variance.CONSUMER: 'consumer'>"

end Variance

inductive SourceType where
  | plain (name : String) (annotations : List AnnotationUse)
  | parameterized (name : String) (arguments : List SourceType) (annotations : List AnnotationUse)
  | wildcard (variance : Variance) (bound : Option SourceType) (annotations : List AnnotationUse)
  | array (component : SourceType) (annotations : List AnnotationUse)
  deriving Repr, Inhabited

namespace SourceType

/-- A named type without arguments and annotations. -/
def bare (name : String) : SourceType := .plain name []

def shape : SourceType → String
  | .plain .. => "plain"
  | .parameterized .. => "parameterized"
  | .wildcard .. => "wildcard"
  | .array .. => "array"

def annotations : SourceType → List AnnotationUse
  | .plain _ as | .parameterized _ _ as | .wildcard _ _ as | .array _ as => as

/-- The raw name of a declared type; arrays and wildcards have none. -/
def rawName? : SourceType → Option String
  | .plain name _ | .parameterized name _ _ => some name
  | .wildcard .. | .array .. => none

def arguments : SourceType → List SourceType
  | .parameterized _ arguments _ => arguments
  | _ => []

/-- The argument at a position that may lie outside the list on either side. -/
def argument? (t : SourceType) (index : Int) : Option SourceType :=
  if index < 0 then none else t.arguments[index.toNat]?

mutual

def same : SourceType → SourceType → Bool
  | .plain n as, .plain m bs => n == m && AnnotationUse.sameAll as bs
  | .parameterized n xs as, .parameterized m ys bs =>
      n == m && sameArguments xs ys && AnnotationUse.sameAll as bs
  | .wildcard v none as, .wildcard w none bs => v == w && AnnotationUse.sameAll as bs
  | .wildcard v (some x) as, .wildcard w (some y) bs =>
      v == w && same x y && AnnotationUse.sameAll as bs
  | .array x as, .array y bs => same x y && AnnotationUse.sameAll as bs
  | _, _ => false

def sameArguments : List SourceType → List SourceType → Bool
  | [], [] => true
  | x :: xs, y :: ys => same x y && sameArguments xs ys
  | _, _ => false

end

mutual

/-- A type as it stands in messages, with every field. -/
def shown : SourceType → String
  | .plain name as =>
      "PlainTypeRef(kind='plain', name=" ++ Text.quoted name ++ annotationsShown as
  | .parameterized name arguments as =>
      "ParameterizedTypeRef(kind='parameterized', name=" ++ Text.quoted name ++ ", arguments="
        ++ Text.enclosed "[" "]" (shownArguments arguments) ++ annotationsShown as
  | .wildcard variance bound as =>
      let boundShown := match bound with
        | none => "None"
        | some t => shown t
      "WildcardTypeRef(kind='wildcard', variance=" ++ variance.shown ++ ", bound=" ++ boundShown
        ++ annotationsShown as
  | .array component as =>
      "ArrayTypeRef(kind='array', component_type=" ++ shown component ++ annotationsShown as
where
  annotationsShown (as : List AnnotationUse) : String :=
    ", annotations=" ++ AnnotationUse.shownAll as ++ ")"

def shownArguments : List SourceType → List String
  | [] => []
  | t :: rest => shown t :: shownArguments rest

end

mutual

/-- A type in the notation of the source language. -/
def text : SourceType → String
  | .plain name _ => name
  | .parameterized name arguments _ => name ++ Text.enclosed "<" ">" (argumentTexts arguments)
  | .wildcard variance bound _ =>
      let keyword := match variance with
        | .producer => "extends"
        | .consumer => "super"
      let boundText := match bound with
        | none => "<none>"
        | some t => text t
      s!"? {keyword} {boundText}"
  | .array component _ => text component ++ "[]"

def argumentTexts : List SourceType → List String
  | [] => []
  | t :: rest => text t :: argumentTexts rest

end

inductive Shape where
  | plain
  | parameterized
  | wildcard
  | array

def Shape.word : Shape → String
  | .plain => "plain"
  | .parameterized => "parameterized"
  | .wildcard => "wildcard"
  | .array => "array"

def shapeOf? : Value → Option Shape
  | .str "plain" => some .plain
  | .str "parameterized" => some .parameterized
  | .str "wildcard" => some .wildcard
  | .str "array" => some .array
  | _ => none

mutual

/-- A mapping is read by the shape that its `kind` names; its other keys are passed over. Issues
below it are located under the name of the shape. A type cannot be a part of itself; an endless
mapping has a number by which it is met again. -/
def checkWithin (nest : Check.Nest) (number : Option Nat) : Value → Check SourceType
  | .map entries =>
      match Value.field? "kind" entries with
      | none => Check.refuse .tagMissing
      | some tag =>
          match shapeOf? tag with
          | none => Check.refuse .tagInvalid
          | some shape =>
              let inner := number :: nest
              (if nest.admits number then
                match shape with
                | .plain =>
                    plain <$> Check.required "name" Check.text entries
                      <*> AnnotationUse.checkAllWithin inner entries
                | .parameterized =>
                    parameterized <$> Check.required "name" Check.text entries
                      <*> (checkListField inner "arguments" entries).getD (.pass [])
                      <*> AnnotationUse.checkAllWithin inner entries
                | .wildcard =>
                    wildcard <$> Check.required "variance" Variance.check entries
                      <*> (checkBound inner entries).getD (.pass none)
                      <*> AnnotationUse.checkAllWithin inner entries
                | .array =>
                    array <$> (checkField inner "component_type" entries).getD
                        ((Check.refuse .missing).under (.name "component_type"))
                      <*> AnnotationUse.checkAllWithin inner entries
              else Check.refuse .recursionLoop).under (.name shape.word)
  | .endless number v => checkWithin nest (some number) v
  | _ => Check.refuse .notAttributes

/-- The type under a key, if the key is there. -/
def checkField (nest : Check.Nest) (key : String) :
    List (Value × Value) → Option (Check SourceType)
  | [] => none
  | (.str k, v) :: rest =>
      if k = key then some ((checkWithin nest none v).under (.name key))
      else checkField nest key rest
  | _ :: rest => checkField nest key rest

/-- A bound may be null. -/
def checkBound (nest : Check.Nest) : List (Value × Value) → Option (Check (Option SourceType))
  | [] => none
  | (.str k, .null) :: rest => if k = "bound" then some (.pass none) else checkBound nest rest
  | (.str k, v) :: rest =>
      if k = "bound" then some ((some <$> checkWithin nest none v).under (.name "bound"))
      else checkBound nest rest
  | _ :: rest => checkBound nest rest

def checkListField (nest : Check.Nest) (key : String) :
    List (Value × Value) → Option (Check (List SourceType))
  | [] => none
  | (.str k, v) :: rest =>
      if k = key then some ((checkListWithin nest v).under (.name key))
      else checkListField nest key rest
  | _ :: rest => checkListField nest key rest

def checkListWithin (nest : Check.Nest) : Value → Check (List SourceType)
  | .seq items | .tuple items | .set items => checkItems nest 0 items
  | .endless _ v => checkListWithin nest v
  | _ => Check.refuse .notList

def checkItems (nest : Check.Nest) (index : Nat) : List Value → Check (List SourceType)
  | [] => .pass []
  | v :: rest =>
      List.cons <$> (checkWithin nest none v).under (.index index)
        <*> checkItems nest (index + 1) rest

end

def check : Value → Check SourceType := checkWithin [] none

def checkList : Value → Check (List SourceType) := checkListWithin []

mutual

/-- A type with every field, as a value. -/
def toValue : SourceType → Value
  | .plain name as =>
      .map [(.str "kind", .str "plain"), (.str "name", .str name),
        (.str "annotations", .seq (as.map AnnotationUse.toValue))]
  | .parameterized name arguments as =>
      .map [(.str "kind", .str "parameterized"), (.str "name", .str name),
        (.str "arguments", .seq (argumentValues arguments)),
        (.str "annotations", .seq (as.map AnnotationUse.toValue))]
  | .wildcard variance bound as =>
      let boundValue := match bound with
        | none => .null
        | some t => toValue t
      .map [(.str "kind", .str "wildcard"), (.str "variance", .str variance.word),
        (.str "bound", boundValue), (.str "annotations", .seq (as.map AnnotationUse.toValue))]
  | .array component as =>
      .map [(.str "kind", .str "array"), (.str "component_type", toValue component),
        (.str "annotations", .seq (as.map AnnotationUse.toValue))]

def argumentValues : List SourceType → List Value
  | [] => []
  | t :: rest => toValue t :: argumentValues rest

end

end SourceType
end ClassAtlas
