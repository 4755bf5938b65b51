import ClassAtlas.SourceType

/-!
Target types: class names with arguments and a nullability mark, and variance projections of
them. Nullability is a mark and never part of a name.
-/
namespace ClassAtlas

inductive TargetType where
  | named (name : String) (arguments : List TargetType) (nullable : Bool)
  | projection (variance : Variance) (bound : TargetType)
  deriving BEq, Repr, Inhabited

namespace TargetType

/-- A class without arguments that admits no null. -/
def bare (name : String) : TargetType := .named name [] false

/-- Projections bear no mark of their own. -/
def withNullable (nullable : Bool) : TargetType → TargetType
  | .named name arguments _ => .named name arguments nullable
  | .projection variance bound => .projection variance bound

def isNullable : TargetType → Bool
  | .named _ _ nullable => nullable
  | .projection .. => false

def isProjection : TargetType → Bool
  | .named .. => false
  | .projection .. => true

def arguments : TargetType → List TargetType
  | .named _ arguments _ => arguments
  | .projection .. => []

def argument? (t : TargetType) (index : Int) : Option TargetType :=
  if index < 0 then none else t.arguments[index.toNat]?

def keyword : Variance → String
  | .producer => "out"
  | .consumer => "in"

mutual

/-- A type in the notation of the target language. -/
def text : TargetType → String
  | .named name [] nullable => name ++ mark nullable
  | .named name arguments nullable =>
      name ++ Text.enclosed "<" ">" (argumentTexts arguments) ++ mark nullable
  | .projection variance bound => keyword variance ++ " " ++ text bound
where
  mark (nullable : Bool) : String := if nullable then "?" else ""

def argumentTexts : List TargetType → List String
  | [] => []
  | t :: rest => text t :: argumentTexts rest

end

mutual

/-- A type with every field, as a value. -/
def toValue : TargetType → Value
  | .named name arguments nullable =>
      .map [(.str "kind", .str "class"), (.str "name", .str name),
        (.str "arguments", .seq (argumentValues arguments)), (.str "nullable", .bool nullable)]
  | .projection variance bound =>
      .map [(.str "kind", .str "wildcard"), (.str "variance", .str variance.word),
        (.str "bound", toValue bound)]

def argumentValues : List TargetType → List Value
  | [] => []
  | t :: rest => toValue t :: argumentValues rest

end

inductive Form where
  | named
  | projection

def formOf? : Value → Option Form
  | .str "class" => some .named
  | .str "wildcard" => some .projection
  | _ => none

mutual

/-- A mapping is read by the form that its `kind` names; its other keys are passed over. A type that
is a part of too many others is refused. -/
def checkWithin (depth : Nat) : Value → Check TargetType
  | .map entries =>
      match Value.field? "kind" entries with
      | none => Check.refuse .tagMissing
      | some tag =>
          match formOf? tag with
          | none => Check.refuse .tagInvalid
          | some .named =>
              (if depth < Check.Nest.limit then
                named <$> Check.required "name" Check.text entries
                  <*> (checkArguments (depth + 1) entries).getD (.pass [])
                  <*> Check.optional "nullable" false Check.truth entries
              else Check.refuse .recursionLoop).under (.name "class")
          | some .projection =>
              (if depth < Check.Nest.limit then
                projection <$> Check.required "variance" Variance.check entries
                  <*> (checkBound (depth + 1) entries).getD
                    ((Check.refuse .missing).under (.name "bound"))
              else Check.refuse .recursionLoop).under (.name "wildcard")
  | _ => Check.refuse .notAttributes

def checkBound (depth : Nat) : List (Value × Value) → Option (Check TargetType)
  | [] => none
  | (.str k, v) :: rest =>
      if k = "bound" then some ((checkWithin depth v).under (.name k)) else checkBound depth rest
  | _ :: rest => checkBound depth rest

def checkArguments (depth : Nat) : List (Value × Value) → Option (Check (List TargetType))
  | [] => none
  | (.str k, v) :: rest =>
      if k = "arguments" then some ((checkTuple depth v).under (.name k))
      else checkArguments depth rest
  | _ :: rest => checkArguments depth rest

def checkTuple (depth : Nat) : Value → Check (List TargetType)
  | .seq items | .tuple items | .set items => checkItems depth 0 items
  | _ => Check.refuse .notTuple

def checkItems (depth index : Nat) : List Value → Check (List TargetType)
  | [] => .pass []
  | v :: rest =>
      List.cons <$> (checkWithin depth v).under (.index index)
        <*> checkItems depth (index + 1) rest

end

def check : Value → Check TargetType := checkWithin 0

end TargetType
end ClassAtlas
