import ClassAtlas.Json.Basic
import ClassAtlas.TargetType.Basic

/-!
The compact JSON form of target types: `k` names the form, `n` and `a` hold name and arguments,
`v` and `b` variance and bound. An empty argument list and a missing null mark are left out.
-/
namespace ClassAtlas.TargetType

mutual

def encode : TargetType → Json
  | .named name arguments nullable =>
      .obj ([("k", .str "class"), ("n", .str name)] ++ argumentMember arguments
        ++ if nullable then [("null", .bool true)] else [])
  | .projection variance bound =>
      .obj [("k", .str "wildcard"), ("v", .str variance.word), ("b", encode bound)]

def argumentMember : List TargetType → List (String × Json)
  | [] => []
  | t :: rest => [("a", .arr (encode t :: encodeAll rest))]

def encodeAll : List TargetType → List Json
  | [] => []
  | t :: rest => encode t :: encodeAll rest

end

/-- Why a JSON value encodes no target type. -/
inductive DecodeError where
  | wrongForm
  | missingKey (key : String)
  | invalid (issues : List Issue)
  | unknownVariance (given : Json)
  | unknownKind (given : Json)
  deriving Repr

/-- What an error says; a wrong form goes without words, and issues stand for themselves. -/
def DecodeError.message : DecodeError → String
  | wrongForm | invalid _ => ""
  | missingKey key => Text.quoted key
  | unknownVariance given => given.toValue.shown ++ " is not a valid Variance"
  | unknownKind given => "Unknown target type kind: " ++ given.toValue.shown

def member (key : String) (members : List (String × Json)) : Except DecodeError Json :=
  match Json.find? key members with
  | some v => .ok v
  | none => .error (.missingKey key)

/-- The parts of a class, whose arguments are already decoded. -/
def assemble (name : Json) (arguments : List TargetType) (nullable : Option Json) :
    Except DecodeError TargetType :=
  let nullable := (nullable.map Json.toValue).getD (.bool false)
  let parts := (fun n b => named n arguments b)
    <$> (Check.text name.toValue).under (.name "name")
    <*> (Check.truth nullable).under (.name "nullable")
  parts.toExcept.mapError .invalid

def varianceOf : Json → Except DecodeError Variance
  | .str word =>
      match Variance.ofWord? word with
      | some v => .ok v
      | none => .error (.unknownVariance (.str word))
  | given => .error (.unknownVariance given)

mutual

/-- Keys that do not belong to the form are passed over. -/
def decode : Json → Except DecodeError TargetType
  | .obj members => do
      match ← member "k" members with
      | .str "class" =>
          let name ← member "n" members
          let arguments ← (decodeArguments members).getD (.ok [])
          assemble name arguments (Json.find? "null" members)
      | .str "wildcard" =>
          let variance ← varianceOf (← member "v" members)
          let bound ← (decodeBound members).getD (.error (.missingKey "b"))
          return .projection variance bound
      | kind => throw (.unknownKind kind)
  | _ => .error .wrongForm

def decodeBound : List (String × Json) → Option (Except DecodeError TargetType)
  | [] => none
  | (k, v) :: rest => if k = "b" then some (decode v) else decodeBound rest

def decodeArguments : List (String × Json) → Option (Except DecodeError (List TargetType))
  | [] => none
  | (k, v) :: rest => if k = "a" then some (decodeList v) else decodeArguments rest

/-- An empty text and an empty object count as no arguments. -/
def decodeList : Json → Except DecodeError (List TargetType)
  | .arr items => decodeItems items
  | .str "" => .ok []
  | .obj [] => .ok []
  | _ => .error .wrongForm

def decodeItems : List Json → Except DecodeError (List TargetType)
  | [] => .ok []
  | v :: rest => do
      let t ← decode v
      let more ← decodeItems rest
      return t :: more

end

end ClassAtlas.TargetType
