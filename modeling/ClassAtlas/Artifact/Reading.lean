import ClassAtlas.Artifact.Basic
import ClassAtlas.Json.Reader

/-!
Reading artifacts back. The version is checked and the type of each property decoded; all other
members are kept as they stand.
-/
namespace ClassAtlas.Artifact

inductive ReadError where
  | text (fault : Json.Fault)
  | notAnObject
  | unsupportedVersion (given : Json)
  | wrongForm
  | missingKey (key : String)
  | type (e : TargetType.DecodeError)
  deriving Repr

def ReadError.message : ReadError → String
  | text (.tooManyDigits count) => Decimal.readingReason count
  | text .malformed | text .tooDeep | notAnObject | wrongForm => ""
  | unsupportedVersion given => "Unsupported model format version: " ++ given.toValue.shown
  | missingKey key => Text.quoted key
  | type e => e.message

/-- A property as read: its members, and the type that its `type` member encodes. -/
structure PropertyRead where
  members : List (String × Json)
  type : TargetType
  deriving Repr

structure Read where
  members : List (String × Json)
  properties : List PropertyRead
  deriving Repr

def property : Json → Except ReadError PropertyRead
  | .obj members =>
      match Json.find? "type" members with
      | none => .error (.missingKey "type")
      | some encoded => do
          let type ← (TargetType.decode encoded).mapError .type
          return ⟨members, type⟩
  | _ => .error .wrongForm

/-- An empty text and an empty object count as no properties. -/
def properties : Option Json → Except ReadError (List PropertyRead)
  | none | some (.str "") | some (.obj []) => .ok []
  | some (.arr items) => items.mapM property
  | some _ => .error .wrongForm

def ofJson : Json → Except ReadError Read
  | .obj members => do
      let version := (Json.find? "v" members).getD .null
      match version with
      | .str v => if v ≠ formatVersion then throw (.unsupportedVersion version)
      | _ => throw (.unsupportedVersion version)
      return ⟨members, ← properties (Json.find? "properties" members)⟩
  | _ => .error .notAnObject

/-- The artifact of a text whose collections nest within a limit. -/
def readWithin (limit : Nat) (text : String) : Except ReadError Read :=
  match Json.parseWithin limit text with
  | .ok v => ofJson v
  | .error fault => .error (.text fault)

def read : String → Except ReadError Read := readWithin Json.readingDepth

end ClassAtlas.Artifact
