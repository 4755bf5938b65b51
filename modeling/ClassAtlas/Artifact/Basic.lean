import ClassAtlas.AnnotatedClass
import ClassAtlas.Json.Writer
import ClassAtlas.TargetType.Encoding

/-!
Artifacts: what a code emitter needs to know about one annotated class, as one line of JSON. The
format carries a version. Writing has no limit of depth, so types of any depth are written; a reader
has one (`Json.readingDepth`), and takes in the artifacts within it.
-/
namespace ClassAtlas

structure PropertyRecord where
  name : String
  type : TargetType
  collection : Bool
  map : Bool
  access : Access
  getter : Bool
  parameter : Bool
  deriving Repr

structure ClassRecord where
  name : String
  namespaceName : String
  internal : Bool
  properties : List PropertyRecord
  deriving Repr

def Artifact.formatVersion : String := "1"

/-- The ending of artifact files. -/
def Artifact.suffix : String := ".model.json"

namespace PropertyRecord

def ofProperty (ctx : Context) (p : Property) : Traced PropertyRecord := do
  let type ← p.type ctx.toTranslator
  return { name := p.name
           type := type
           collection := p.reflected.isCollection ctx.host
           map := p.reflected.isMap ctx.host
           access := p.access
           getter := p.getter.isSome
           parameter := p.parameter.isSome }

def ofProperties (ctx : Context) : List Property → Traced (List PropertyRecord)
  | [] => return []
  | p :: rest => do
      let record ← ofProperty ctx p
      let records ← ofProperties ctx rest
      return record :: records

def members (r : PropertyRecord) : List (String × Json) :=
  [("name", .str r.name), ("type", r.type.encode), ("collection", .bool r.collection),
    ("map", .bool r.map), ("access", .str r.access.word), ("getter", .bool r.getter),
    ("parameter", .bool r.parameter)]

def toJson (r : PropertyRecord) : Json := .obj r.members

end PropertyRecord

namespace ClassRecord

def ofClass (ctx : Context) (c : AnnotatedClass) : Traced ClassRecord := do
  let properties ← PropertyRecord.ofProperties ctx (c.properties ctx)
  return { name := c.qualifiedName
           namespaceName := c.namespaceName
           internal := c.internal
           properties := properties }

def members (r : ClassRecord) : List (String × Json) :=
  [("v", .str Artifact.formatVersion), ("name", .str r.name),
    ("namespace", .str r.namespaceName), ("internal", .bool r.internal),
    ("properties", .arr (r.properties.map PropertyRecord.toJson))]

def toJson (r : ClassRecord) : Json := .obj r.members

def serialize (r : ClassRecord) : String := r.toJson.compact

end ClassRecord

/-- The artifact of a class, unless one of its properties does not translate. -/
def AnnotatedClass.serialize (ctx : Context) (c : AnnotatedClass) : Traced String := do
  let record ← ClassRecord.ofClass ctx c
  return record.serialize

end ClassAtlas
