import ClassAtlas.Artifact.Basic
import ClassAtlas.Generator.Output

/-!
Dumps: one artifact for each discovered class, in the folder of its namespace.
-/
namespace ClassAtlas

structure Dump extends Generator where
  directKind : String
  registryKind : Option String
  strict : Bool

namespace Dump

/-- The folder of a namespace has a level for each segment. -/
def folderName (c : AnnotatedClass) : String :=
  String.ofList (c.namespaceName.toList.map fun ch => if ch = '.' then '/' else ch)

def fileName (c : AnnotatedClass) : String := c.simpleName ++ Artifact.suffix

def writeClass (d : Dump) (c : AnnotatedClass) (s : Session) :
    Session × Except StructureError Unit :=
  match s.observe (c.serialize d.context) with
  | (s, .error e) => (s, .error e)
  | (s, .ok text) =>
      let (s, path) := d.writeFile d.strict (folderName c) (fileName c) text s
      ({ s with written := s.written ++ path.toList }, .ok ())

/-- Classes are written in order up to the first that does not translate. -/
def writeAll (d : Dump) : List AnnotatedClass → Session → Session × Except StructureError Unit
  | [], s => (s, .ok ())
  | c :: rest, s =>
      match d.writeClass c s with
      | (s, .error e) => (s, .error e)
      | (s, .ok ()) => d.writeAll rest s

/-- Whether there was a class to write. -/
def process (d : Dump) (s : Session) : Session × Except GenerationError Bool :=
  match d.discover d.directKind d.registryKind s with
  | (s, .error e) => (s, .error (.undiscovered e))
  | (s, .ok classes) =>
      match d.writeAll classes.toList s with
      | (s, .error e) => (s, .error (.misshapen e))
      | (s, .ok ()) => (s, .ok classes.isNotEmpty)

end Dump
end ClassAtlas
