import ClassAtlas.Config
import ClassAtlas.Discovery
import ClassAtlas.Generator.Session

/-!
Generators: what code generation asks of the model under one configuration. Types are translated
with the configured table, or named as in the source with nullability marks alone.
-/
namespace ClassAtlas

structure Generator where
  context : Context
  outputDirectory : String

/-- A type from which a generator cannot get what it needs. -/
inductive LookupError where
  | noType (role : String)
  | undeclared (role : String) (type : SourceType)
  | noKey
  deriving Repr

def LookupError.message : LookupError → String
  | .noType role => "Type has no " ++ role ++ " type"
  | .undeclared role type =>
      "The " ++ role ++ " type " ++ type.shown ++ " is not a known declaration"
  | .noKey => "Map type has no key type argument"

inductive GenerationError where
  | misshapen (e : StructureError)
  | undiscovered (e : Discovery.DiscoveryError)
  | unresolved (e : LookupError)
  deriving Repr

def GenerationError.message : GenerationError → String
  | .misshapen e => e.message
  | .undiscovered e => e.message
  | .unresolved e => e.message

namespace Generator

/-- A configuration that gives unsupported modifiers takes precedence over the generator's own. -/
def ofConfig (h : Host) (config : Config) (own : List Modifier) : Generator where
  context :=
    { host := h
      table := Renaming.standard.extend config.renamed
      markers := config.markers
      unsupported := config.unsupported.getD own }
  outputDirectory := config.outputDirectory

def host (g : Generator) : Host := g.context.host

def target (g : Generator) (t : SourceType) : Traced TargetType := g.context.translate t

def sourceNamed (g : Generator) (t : SourceType) : Except StructureError TargetType :=
  g.context.sourceNamer.target t

/-- The declared type of an element under its source names; a marker on the element makes it
nullable. -/
def typeName (g : Generator) (e : Element) : Except StructureError TargetType := do
  let name ← g.sourceNamed e.declaredType
  return if g.context.hasMarker e.annotations then name.withNullable true else name

def argumentDeclaration? (g : Generator) (e : Element) (index : Int) : Option TypeDeclaration :=
  (e.declaredType.argument? index).bind g.host.declarationOf?

def namespaceOf (g : Generator) (role : String) :
    Option SourceType → Except LookupError String
  | none => .error (.noType role)
  | some t =>
      match g.host.declarationOf? t with
      | some d => .ok d.namespaceName
      | none => .error (.undeclared role t)

/-- The type of the elements of an array or a collection. -/
def elementType? : SourceType → Option SourceType
  | .array component _ => some component
  | t => t.argument? 0

def elementNamespace (g : Generator) (t : SourceType) : Except LookupError String :=
  g.namespaceOf "element" (elementType? t)

def mapValueNamespace (g : Generator) (t : SourceType) : Except LookupError String :=
  g.namespaceOf "map value" (t.argument? 1)

/-- The key type of a map under its source names, asked for only where the map is annotated. -/
def mapKey (g : Generator) (annotated : Bool) (t : SourceType) :
    Except GenerationError (Option TargetType) :=
  if annotated then
    match t.argument? 0 with
    | none => .error (.unresolved .noKey)
    | some key => (g.sourceNamed key).mapError .misshapen |>.map some
  else .ok none

/-- Discovery, with its trace and its summary among the diagnostics. -/
def discover (g : Generator) (directKind : String) (registryKind : Option String) (s : Session) :
    Session × Except Discovery.DiscoveryError ClassSet :=
  match Discovery.discover g.host directKind registryKind with
  | .error e => (s, .error e)
  | .ok found =>
      let s := s.traceAll found.trace
      match found.summary? directKind with
      | some summary => (s.note summary, .ok found.classes)
      | none => (s, .ok found.classes)

end Generator
end ClassAtlas
