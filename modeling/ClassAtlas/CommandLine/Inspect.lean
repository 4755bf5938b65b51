import ClassAtlas.CommandLine.Palette
import ClassAtlas.Generator.Basic

/-!
The printed form of annotated classes. What is printed before a type that does not translate stays.
-/
namespace ClassAtlas.CommandLine

/-- Lines printed so far, and how the printing ended. -/
structure Printed where
  session : Session
  lines : List String
  outcome : Except StructureError Unit

namespace Inspect

def tags (h : Host) (p : Property) : List String :=
  (if p.reflected.isCollection h then ["collection"] else [])
    ++ (if p.reflected.isMap h then ["map"] else [])

def propertyLine (palette : Palette) (h : Host) (p : Property) (type : TargetType) : String :=
  let tags := tags h p
  let tagged := if tags = [] then "" else " " ++ Text.separated ", " tags
  "  " ++ p.name ++ ": " ++ palette.blue type.text ++ " (" ++ p.access.word ++ ")" ++ tagged

def headLine (palette : Palette) (c : AnnotatedClass) : String :=
  let provenance := if c.internal then "internal" else "external"
  palette.bold c.qualifiedName ++ " [" ++ provenance ++ "] (namespace: " ++ c.namespaceName ++ ")"

def printProperties (palette : Palette) (ctx : Context) : List Property → Session → Printed
  | [], s => ⟨s, [], .ok ()⟩
  | p :: rest, s =>
      match s.observe (p.type ctx.toTranslator) with
      | (s, .error e) => ⟨s, [], .error e⟩
      | (s, .ok type) =>
          let others := printProperties palette ctx rest s
          { others with lines := propertyLine palette ctx.host p type :: others.lines }

def printClass (palette : Palette) (ctx : Context) (c : AnnotatedClass) (s : Session) : Printed :=
  match c.properties ctx with
  | [] => ⟨s, [headLine palette c, "  (no properties)"], .ok ()⟩
  | properties =>
      let printed := printProperties palette ctx properties s
      { printed with lines := headLine palette c :: printed.lines }

def printClasses (palette : Palette) (ctx : Context) : List AnnotatedClass → Session → Printed
  | [], s => ⟨s, [], .ok ()⟩
  | c :: rest, s =>
      let printed := printClass palette ctx c s
      match printed.outcome with
      | .error e => { printed with outcome := .error e }
      | .ok () =>
          let others := printClasses palette ctx rest printed.session
          { others with lines := printed.lines ++ others.lines }

end Inspect
end ClassAtlas.CommandLine
