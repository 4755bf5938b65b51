import ClassAtlas.Declarations.Basic

/-!
Checking a document against the shape of declarations. Records are closed: a key that is no field
is an issue.
-/
namespace ClassAtlas

open Check (required optional listOf closedRecord)

def Modifier.checkAll : Check.Entries → Check (List Modifier) :=
  optional "modifiers" [] (listOf Modifier.check)

namespace VariableDecl

def fields : List String := ["name", "type", "modifiers", "annotations"]

def checkFields (nest : Check.Nest) (entries : Check.Entries) : Check VariableDecl :=
  mk <$> required "name" Check.text entries
    <*> required "type" (SourceType.checkWithin nest none) entries
    <*> Modifier.checkAll entries
    <*> AnnotationUse.checkAllWithin nest entries

def checkField : Value → Check VariableDecl := closedRecord fields (checkFields [])

/-- A parameter counts as a part around its type. -/
def checkParameter : Value → Check VariableDecl := closedRecord fields (checkFields [none])

def checkParameters : Check.Entries → Check (List VariableDecl) :=
  optional "parameters" [] (listOf checkParameter)

end VariableDecl

namespace MethodDecl

/-- The return type is written under one of two keys; beside the first the second is stray. -/
def returnKey (entries : Check.Entries) : String :=
  if (Value.field? "return-type" entries).isSome then "return-type" else "return_type"

def checkFields (entries : Check.Entries) : Check MethodDecl :=
  mk <$> required "name" Check.text entries
    <*> optional (returnKey entries) (.bare "void") SourceType.check entries
    <*> VariableDecl.checkParameters entries
    <*> Modifier.checkAll entries
    <*> AnnotationUse.checkAll entries

def check (v : Value) : Check MethodDecl :=
  match v.opened with
  | .map entries =>
      closedRecord ["name", returnKey entries, "parameters", "modifiers", "annotations"]
        checkFields (.map entries)
  | _ => Check.refuse .notRecord

end MethodDecl

namespace ConstructorDecl

def fields : List String := ["parameters", "modifiers", "annotations"]

def checkFields (entries : Check.Entries) : Check ConstructorDecl :=
  mk <$> VariableDecl.checkParameters entries
    <*> Modifier.checkAll entries
    <*> AnnotationUse.checkAll entries

def check : Value → Check ConstructorDecl := closedRecord fields checkFields

end ConstructorDecl

def TypeKind.words : List (String × TypeKind) :=
  [("class", .plainClass), ("interface", .interface), ("enum", .enumeration)]

def TypeKind.check : Value → Check TypeKind := Check.word words .unknownLiteral

namespace ClassDecl

def fieldNames : List String :=
  ["name", "kind", "namespace", "modifiers", "annotations", "supertypes", "fields", "constructors",
    "methods"]

/-- A namespace may be null. -/
def checkNamespace : Value → Check (Option String)
  | .null => .pass none
  | v => some <$> Check.text v

def checkFields (entries : Check.Entries) : Check ClassDecl :=
  mk <$> required "name" Check.text entries
    <*> optional "kind" .plainClass TypeKind.check entries
    <*> optional "namespace" none checkNamespace entries
    <*> Modifier.checkAll entries
    <*> AnnotationUse.checkAll entries
    <*> optional "supertypes" [] SourceType.checkList entries
    <*> optional "fields" [] (listOf VariableDecl.checkField) entries
    <*> optional "constructors" [] (listOf ConstructorDecl.check) entries
    <*> optional "methods" [] (listOf MethodDecl.check) entries

def check : Value → Check ClassDecl := closedRecord fieldNames checkFields

end ClassDecl

namespace Declarations

def checkFields (entries : Check.Entries) : Check Declarations :=
  mk <$> optional "classes" [] (listOf ClassDecl.check) entries

def check : Value → Check Declarations := closedRecord ["classes"] checkFields

end Declarations
end ClassAtlas
