import ClassAtlas.Declarations.Basic

/-!
Declarations as document values with every field written out, defaults included.
-/
namespace ClassAtlas

def Modifier.toValue (m : Modifier) : Value := .str m.keyword

def marks (modifiers : List Modifier) (annotations : List AnnotationUse) : List (Value × Value) :=
  [(.str "modifiers", .seq (modifiers.map Modifier.toValue)),
    (.str "annotations", .seq (annotations.map AnnotationUse.toValue))]

def VariableDecl.toValue (d : VariableDecl) : Value :=
  .map ([(.str "name", .str d.name), (.str "type", d.type.toValue)]
    ++ marks d.modifiers d.annotations)

def parametersEntry (parameters : List VariableDecl) : Value × Value :=
  (.str "parameters", .seq (parameters.map VariableDecl.toValue))

def MethodDecl.toValue (d : MethodDecl) : Value :=
  .map ([(.str "name", .str d.name), (.str "return_type", d.returnType.toValue),
    parametersEntry d.parameters] ++ marks d.modifiers d.annotations)

def ConstructorDecl.toValue (d : ConstructorDecl) : Value :=
  .map (parametersEntry d.parameters :: marks d.modifiers d.annotations)

def ClassDecl.toValue (d : ClassDecl) : Value :=
  .map ([(.str "name", .str d.name), (.str "kind", .str d.kind.word),
    (.str "namespace", d.givenNamespace.elim .null .str)]
    ++ marks d.modifiers d.annotations
    ++ [(.str "supertypes", .seq (SourceType.argumentValues d.supertypes)),
      (.str "fields", .seq (d.fields.map VariableDecl.toValue)),
      (.str "constructors", .seq (d.constructors.map ConstructorDecl.toValue)),
      (.str "methods", .seq (d.methods.map MethodDecl.toValue))])

def Declarations.toValue (d : Declarations) : Value :=
  .map [(.str "classes", .seq (d.classes.map ClassDecl.toValue))]

end ClassAtlas
