import ClassAtlas.Text.Casing
import ClassAtlas.Text.Pieces

/-!
Dotted names such as `com.example.Outer.Inner`: the simple name is what follows the last dot,
the package what stands before it, and the namespace the leading segments up to the first that
begins with a capital.
-/
namespace ClassAtlas.Text.Dotted

def segments (name : String) : List (List Char) := pieces '.' name.toList

def simpleName (name : String) : String := String.ofList ((segments name).getLastD [])

def packageName (name : String) : String := String.ofList (joined ['.'] (segments name).dropLast)

def beginsWithCapital : List Char → Bool
  | [] => false
  | c :: _ => Casing.isCapital c

def namespaceOf (name : String) : String :=
  String.ofList (joined ['.'] ((segments name).dropLast.takeWhile (!beginsWithCapital ·)))

example : simpleName "com.example.Outer.Inner" = "Inner" := by decide
example : packageName "com.example.Outer.Inner" = "com.example.Outer" := by decide
example : namespaceOf "com.example.Outer.Inner" = "com.example" := by decide

end ClassAtlas.Text.Dotted
