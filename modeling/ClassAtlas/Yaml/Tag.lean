/-!
Tags: the types that nodes of a document claim to have.
-/
namespace ClassAtlas.Yaml

inductive Tag where
  | null
  | bool
  | int
  | float
  | str
  | binary
  | timestamp
  | merge
  | value
  | seq
  | map
  | set
  | omap
  | pairs
  | other (uri : String)
  deriving DecidableEq, Repr

namespace Tag

def standardRoot : String := "tag:yaml.org,2002:"

def standard : List (String × Tag) :=
  [("null", null), ("bool", bool), ("int", int), ("float", float), ("str", str),
    ("binary", binary), ("timestamp", timestamp), ("merge", merge), ("value", value),
    ("seq", seq), ("map", map), ("set", set), ("omap", omap), ("pairs", pairs)]

def ofUri (uri : String) : Tag :=
  match standard.find? fun (name, _) => standardRoot ++ name == uri with
  | some (_, tag) => tag
  | none => other uri

end Tag
end ClassAtlas.Yaml
