import ClassAtlas.Yaml.Fault

/-!
Tokens of YAML. Indentation shows as tokens that open and close block collections. A text that
cannot be read to its end closes with its fault in place of the end mark.
-/
namespace ClassAtlas.Yaml

inductive Token where
  | version (major : Nat)
  | handle (handle uri : String)
  | reserved
  | documentStart
  | documentEnd
  | blockSeqStart
  | blockMapStart
  | blockEnd
  | flowSeqStart
  | flowSeqEnd
  | flowMapStart
  | flowMapEnd
  | blockEntry
  | flowEntry
  | key
  | value
  | alias (name : String)
  | anchor (name : String)
  | tag (handle : Option String) (suffix : String)
  | scalar (text : String) (plain : Bool)
  | streamEnd
  | fault (f : Fault)
  deriving DecidableEq, Repr

end ClassAtlas.Yaml
