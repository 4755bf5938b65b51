import ClassAtlas.Yaml.Fault
import ClassAtlas.Yaml.Graph

/-!
Merge keys. An entry whose key is tagged as a merge stands for the entries of the mapping, or of
the list of mappings, that is its value. It is taken out before its value is merged, so a mapping
can be merged into its own parts, and merging ends.
-/
namespace ClassAtlas.Yaml.Graph

abbrev Entry := NodeId × NodeId

def isMergeKey (g : Graph) (key : NodeId) : Bool := g.tag? key == some .merge

/-- The value of the first merge key, and the entries without it. -/
def takeMerge? (g : Graph) : List Entry → Option (NodeId × List Entry)
  | [] => none
  | (key, value) :: rest =>
      if g.isMergeKey key then some (value, rest)
      else (g.takeMerge? rest).map fun (source, others) => (source, (key, value) :: others)

def mergeCount (g : Graph) : Nat :=
  let counts := g.nodes.toList.map fun n => match n.content with
    | .map entries => (entries.filter fun entry => g.isMergeKey entry.1).length
    | _ => 0
  counts.foldr Nat.add 0

/-- An equals sign as a key is text. -/
def settleKey (g : Graph) (key : NodeId) : Graph :=
  if g.tag? key == some .value then g.putTag key .str else g

/-- The entries that several mappings contribute, each after its own merges. The first mapping wins,
so it comes last. -/
def contributedAll (mergeOwn : NodeId → Graph → Except Fault Graph) :
    List NodeId → Graph → Except Fault (List Entry × Graph)
  | [], g => .ok ([], g)
  | source :: rest, g =>
      match g.content? source with
      | some (.map _) => do
          let g ← mergeOwn source g
          let own := g.entries source
          let (others, g) ← contributedAll mergeOwn rest g
          return (others ++ own, g)
      | _ => .error .malformed

/-- The entries that a merged value contributes, which is a mapping or a list of mappings. -/
def contributed (mergeOwn : NodeId → Graph → Except Fault Graph) (source : NodeId) (g : Graph) :
    Except Fault (List Entry × Graph) :=
  match g.content? source with
  | some (.seq items) => contributedAll mergeOwn items g
  | _ => contributedAll mergeOwn [source] g

/-- All merges of a mapping, on top of entries that have been merged into it so far. Merged entries
come first, so the mapping's own entries win over them. Every merge key is carried out once, which
bounds the steps. -/
def mergeInto (merged : List Entry) (bound : Nat) (id : NodeId) (g : Graph) : Except Fault Graph :=
  match bound with
  | 0 => .ok g
  | bound + 1 =>
      let entries := g.entries id
      match g.takeMerge? entries with
      | none =>
          let settled := entries.foldl (fun g entry => g.settleKey entry.1) g
          .ok (settled.putEntries id (merged ++ entries))
      | some (source, rest) => do
          let (more, g) ← contributed (mergeInto [] bound) source (g.putEntries id rest)
          mergeInto (merged ++ more) bound id g

def merge (id : NodeId) (g : Graph) : Except Fault Graph :=
  mergeInto [] (g.mergeCount + 1) id g

end ClassAtlas.Yaml.Graph
