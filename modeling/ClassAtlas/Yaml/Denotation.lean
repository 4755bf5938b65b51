import ClassAtlas.Yaml.Merge
import ClassAtlas.Yaml.Scalar.Meaning

/-!
What the nodes of a document denote. A collection denotes other nodes, so that one which holds
itself has a denotation as well. Nodes are looked at level by level: a scalar as soon as it is met,
the content of a collection after all that was met before it. The first fault met counts.
-/
namespace ClassAtlas.Yaml

/-- A value that can be a key. A computed number that is none equals no key but itself, which is
known by its node. -/
structure Key where
  value : Value
  only : Option NodeId
  deriving Repr

def Key.same (a b : Key) : Bool := a.only == b.only && a.value.same b.value

inductive Denotation where
  | key (k : Key)
  | seq (items : List NodeId)
  | map (entries : List (Key × NodeId))
  | set (members : List Key)
  | pairs (entries : List (NodeId × NodeId))
  deriving Repr

namespace Denotation

/-- The collection of a tag before its content has been looked at. -/
def hollow? : Tag → Option Denotation
  | .seq => some (.seq [])
  | .map => some (.map [])
  | .set => some (.set [])
  | .omap | .pairs => some (.pairs [])
  | _ => none

def key? : Denotation → Option Key
  | .key k => some k
  | _ => none

/-- An entry written over one with the same key keeps the place and the key of the first. -/
def putEntry (key : Key) (node : NodeId) : List (Key × NodeId) → List (Key × NodeId)
  | [] => [(key, node)]
  | (k, n) :: rest => if k.same key then (k, node) :: rest else (k, n) :: putEntry key node rest

def ofEntries (entries : List (Key × NodeId)) : Denotation :=
  .map (entries.foldl (fun kept (k, node) => putEntry k node kept) [])

def ofMembers (entries : List (Key × NodeId)) : Denotation :=
  match ofEntries entries with
  | .map kept => .set (kept.map (·.1))
  | other => other

end Denotation

namespace Graph

def isScalarTag : Tag → Bool
  | .null | .bool | .int | .float | .str | .binary | .timestamp => true
  | _ => false

/-- The text of a scalar. A mapping stands for the value of its `=` entry, of which there can be no
more in one another than there are nodes. -/
def scalarText (g : Graph) : (bound : Nat) → NodeId → Except Fault String
  | 0, _ => .error .tooDeep
  | bound + 1, id =>
      match g.content? id with
      | some (.scalar text) => .ok text
      | some (.map entries) =>
          match entries.find? fun entry => g.tag? entry.1 == some .value with
          | some (_, value) => g.scalarText bound value
          | none => .error .malformed
      | _ => .error .malformed

def isMapping (g : Graph) (id : NodeId) : Bool :=
  match g.content? id with
  | some (.map _) => true
  | _ => false

/-- The value of a node with the tag of a scalar; no other tag has one. -/
def scalarKey (g : Graph) (id : NodeId) (tag : Tag) : Except Fault Key := do
  if !isScalarTag tag then throw .malformed
  let text ← g.scalarText (g.size + 1) id
  if tag = .timestamp ∧ g.isMapping id then throw .noText
  let value ← Meaning.scalar tag text
  let isComputed := value matches .float .nan && !Meaning.namesNan text
  return ⟨value, if isComputed then some id else none⟩

end Graph

/-- What is known of the nodes of a graph, and the collections met whose content has not been
looked at, the last one first. -/
structure Survey where
  graph : Graph
  known : Array (Option Denotation)
  pending : List NodeId

namespace Survey

def start (g : Graph) : Survey := ⟨g, Array.replicate g.size none, []⟩

def known? (s : Survey) (id : NodeId) : Option Denotation := (s.known[id]?).join

def learn (s : Survey) (id : NodeId) (d : Denotation) : Survey :=
  { s with known := s.known.setIfInBounds id (some d) }

/-- A node is looked at once, however often it is met. -/
def meet (s : Survey) (id : NodeId) : Except Fault Survey :=
  match s.known? id, s.graph.tag? id with
  | some _, _ => .ok s
  | none, none => .error .malformed
  | none, some tag =>
      match Denotation.hollow? tag with
      | some d => .ok { s.learn id d with pending := id :: s.pending }
      | none => do return s.learn id (.key (← s.graph.scalarKey id tag))

/-- The key that a node met before denotes. -/
def keyOf (s : Survey) (id : NodeId) : Except Fault Key :=
  match (s.known? id).bind Denotation.key? with
  | some k => .ok k
  | none => .error .malformed

def meetEntries (s : Survey) : List (NodeId × NodeId) → Except Fault (List (Key × NodeId) × Survey)
  | [] => .ok ([], s)
  | (key, value) :: rest => do
      let s ← s.meet key
      let k ← s.keyOf key
      let (entries, s) ← (← s.meet value).meetEntries rest
      return ((k, value) :: entries, s)

/-- The items of an ordered mapping are mappings of one entry, whose key may be any node. -/
def meetPairs (s : Survey) : List NodeId → Except Fault (List (NodeId × NodeId) × Survey)
  | [] => .ok ([], s)
  | item :: rest => do
      let [(key, value)] := s.graph.entries item | throw .malformed
      let s ← (← s.meet key).meet value
      let (entries, s) ← s.meetPairs rest
      return ((key, value) :: entries, s)

/-- The entries of a mapping, merges carried out. -/
def meetMapping (s : Survey) (id : NodeId) : Except Fault (List (Key × NodeId) × Survey) := do
  let g ← s.graph.merge id
  { s with graph := g }.meetEntries (g.entries id)

/-- The content of a collection is looked at. It may not be what the tag promises. -/
def explore (s : Survey) (id : NodeId) : Except Fault Survey :=
  match s.graph.node? id with
  | some ⟨.seq, .seq items⟩ => do
      return (← items.foldlM meet s).learn id (.seq items)
  | some ⟨.omap, .seq items⟩ | some ⟨.pairs, .seq items⟩ => do
      let (entries, s) ← s.meetPairs items
      return s.learn id (.pairs entries)
  | some ⟨.map, .map _⟩ => do
      let (entries, s) ← s.meetMapping id
      return s.learn id (.ofEntries entries)
  | some ⟨.set, .map _⟩ => do
      let (entries, s) ← s.meetMapping id
      return s.learn id (.ofMembers entries)
  | _ => .error .malformed

/-- Level after level is explored; there are no more levels than nodes. -/
def complete (s : Survey) : (bound : Nat) → Except Fault Survey
  | 0 => .ok s
  | bound + 1 =>
      match s.pending with
      | [] => .ok s
      | last :: earlier => do
          let next ← (last :: earlier).reverse.foldlM explore { s with pending := [] }
          next.complete bound

/-- All nodes that a node leads to. -/
def ofRoot (g : Graph) (root : NodeId) : Except Fault Survey := do
  (← (start g).meet root).complete (g.size + 1)

end Survey
end ClassAtlas.Yaml
