import ClassAtlas.Yaml.Tag

/-!
The nodes of a YAML document. A node is referred to by its place in a table, so that an alias can
refer to the node that bears its anchor, even from within that node.
-/
namespace ClassAtlas.Yaml

/-- A place in the table of nodes. -/
abbrev NodeId := Nat

inductive Content where
  | scalar (text : String)
  | seq (items : List NodeId)
  | map (entries : List (NodeId × NodeId))
  deriving Repr

structure Node where
  tag : Tag
  content : Content
  deriving Repr

structure Graph where
  nodes : Array Node

namespace Graph

def empty : Graph := ⟨#[]⟩

def size (g : Graph) : Nat := g.nodes.size

def node? (g : Graph) (id : NodeId) : Option Node := g.nodes[id]?

/-- A new node stands behind all others. -/
def add (g : Graph) (n : Node) : Graph := ⟨g.nodes.push n⟩

def put (g : Graph) (id : NodeId) (n : Node) : Graph := ⟨g.nodes.setIfInBounds id n⟩

def content? (g : Graph) (id : NodeId) : Option Content := (g.node? id).map Node.content

def tag? (g : Graph) (id : NodeId) : Option Tag := (g.node? id).map Node.tag

/-- The entries of a mapping; other nodes have none. -/
def entries (g : Graph) (id : NodeId) : List (NodeId × NodeId) :=
  match g.node? id with
  | some ⟨_, .map entries⟩ => entries
  | _ => []

def putEntries (g : Graph) (id : NodeId) (entries : List (NodeId × NodeId)) : Graph :=
  match g.node? id with
  | some n => g.put id ⟨n.tag, .map entries⟩
  | none => g

def putTag (g : Graph) (id : NodeId) (tag : Tag) : Graph :=
  match g.node? id with
  | some n => g.put id ⟨tag, n.content⟩
  | none => g

theorem size_add (g : Graph) (n : Node) : (g.add n).size = g.size + 1 := by
  simp [size, add]

theorem node?_add_self (g : Graph) (n : Node) : (g.add n).node? g.size = some n := by
  simp [node?, add, size]

theorem size_put (g : Graph) (id : NodeId) (n : Node) : (g.put id n).size = g.size := by
  simp [size, put]

end Graph
end ClassAtlas.Yaml
