import ClassAtlas.Yaml.Denotation

/-!
From the nodes of a document to its value. A node has a value as soon as all nodes it denotes have
one. What is left is endless: such a node is given to a depth below which no check looks, since it
would meet a node for the second time.
-/
namespace ClassAtlas.Yaml

namespace Denotation

/-- The value of a denotation, if the nodes it names have values. -/
def value? (given : NodeId → Option Value) : Denotation → Option Value
  | .key k => some k.value
  | .seq items => .seq <$> items.mapM given
  | .map entries => .map <$> entries.mapM fun (k, node) => (k.value, ·) <$> given node
  | .set members => some (.set (members.map (·.value)))
  | .pairs entries =>
      .seq <$> entries.mapM fun (k, v) => do return .tuple [← given k, ← given v]

end Denotation

namespace Unfolding

abbrev Known := Array (Option Denotation)

/-- The values found so far, by node. -/
abbrev Found := Array (Option Value)

def find (known : Known) (found : Found) (id : NodeId) : Found :=
  match (found[id]?).join, (known[id]?).join with
  | none, some d => found.setIfInBounds id (d.value? fun node => (found[node]?).join)
  | _, _ => found

/-- Inner nodes stand behind the nodes around them, so they are looked at first. -/
def pass (known : Known) (found : Found) : Found :=
  (List.range known.size).reverse.foldl (find known) found

/-- Passes are made until one finds nothing. -/
def passes (known : Known) : (bound : Nat) → Found → Found
  | 0, found => found
  | bound + 1, found =>
      let next := pass known found
      if next.countP (·.isSome) = found.countP (·.isSome) then found else passes known bound next

def finite (known : Known) : Found :=
  passes known (known.size + 1) (Array.replicate known.size none)

/-- The value of every node, endless ones to a number of levels. -/
def glimpse (known : Known) (found : Found) : (levels : Nat) → Array Value
  | 0 => found.mapIdx fun id v => v.getD (.endless id .null)
  | levels + 1 =>
      let inner := glimpse known found levels
      found.mapIdx fun id v =>
        match v, (known[id]?).join with
        | some v, _ => v
        | none, some d => .endless id ((d.value? (inner[·]?)).getD .null)
        | none, none => .null

/-- A check leads through at most sixteen collections and through each endless one and its list
of parts once. -/
def depth (found : Found) : Nat := 16 + 2 * found.countP (·.isNone)

/-- The value of a node. -/
def value (known : Known) (root : NodeId) : Value :=
  let found := finite known
  match (found[root]?).join with
  | some v => v
  | none => (glimpse known found (depth found)).getD root .null

end Unfolding
end ClassAtlas.Yaml
