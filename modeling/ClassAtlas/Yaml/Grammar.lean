import ClassAtlas.Yaml.Graph
import ClassAtlas.Yaml.Scalar.Pattern
import ClassAtlas.Yaml.Token.Basic

/-!
The grammar of YAML: which nodes the tokens of a document make. An alias refers to the node that
bears its anchor, which may still be open. Every reading step leaves fewer tokens, and its result
proves so.
-/
namespace ClassAtlas.Yaml.Grammar

/-- The nodes read so far, and those of them that bear anchors. -/
structure Stock where
  graph : Graph
  anchors : List (String × NodeId)

abbrev Handles := List (String × String)

def standardHandles : Handles := [("!", "!"), ("!!", Tag.standardRoot)]

/-- How deep collections may lie in one another. -/
def nestingLimit : Nat := 490

/-- The tag handles of a document, and how many collections a place lies in. -/
structure Scope where
  handles : Handles
  depth : Nat

/-- The place inside another collection. -/
def Scope.inner (s : Scope) : Except Fault Scope :=
  if s.depth < nestingLimit then .ok { s with depth := s.depth + 1 } else .error .tooDeep

/-- The result of a reading step that leaves fewer tokens than the bound. -/
structure Parsed (bound : Nat) (α : Type) where
  value : α
  stock : Stock
  rest : List Token
  fits : rest.length < bound

/-- What is written before the content of a node. -/
structure Marks where
  anchor : Option String
  tag : Option (Option String × String)

def Marks.blank : Marks := ⟨none, none⟩

def Marks.isEmpty (m : Marks) : Bool := m.anchor.isNone && m.tag.isNone

/-- Anchor and tag in either order, each at most once. -/
def marks : List Token → Marks × List Token
  | .anchor name :: .tag handle suffix :: rest => (⟨some name, some (handle, suffix)⟩, rest)
  | .anchor name :: rest => (⟨some name, none⟩, rest)
  | .tag handle suffix :: .anchor name :: rest => (⟨some name, some (handle, suffix)⟩, rest)
  | .tag handle suffix :: rest => (⟨none, some (handle, suffix)⟩, rest)
  | tokens => (⟨none, none⟩, tokens)

theorem marks_length_le (tokens : List Token) : (marks tokens).2.length ≤ tokens.length := by
  unfold marks
  split <;> simp <;> omega

theorem rest_lt_of_marks {tokens rest : List Token} {t : Token}
    (h : (marks tokens).2 = t :: rest) : rest.length < tokens.length := by
  have := marks_length_le tokens
  rw [h] at this
  exact this

theorem marks_length_lt {tokens : List Token} (h : (marks tokens).1.isEmpty = false) :
    (marks tokens).2.length < tokens.length := by
  unfold marks at *
  split <;> simp_all [Marks.isEmpty, Nat.add_assoc]

/-- The fault of a token that cannot stand where it does. -/
def unexpected : List Token → Fault
  | .fault f :: _ => f
  | _ => .malformed

/-- The full tag, if one is given; the single exclamation mark gives none. -/
def Marks.uri? (m : Marks) (scope : Scope) : Except Fault (Option String) :=
  match m.tag with
  | none => .ok none
  | some (none, suffix) => .ok (if suffix = "!" then none else some suffix)
  | some (some handle, suffix) =>
      match scope.handles.lookup handle with
      | none => .error .malformed
      | some root => .ok (if root ++ suffix = "!" then none else some (root ++ suffix))

def Marks.tagOr (m : Marks) (scope : Scope) (default : Tag) : Except Fault Tag := do
  return ((← m.uri? scope).map Tag.ofUri).getD default

/-- A quoted scalar is text, unless the exclamation mark lets its form decide. -/
def Marks.scalarTag (m : Marks) (scope : Scope) (text : String) (plain : Bool) :
    Except Fault Tag :=
  m.tagOr scope (if plain || m.tag.isSome then Pattern.tagOf text else .str)

/-- What is wrong with marks that a fault follows. A tag behind an anchor, or before one, is looked
up before the fault is met. -/
def Marks.interrupted (m : Marks) (scope : Scope) (f : Fault) : Fault :=
  if m.anchor.isNone then f
  else match m.uri? scope with
    | .ok _ => f
    | .error earlier => earlier

/-- A new node, which bears the anchor of its marks. -/
def Stock.add (s : Stock) (m : Marks) (n : Node) : Except Fault (NodeId × Stock) :=
  let id := s.graph.size
  match m.anchor with
  | none => .ok (id, { s with graph := s.graph.add n })
  | some name =>
      if (s.anchors.lookup name).isSome then .error .malformed
      else .ok (id, ⟨s.graph.add n, (name, id) :: s.anchors⟩)

/-- A scalar with its marks. -/
def Stock.addScalar (s : Stock) (m : Marks) (scope : Scope) (text : String) (plain : Bool) :
    Except Fault (NodeId × Stock) := do
  s.add m ⟨← m.scalarTag scope text plain, .scalar text⟩

/-- The node that is not written. -/
def Stock.addAbsent (s : Stock) : NodeId × Stock :=
  (s.graph.size, { s with graph := s.graph.add ⟨.null, .scalar ""⟩ })

/-- A collection is open until its content is known. -/
def Stock.addSeq (s : Stock) (m : Marks) (scope : Scope) : Except Fault (NodeId × Stock) := do
  s.add m ⟨← m.tagOr scope .seq, .seq []⟩

def Stock.addMap (s : Stock) (m : Marks) (scope : Scope) : Except Fault (NodeId × Stock) := do
  s.add m ⟨← m.tagOr scope .map, .map []⟩

def Stock.close (s : Stock) (id : NodeId) (content : Content) : Stock :=
  match s.graph.node? id with
  | some n => { s with graph := s.graph.put id ⟨n.tag, content⟩ }
  | none => s

def Stock.aliased (s : Stock) (name : String) : Except Fault NodeId :=
  match s.anchors.lookup name with
  | some id => .ok id
  | none => .error .malformed

/-- Where a node can stand: in block context or not, and as a sequence without indentation. -/
structure Position where
  block : Bool
  indentless : Bool

def Position.inBlock : Position := ⟨true, false⟩
def Position.mapping : Position := ⟨true, true⟩
def Position.inFlow : Position := ⟨false, false⟩

def startsWith (stops : List Token) : List Token → Bool
  | [] => false
  | t :: _ => stops.contains t

mutual

def node (scope : Scope) (at_ : Position) (stock : Stock) :
    (tokens : List Token) → Except Fault (Parsed tokens.length NodeId)
  | .alias name :: rest => do return ⟨← stock.aliased name, stock, rest, by simp⟩
  | tokens => do
      let m := (marks tokens).1
      match hr : (marks tokens).2 with
      | .scalar text plain :: rest =>
          have := rest_lt_of_marks hr
          let (id, stock) ← stock.addScalar m scope text plain
          return ⟨id, stock, rest, this⟩
      | .flowSeqStart :: rest =>
          have := rest_lt_of_marks hr
          let (id, stock) ← stock.addSeq m scope
          let items ← flowItems (← scope.inner) true stock rest
          have := items.fits
          return ⟨id, items.stock.close id (.seq items.value), items.rest, by omega⟩
      | .flowMapStart :: rest =>
          have := rest_lt_of_marks hr
          let (id, stock) ← stock.addMap m scope
          let entries ← flowEntries (← scope.inner) true stock rest
          have := entries.fits
          return ⟨id, entries.stock.close id (.map entries.value), entries.rest, by omega⟩
      | .blockSeqStart :: rest =>
          have := rest_lt_of_marks hr
          if !at_.block then throw .malformed
          let (id, stock) ← stock.addSeq m scope
          let items ← blockItems (← scope.inner) stock rest
          have := items.fits
          return ⟨id, items.stock.close id (.seq items.value), items.rest, by omega⟩
      | .blockMapStart :: rest =>
          have := rest_lt_of_marks hr
          if !at_.block then throw .malformed
          let (id, stock) ← stock.addMap m scope
          let entries ← blockEntries (← scope.inner) stock rest
          have := entries.fits
          return ⟨id, entries.stock.close id (.map entries.value), entries.rest, by omega⟩
      | .blockEntry :: rest =>
          have := rest_lt_of_marks hr
          if at_.indentless then
            let (id, stock) ← stock.addSeq m scope
            let scope ← scope.inner
            let first ← optionalNode scope .inBlock [.blockEntry, .key, .value, .blockEnd] stock rest
            have := first.fits
            let items ← moreItems scope first.stock first.rest
            have := items.fits
            return ⟨id, items.stock.close id (.seq (first.value :: items.value)), items.rest,
              by omega⟩
          else if hm : m.isEmpty = true then throw .malformed
          else
            let (id, stock) ← stock.addScalar m scope "" true
            return ⟨id, stock, .blockEntry :: rest, hr ▸ marks_length_lt (by simpa using hm)⟩
      | .fault f :: _ => throw (m.interrupted scope f)
      | rest =>
          if hm : m.isEmpty = true then throw .malformed
          else
            let (id, stock) ← stock.addScalar m scope "" true
            return ⟨id, stock, rest, hr ▸ marks_length_lt (by simpa using hm)⟩
termination_by tokens => 3 * tokens.length + 0

/-- A node, or the absent one before a token that ends its place. -/
def optionalNode (scope : Scope) (at_ : Position) (stops : List Token) (stock : Stock)
    (tokens : List Token) : Except Fault (Parsed (tokens.length + 1) NodeId) := do
  if startsWith stops tokens then
    let (id, stock) := stock.addAbsent
    return ⟨id, stock, tokens, by simp⟩
  else
    let read ← node scope at_ stock tokens
    have := read.fits
    return ⟨read.value, read.stock, read.rest, by omega⟩
termination_by 3 * tokens.length + 1

/-- Items of a block sequence up to its end. -/
def blockItems (scope : Scope) (stock : Stock) :
    (tokens : List Token) → Except Fault (Parsed tokens.length (List NodeId))
  | .blockEnd :: rest => .ok ⟨[], stock, rest, by simp⟩
  | .blockEntry :: rest => do
      let first ← optionalNode scope .inBlock [.blockEntry, .blockEnd] stock rest
      have := first.fits
      let items ← blockItems scope first.stock first.rest
      have := items.fits
      return ⟨first.value :: items.value, items.stock, items.rest, by simp at *; omega⟩
  | tokens => .error (unexpected tokens)
termination_by tokens => 3 * tokens.length + 0

/-- Further items of a sequence without indentation. -/
def moreItems (scope : Scope) (stock : Stock) :
    (tokens : List Token) → Except Fault (Parsed (tokens.length + 1) (List NodeId))
  | .blockEntry :: rest => do
      let first ← optionalNode scope .inBlock [.blockEntry, .key, .value, .blockEnd] stock rest
      have := first.fits
      let items ← moreItems scope first.stock first.rest
      have := items.fits
      return ⟨first.value :: items.value, items.stock, items.rest, by simp at *; omega⟩
  | tokens => .ok ⟨[], stock, tokens, by simp⟩
termination_by tokens => 3 * tokens.length + 0

/-- Entries of a block mapping up to its end; a key without value has an absent one. -/
def blockEntries (scope : Scope) (stock : Stock) :
    (tokens : List Token) → Except Fault (Parsed tokens.length (List (NodeId × NodeId)))
  | .blockEnd :: rest => .ok ⟨[], stock, rest, by simp⟩
  | .key :: rest => do
      let key ← optionalNode scope .mapping [.key, .value, .blockEnd] stock rest
      have := key.fits
      let value ← valueAfter scope .mapping [.key, .value, .blockEnd] key.stock key.rest
      have := value.fits
      let entries ← blockEntries scope value.stock value.rest
      have := entries.fits
      return ⟨(key.value, value.value) :: entries.value, entries.stock, entries.rest,
        by simp at *; omega⟩
  | tokens => .error (unexpected tokens)
termination_by tokens => 3 * tokens.length + 0

/-- The value behind a colon; without one it is absent. -/
def valueAfter (scope : Scope) (at_ : Position) (stops : List Token) (stock : Stock) :
    (tokens : List Token) → Except Fault (Parsed (tokens.length + 1) NodeId)
  | .value :: rest => do
      let read ← optionalNode scope at_ stops stock rest
      have := read.fits
      return ⟨read.value, read.stock, read.rest, by simp at *; omega⟩
  | tokens =>
      let (id, stock) := stock.addAbsent
      .ok ⟨id, stock, tokens, by simp⟩
termination_by tokens => 3 * tokens.length + 0

/-- Items of a flow sequence up to its end, from the first one or from the comma before the next.
A key in it makes a mapping of one entry. -/
def flowItems (scope : Scope) (first : Bool) (stock : Stock) :
    (tokens : List Token) → Except Fault (Parsed tokens.length (List NodeId))
  | .flowSeqEnd :: rest => .ok ⟨[], stock, rest, by simp⟩
  | .flowEntry :: rest => do
      if first then throw .malformed
      let items ← flowItem scope stock rest
      have := items.fits
      return ⟨items.value, items.stock, items.rest, by simp at *; omega⟩
  | tokens => do
      if !first then throw (unexpected tokens)
      flowItem scope stock tokens
termination_by tokens => 3 * tokens.length + 2

/-- An item of a flow sequence with those behind it. -/
def flowItem (scope : Scope) (stock : Stock) :
    (tokens : List Token) → Except Fault (Parsed tokens.length (List NodeId))
  | .flowSeqEnd :: rest => .ok ⟨[], stock, rest, by simp⟩
  | .key :: rest => do
      let (id, stock) ← stock.add .blank ⟨.map, .map []⟩
      let entry ← scope.inner
      let key ← optionalNode entry .inFlow [.value, .flowEntry, .flowSeqEnd] stock rest
      have := key.fits
      let value ← valueAfter entry .inFlow [.flowEntry, .flowSeqEnd] key.stock key.rest
      have := value.fits
      let stock := value.stock.close id (.map [(key.value, value.value)])
      let items ← flowItems scope false stock value.rest
      have := items.fits
      return ⟨id :: items.value, items.stock, items.rest, by simp at *; omega⟩
  | tokens => do
      let item ← node scope .inFlow stock tokens
      have := item.fits
      let items ← flowItems scope false item.stock item.rest
      have := items.fits
      return ⟨item.value :: items.value, items.stock, items.rest, by omega⟩
termination_by tokens => 3 * tokens.length + 1

/-- Entries of a flow mapping up to its end, from the first one or from the comma before the
next. A node without a colon is a key with an absent value. -/
def flowEntries (scope : Scope) (first : Bool) (stock : Stock) :
    (tokens : List Token) → Except Fault (Parsed tokens.length (List (NodeId × NodeId)))
  | .flowMapEnd :: rest => .ok ⟨[], stock, rest, by simp⟩
  | .flowEntry :: rest => do
      if first then throw .malformed
      let entries ← flowEntry scope stock rest
      have := entries.fits
      return ⟨entries.value, entries.stock, entries.rest, by simp at *; omega⟩
  | tokens => do
      if !first then throw (unexpected tokens)
      flowEntry scope stock tokens
termination_by tokens => 3 * tokens.length + 2

/-- An entry of a flow mapping with those behind it. -/
def flowEntry (scope : Scope) (stock : Stock) :
    (tokens : List Token) → Except Fault (Parsed tokens.length (List (NodeId × NodeId)))
  | .flowMapEnd :: rest => .ok ⟨[], stock, rest, by simp⟩
  | .key :: rest => do
      let key ← optionalNode scope .inFlow [.value, .flowEntry, .flowMapEnd] stock rest
      have := key.fits
      let value ← valueAfter scope .inFlow [.flowEntry, .flowMapEnd] key.stock key.rest
      have := value.fits
      let entries ← flowEntries scope false value.stock value.rest
      have := entries.fits
      return ⟨(key.value, value.value) :: entries.value, entries.stock, entries.rest,
        by simp at *; omega⟩
  | tokens => do
      let key ← node scope .inFlow stock tokens
      have := key.fits
      let (absent, stock) := key.stock.addAbsent
      let entries ← flowEntries scope false stock key.rest
      have := entries.fits
      return ⟨(key.value, absent) :: entries.value, entries.stock, entries.rest, by omega⟩
termination_by tokens => 3 * tokens.length + 1

end

end ClassAtlas.Yaml.Grammar
