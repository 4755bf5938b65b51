import ClassAtlas.Calendar
import ClassAtlas.Decimal.Shortest
import ClassAtlas.Text.Pieces
import ClassAtlas.Text.Quoted

/-!
Document values: what a document denotes before anything is asked of it. Mappings keep the order
of their entries; their keys are pairwise different in the sense of `Value.same`. A collection
that holds itself is given as far as it is ever looked into.
-/
namespace ClassAtlas

open Decimal (Binary64)

/-- An endless value is a collection that holds itself, or holds one that does. Its number tells
it from the others of its document. -/
inductive Value where
  | null
  | bool (b : Bool)
  | int (n : Int)
  | float (x : Binary64)
  | str (s : String)
  | bytes (content : List UInt8)
  | date (d : Date)
  | dateTime (t : DateTime)
  | seq (items : List Value)
  | map (entries : List (Value × Value))
  | set (items : List Value)
  | tuple (items : List Value)
  | endless (number : Nat) (v : Value)
  deriving Repr, Inhabited

namespace Value

/-- The number that a value counts as; a truth value counts as 0 or 1. -/
inductive Quantity where
  | exact (n : Int)
  | floating (x : Binary64)

def quantity? : Value → Option Quantity
  | .bool b => some (.exact (if b then 1 else 0))
  | .int n => some (.exact n)
  | .float x => some (.floating x)
  | _ => none

def Quantity.same : Quantity → Quantity → Bool
  | .exact m, .exact n => m == n
  | .exact m, .floating x | .floating x, .exact m => x.toInt? == some m
  | .floating x, .floating y => x.same y

def sameQuantity (v w : Value) : Bool :=
  match v.quantity?, w.quantity? with
  | some a, some b => a.same b
  | _, _ => false

mutual

/-- Equality of values: numbers compare by value whatever their form, mappings and sets
regardless of order. -/
def same : Value → Value → Bool
  | .null, .null => true
  | .str s, .str t => s == t
  | .bytes a, .bytes b => a == b
  | .date a, .date b => a == b
  | .dateTime a, .dateTime b => a.same b
  | .seq xs, .seq ys | .tuple xs, .tuple ys => sameItems xs ys
  | .set xs, .set ys => xs.length == ys.length && allIn xs ys
  | .map xs, .map ys => xs.length == ys.length && allEntriesIn xs ys
  | .endless a _, .endless b _ => a == b
  | v, w => sameQuantity v w

def sameItems : List Value → List Value → Bool
  | [], [] => true
  | x :: xs, y :: ys => same x y && sameItems xs ys
  | _, _ => false

def allIn : List Value → List Value → Bool
  | [], _ => true
  | x :: xs, ys => ys.any (same x) && allIn xs ys

def allEntriesIn : List (Value × Value) → List (Value × Value) → Bool
  | [], _ => true
  | (k, v) :: rest, ys => ys.any (fun entry => same k entry.1 && same v entry.2)
      && allEntriesIn rest ys

end

/-- A collection whose content is not repeated. -/
def folded : Value → String
  | .map _ => "\x7b...\x7d"
  | _ => "[...]"

mutual

/-- A value as it stands in messages, within endless ones given by their numbers. -/
def shownWithin (around : List Nat) : Value → String
  | .null => "None"
  | .bool true => "True"
  | .bool false => "False"
  | .int n => toString n
  | .float x => x.text
  | .str s => Text.quoted s
  | .bytes content => Text.Quoted.bytes content
  | .date d => d.shown
  | .dateTime t => t.shown
  | .seq items => Text.enclosed "[" "]" (shownItems around items)
  | .map entries => Text.enclosed "\x7b" "\x7d" (shownEntries around entries)
  | .set [] => "set()"
  | .set items => Text.enclosed "\x7b" "\x7d" (shownItems around items)
  | .tuple [item] => s!"({shownWithin around item},)"
  | .tuple items => Text.enclosed "(" ")" (shownItems around items)
  | .endless number v =>
      if around.contains number then v.folded else shownWithin (number :: around) v

def shownItems (around : List Nat) : List Value → List String
  | [] => []
  | v :: rest => shownWithin around v :: shownItems around rest

def shownEntries (around : List Nat) : List (Value × Value) → List String
  | [] => []
  | (k, v) :: rest =>
      s!"{shownWithin around k}: {shownWithin around v}" :: shownEntries around rest

end

/-- A value as it stands in messages. -/
def shown (v : Value) : String := v.shownWithin []

/-- Text stands bare; every other value as in messages. -/
def text : Value → String
  | .str s => s
  | v => v.shown

/-- Whether a value is of a kind that changes: a list, a mapping or a set. -/
def isMutable : Value → Bool
  | .seq _ | .map _ | .set _ => true
  | .endless _ v => isMutable v
  | _ => false

mutual

/-- Whether a value can be looked up: neither it nor an item of it is of a kind that changes. -/
def isKey : Value → Bool
  | .tuple items => areKeys items
  | .endless _ v => isKey v
  | v => !v.isMutable

def areKeys : List Value → Bool
  | [] => true
  | v :: rest => isKey v && areKeys rest

end

/-- The content of a value, endless or not. -/
def opened : Value → Value
  | .endless _ v => v
  | v => v

/-- The items of a list, if all of them are texts. -/
def texts? : List Value → Option (List String)
  | [] => some []
  | .str s :: rest => (s :: ·) <$> texts? rest
  | _ :: _ => none

/-- The value under a text key. -/
def field? (key : String) : List (Value × Value) → Option Value
  | [] => none
  | (.str k, v) :: rest => if k = key then some v else field? key rest
  | _ :: rest => field? key rest

end Value
end ClassAtlas
