import ClassAtlas.Decimal.Limit
import ClassAtlas.Value

/-!
Checking document values against the shapes the program accepts. A check reports every issue it
meets, in the order of the fields, so checks combine as an applicative functor and not as a monad.
-/
namespace ClassAtlas

/-- A step into a value: a key given as text, or a number that is a list position or a key. -/
inductive Step where
  | name (key : String)
  | index (n : Int)
  deriving DecidableEq, Repr

/-- What is wrong with a value. -/
inductive Cause where
  | missing
  | notText
  | badEncoding
  | notList
  | notTuple
  | notMapping
  | notRecord
  | notAttributes
  | unknownMember
  | unknownLiteral
  | extraKey
  | invalidKey
  | tagMissing
  | tagInvalid
  | notTruth
  | unreadableTruth
  | recursionLoop
  deriving DecidableEq, Repr

/-- The stable code under which a cause is reported. -/
def Cause.code : Cause → String
  | .missing => "missing"
  | .notText => "string_type"
  | .badEncoding => "string_unicode"
  | .notList => "list_type"
  | .notTuple => "tuple_type"
  | .notMapping => "dict_type"
  | .notRecord => "model_type"
  | .notAttributes => "model_attributes_type"
  | .unknownMember => "enum"
  | .unknownLiteral => "literal_error"
  | .extraKey => "extra_forbidden"
  | .invalidKey => "invalid_key"
  | .tagMissing => "union_tag_not_found"
  | .tagInvalid => "union_tag_invalid"
  | .notTruth => "bool_type"
  | .unreadableTruth => "bool_parsing"
  | .recursionLoop => "recursion_loop"

structure Issue where
  location : List Step
  cause : Cause
  deriving DecidableEq, Repr

inductive Check (α : Type) where
  | pass (a : α)
  | fail (issues : List Issue)
  deriving Repr

namespace Check

variable {α β : Type}

def map (f : α → β) : Check α → Check β
  | pass a => pass (f a)
  | fail issues => fail issues

/-- The issues of both sides, the left ones first. -/
def both (f : Check (α → β)) (c : Check α) : Check β :=
  match f, c with
  | pass g, pass a => pass (g a)
  | pass _, fail issues => fail issues
  | fail issues, pass _ => fail issues
  | fail left, fail right => fail (left ++ right)

instance : Applicative Check where
  pure := pass
  map := map
  seq f c := both f (c ())

def refuse (cause : Cause) : Check α := fail [⟨[], cause⟩]

/-- Issues of a part are located from the whole. -/
def under (step : Step) : Check α → Check α
  | pass a => pass a
  | fail issues => fail (issues.map fun issue => { issue with location := step :: issue.location })

/-- A second check that only adds issues. -/
def alongside (c : Check α) (others : List Issue) : Check α :=
  match c, others with
  | pass a, [] => pass a
  | pass _, others => fail others
  | fail issues, others => fail (issues ++ others)

def toExcept : Check α → Except (List Issue) α
  | pass a => .ok a
  | fail issues => .error issues

abbrev Entries := List (Value × Value)

def required (key : String) (check : Value → Check α) (entries : Entries) : Check α :=
  match Value.field? key entries with
  | some v => (check v).under (.name key)
  | none => (refuse .missing).under (.name key)

def optional (key : String) (default : α) (check : Value → Check α) (entries : Entries) : Check α :=
  match Value.field? key entries with
  | some v => (check v).under (.name key)
  | none => pass default

def decoded? (content : List UInt8) : Option String :=
  String.fromUTF8? ⟨content.toArray⟩

/-- Bytes are accepted as the text they encode. -/
def text : Value → Check String
  | .str s => pass s
  | .bytes content => (decoded? content).elim (refuse .badEncoding) pass
  | _ => refuse .notText

def itemsFrom (check : Value → Check α) (index : Nat) : List Value → Check (List α)
  | [] => pass []
  | v :: rest =>
      List.cons <$> (check v).under (.index index) <*> itemsFrom check (index + 1) rest

/-- Tuples and sets are accepted as the list of their items. -/
def listOf (check : Value → Check α) (v : Value) : Check (List α) :=
  match v.opened with
  | .seq items | .tuple items | .set items => itemsFrom check 0 items
  | _ => refuse .notList

/-- A member of a closed list of words. -/
def word (table : List (String × α)) (cause : Cause) : Value → Check α
  | .str s => (table.lookup s).elim (refuse cause) pass
  | _ => refuse cause

/-- Whether a number fits into a signed word of 64 bits. -/
def isWord (n : Int) : Bool := -(Nat.pow 2 63) ≤ n && n < Nat.pow 2 63

/-- An integer as a key of a location; one that is not written is only described. -/
def integerStep (n : Int) : Step :=
  if isWord n then .index n
  else .name (if Decimal.isWritable n then toString n else "<unprintable int object>")

/-- How a key that is no text stands in a location. -/
def keyStep : Value → Step
  | .str s => .name s
  | .int n => integerStep n
  | .bool b => .index (if b then 1 else 0)
  | v => .name v.shown

/-- The keys outside a closed set of fields, in input order. -/
def strayKeys (fields : List String) : Entries → List Issue
  | [] => []
  | (key, _) :: rest =>
      let issue : List Issue := match key with
        | .str s => if fields.contains s then [] else [⟨[.name s], .extraKey⟩]
        | _ => [⟨[keyStep key], .invalidKey⟩]
      issue ++ strayKeys fields rest

/-- A record with a closed set of fields. -/
def closedRecord (fields : List String) (check : Entries → Check α) (v : Value) : Check α :=
  match v.opened with
  | .map entries => (check entries).alongside (strayKeys fields entries)
  | _ => refuse .notRecord

/-- The parts that a part is checked within, innermost first, of those that can hold one another.
An endless one goes by its number. -/
abbrev Nest := List (Option Nat)

def Nest.limit : Nat := 255

/-- A part is not checked within itself, nor at any depth. -/
def Nest.admits (nest : Nest) (number : Option Nat) : Bool :=
  nest.length < limit && (number.isNone || !nest.contains number)

def falseWords : List String := ["0", "off", "f", "false", "n", "no"]

def trueWords : List String := ["1", "on", "t", "true", "y", "yes"]

def truthOfNumber (n : Int) : Check Bool :=
  if n = 0 then pass false
  else if n = 1 then pass true
  else refuse (if isWord n then .unreadableTruth else .notTruth)

/-- A truth value: itself, one of the numbers 0 and 1, or one of twelve words in any case. -/
def truth : Value → Check Bool
  | .bool b => pass b
  | .int n => truthOfNumber n
  | .float x => x.toInt?.elim (refuse .notTruth) truthOfNumber
  | .str s =>
      if falseWords.contains s.toLower then pass false
      else if trueWords.contains s.toLower then pass true
      else refuse .unreadableTruth
  | _ => refuse .notTruth

end Check
end ClassAtlas
