import ClassAtlas.Text.LoweringTable

/-!
Upper-casing of single characters, which may lengthen the text (`ß` becomes `SS`), the test for
capitals, and lower-casing of texts, in which a sigma at the end of a word has a form of its own.
-/
namespace ClassAtlas.Text.Casing

def isCapital (c : Char) : Bool := capitals.any (·.contains c.toNat)

/-- The upper-case form of a character; a character without one stands for itself. -/
def upper (c : Char) : List Char :=
  match expanded.find? (·.1 == c.toNat) with
  | some (_, codes) => codes.map Char.ofNat
  | none =>
      match shifted.find? (·.1.contains c.toNat) with
      | some (_, distance) => [Char.ofNat (c.toNat + distance).toNat]
      | none => [c]

/-- Only the first character is raised; the rest is kept as it stands. -/
def capitalized : List Char → List Char
  | [] => []
  | c :: rest => upper c ++ rest

/-- The lower-case form of a character by itself. The dot of a dotted capital is kept. -/
def lower (c : Char) : List Char :=
  if c = 'İ' then ['i', '\u0307']
  else match lowered.find? (·.1.contains c.toNat) with
    | some (_, distance) => [Char.ofNat (c.toNat + distance).toNat]
    | none => [c]

def isCased (c : Char) : Bool := casedRuns.any (·.contains c.toNat)

def isTransparent (c : Char) : Bool :=
  transparentRanges.any fun range => range.1 ≤ c.toNat && c.toNat ≤ range.2

/-- Whether a letter comes next, marks and signs within a word apart. -/
def meetsLetter : List Char → Bool
  | [] => false
  | c :: rest => if isTransparent c then meetsLetter rest else isCased c

/-- The lower-case form of a text behind others, which are given from the nearest on. -/
def lowercaseAfter (before : List Char) : List Char → List Char
  | [] => []
  | c :: rest =>
      let form :=
        if c = 'Σ' then [if meetsLetter before && !meetsLetter rest then 'ς' else 'σ'] else lower c
      form ++ lowercaseAfter (c :: before) rest

def lowercase (text : List Char) : List Char := lowercaseAfter [] text

example : String.ofList (capitalized "straße".toList) = "Straße" := by decide
example : String.ofList (upper 'ß') = "SS" := by decide
example : String.ofList (lowercase "ΟΔΟΣ".toList) = "οδος" := by decide +kernel

end ClassAtlas.Text.Casing
