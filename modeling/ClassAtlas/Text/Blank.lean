/-!
Blanks of all scripts: the six of ASCII, and those beyond it, among them the separators of lines
and paragraphs.
-/
namespace ClassAtlas.Text

def isPlainBlank (c : Char) : Bool :=
  c == ' ' || c == '\t' || c == '\n' || c == '\r' || c == '\x0b' || c == '\x0c'

/-- The blanks beyond ASCII, as closed ranges in ascending order. -/
def wideBlanks : List (Nat × Nat) :=
  [(0x85, 0x85), (0xA0, 0xA0), (0x1680, 0x1680), (0x2000, 0x200A), (0x2028, 0x2029),
    (0x202F, 0x202F), (0x205F, 0x205F), (0x3000, 0x3000)]

def isWideBlank (c : Char) : Bool :=
  wideBlanks.any fun range => range.1 ≤ c.toNat && c.toNat ≤ range.2

/-- A text without the plain blanks around it. -/
def trimmed (text : List Char) : List Char :=
  ((text.dropWhile isPlainBlank).reverse.dropWhile isPlainBlank).reverse

end ClassAtlas.Text
