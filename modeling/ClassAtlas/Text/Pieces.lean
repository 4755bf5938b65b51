/-!
Cutting text at a separator and joining it again. A text always has one piece more than it has
separators, so joining the pieces gives the text back.
-/
namespace ClassAtlas.Text

def pieces (separator : Char) : List Char → List (List Char)
  | [] => [[]]
  | c :: rest =>
      if c = separator then [] :: pieces separator rest
      else match pieces separator rest with
        | [] => [[c]]
        | piece :: others => (c :: piece) :: others

def joined (separator : List Char) : List (List Char) → List Char
  | [] => []
  | [piece] => piece
  | piece :: others => piece ++ separator ++ joined separator others

theorem pieces_ne_nil (separator : Char) (text : List Char) : pieces separator text ≠ [] := by
  cases text with
  | nil => simp [pieces]
  | cons c rest =>
      unfold pieces
      split
      · simp
      · split <;> simp

theorem joined_cons_cons (separator : List Char) (c : Char) (piece : List Char)
    (others : List (List Char)) :
    joined separator ((c :: piece) :: others) = c :: joined separator (piece :: others) := by
  cases others <;> simp [joined]

theorem joined_pieces (separator : Char) (text : List Char) :
    joined [separator] (pieces separator text) = text := by
  induction text with
  | nil => rfl
  | cons c rest ih =>
      unfold pieces
      split
      case isTrue h =>
        cases hp : pieces separator rest with
        | nil => exact absurd hp (pieces_ne_nil separator rest)
        | cons piece others => rw [hp] at ih; simp [joined, ih, h]
      case isFalse h =>
        cases hp : pieces separator rest with
        | nil => exact absurd hp (pieces_ne_nil separator rest)
        | cons piece others => rw [hp] at ih; simp [joined_cons_cons, ih]

/-- The texts in order with the separator between neighbours. -/
def separated (separator : String) (texts : List String) : String :=
  String.ofList (joined separator.toList (texts.map String.toList))

/-- A bracketed list with commas. -/
def enclosed (left right : String) (items : List String) : String :=
  left ++ separated ", " items ++ right

end ClassAtlas.Text
