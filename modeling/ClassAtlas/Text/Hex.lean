/-! Hexadecimal digits, written in lower case and read in either case. -/
namespace ClassAtlas.Text.Hex

def digits : List Char := "0123456789abcdef".toList

def digit (n : Nat) : Char := digits.getD (n % 16) '0'

/-- The last `width` digits of a number. -/
def fixed : Nat → Nat → List Char
  | 0, _ => []
  | width + 1, n => fixed width (n / 16) ++ [digit n]

def value? (c : Char) : Option Nat :=
  if '0' ≤ c ∧ c ≤ '9' then some (c.toNat - '0'.toNat)
  else if 'a' ≤ c ∧ c ≤ 'f' then some (c.toNat - 'a'.toNat + 10)
  else if 'A' ≤ c ∧ c ≤ 'F' then some (c.toNat - 'A'.toNat + 10)
  else none

def isDigit (c : Char) : Bool := (value? c).isSome

/-- The number a digit string denotes; nothing if a character is no digit. -/
def number? (text : List Char) : Option Nat :=
  text.foldl (fun sofar c => do return 16 * (← sofar) + (← value? c)) (some 0)

theorem value?_digit (n : Nat) : value? (digit n) = some (n % 16) := by
  have each : ∀ m < 16, value? (digits.getD m '0') = some m := by decide
  exact each (n % 16) (Nat.mod_lt n (by omega))

/-- As many digits as are written, so much of the number is read back. -/
theorem number?_fixed (width n : Nat) : number? (fixed width n) = some (n % Nat.pow 16 width) := by
  induction width generalizing n with
  | zero => simp [fixed, number?, Nat.mod_one]
  | succ width ih =>
      have high := ih (n / 16)
      have whole : Nat.pow 16 (width + 1) = 16 * Nat.pow 16 width := Nat.pow_succ'
      unfold number? at high ⊢
      rw [fixed, List.foldl_append, high, List.foldl_cons, value?_digit, whole, Nat.mod_mul]
      simp [Nat.add_comm]

example : fixed 4 0xe9 = ['0', '0', 'e', '9'] := by decide
example : number? (fixed 4 0xbeef) = some 0xbeef := by decide

end ClassAtlas.Text.Hex
