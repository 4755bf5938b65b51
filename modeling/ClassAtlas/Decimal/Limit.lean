/-!
The greatest length of decimal integers. A longer one is refused where it is read, before any work
is done on it, and is not spelled out where an issue names it.
-/
namespace ClassAtlas.Decimal

def digitLimit : Nat := 4300

/-- Why so many digits are not read. -/
def readingReason (digits : Nat) : String :=
  "Exceeds the limit (" ++ toString digitLimit ++ " digits) for integer string conversion: "
    ++ "value has " ++ toString digits ++ " digits; "
    ++ "use sys.set_int_max_str_digits() to increase the limit"

/-- Whether an integer has no more digits than are written. -/
def isWritable (n : Int) : Bool := n.natAbs < Nat.pow 10 digitLimit

end ClassAtlas.Decimal
