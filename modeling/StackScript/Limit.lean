/-! Limits on numbers and texts. Passes over documents do not meet them; places that come from
elsewhere can be any integers. -/
namespace StackScript

/-- Whether a number can be a position or a length: a signed word of 64 bits. -/
def isIndex (n : Int) : Bool :=
  -0x8000000000000000 ≤ n && n < 0x8000000000000000

/-- A limit that has been passed. -/
inductive Limit where
  | digits
  | index
  | memory
deriving DecidableEq, Repr

namespace Limit

/-- How many digits a number that is written in decimal may have. -/
def mostDigits : Nat := 4300

/-- How often a character may be repeated for the text to fit in memory. -/
def longestRun : Int := 0x40000000

def message : Limit → String
  | .digits =>
      "Exceeds the limit (" ++ toString mostDigits ++ " digits) for integer string conversion; "
        ++ "use sys.set_int_max_str_digits() to increase the limit"
  | .index => "cannot fit 'int' into an index-sized integer"
  | .memory => ""

/-- The limit that writing a number in decimal would pass. -/
def ofDecimal? (n : Int) : Option Limit :=
  if mostDigits < (toString n.natAbs).length then some .digits else none

/-- The limit that repeating a character would pass. A negative count gives no characters. -/
def ofRun? (count : Int) : Option Limit :=
  if isIndex count then if longestRun < count then some .memory else none else some .index

end Limit

end StackScript
