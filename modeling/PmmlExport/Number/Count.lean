/-!
# Reading counts

A count is written in decimal digits, optionally after a plus sign, and must not exceed a
bound. The text is read from the left and the first fault met is the one reported: the empty
text, a sign alone or a character that is not a digit, and a value beyond the bound.
-/

namespace PmmlExport.Number

/-- Why a text is not a count. -/
inductive CountFault
  /-- The text is empty. -/
  | empty
  /-- A sign stands alone, or a character is not a decimal digit. -/
  | invalidDigit
  /-- The value exceeds the bound. -/
  | tooLarge
  deriving DecidableEq, Repr

/-- The message of a count fault. -/
def CountFault.message : CountFault → String
  | .empty => "cannot parse integer from empty string"
  | .invalidDigit => "invalid digit found in string"
  | .tooLarge => "number too large to fit in target type"

/-- The largest count of a 64-bit machine word. -/
def wordBound : Nat := Nat.pow 2 64 - 1

/-- Read decimal digits onto `acc`, refusing a non-digit and a value beyond `bound`. -/
def readDigits (bound : Nat) (acc : Nat) : List Char → Except CountFault Nat
  | [] => .ok acc
  | c :: cs =>
    if c.isDigit then
      let v := acc * 10 + (c.toNat - '0'.toNat)
      if v > bound then .error .tooLarge else readDigits bound v cs
    else .error .invalidDigit

/-- Read a count no larger than `bound`. -/
def readCount (bound : Nat) (s : String) : Except CountFault Nat :=
  match s.toList with
  | [] => .error .empty
  | ['+'] => .error .invalidDigit
  | ['-'] => .error .invalidDigit
  | '+' :: ds => readDigits bound 0 ds
  | ds => readDigits bound 0 ds

end PmmlExport.Number
