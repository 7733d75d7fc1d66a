import ResumableStreams.Text.Integer

namespace ResumableStreams
namespace Text

/-!
# Numerals of a command line

A numeral is a whole number as it may be typed: blanks around it, one sign
before it, single underscores between digits, and a point after it that only
zeros follow.  The digits are those of ASCII.  Zeros at the start do not
count, and nor do underscores among them, so there is no limit to their
number.  A minus sign may also stand right behind such zeros; then no more
of them follow it, but an underscore may.
-/

/-- A text without the blanks around it. -/
def trimmed (chars : List Char) : List Char :=
  ((chars.dropWhile isBlank).reverse.dropWhile isBlank).reverse

/-- Only zeros follow a point, and at least one. -/
def isZeroFraction : List Char -> Bool
  | [] => false
  | zeros => zeros.all (· = '0')

/-- What stands before a point with zeros behind it, or everything where there
is no point. -/
def wholePart (chars : List Char) : Option (List Char) :=
  match chars.dropWhile (· ≠ '.') with
  | [] => some chars
  | _ :: fraction => if isZeroFraction fraction then some (chars.takeWhile (· ≠ '.')) else none

/-- What is left without the zeros at the start and the underscores among them.
Where nothing else is there, the last character is left. -/
def withoutPadding : List Char -> List Char
  | '0' :: rest =>
    match rest.dropWhile fun char => char = '0' || char = '_' with
    | [] => [rest.getLast?.getD '0']
    | counting => counting
  | chars => chars

/-- The number that digits denote.  They are not too many, and a zero at the
start stands alone. -/
def plainNumber (chars : List Char) : Option Nat := do
  let digits <- digitRun chars
  if digits.length > digitLimit ∨ (digits.head? = some 0 ∧ digits ≠ [0]) then none
  else some (ofDigits digits)

/-- The number that a numeral without a sign before it denotes. -/
def paddedNumber (chars : List Char) : Option Int :=
  match chars, withoutPadding chars with
  | '0' :: _, '-' :: '_' :: digits | '0' :: _, '-' :: digits =>
    (plainNumber digits).map fun number => -(number : Int)
  | _, digits => (plainNumber digits).map fun number => (number : Int)

def readNumeral (text : String) : Option Int := do
  let chars := trimmed text.toList
  match <- if chars.all (·.toNat < 0x80) then wholePart chars else none with
  | '-' :: chars => (plainNumber (withoutPadding chars)).map fun number => -(number : Int)
  | '+' :: chars | chars => paddedNumber chars

end Text
end ResumableStreams
