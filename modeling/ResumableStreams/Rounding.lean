namespace ResumableStreams
namespace Rounding

/-!
# Rounded proportions

A length is scaled by a proportion that is kept with 53 binary digits.  So the
proportion is rounded, and so is the product; only then is the fraction of
the product cut off.  The result can be one less than the exact product, even
where that is a whole number.
-/

/-- The whole number nearest to a quotient.  A half goes to the even one. -/
def nearest (number divisor : Nat) : Nat :=
  let quotient := number / divisor
  let twice := 2 * (number % divisor)
  if divisor < twice ∨ (twice = divisor ∧ quotient % 2 = 1) then quotient + 1 else quotient

/-- How many binary digits are kept. -/
def precision : Nat := 53

/-- The nearest number that needs no more binary digits than are kept. -/
def toPrecision (number : Nat) : Nat :=
  let unit := 1 <<< (number.log2 + 1 - precision)
  nearest number unit * unit

/-- A length times the proportion of two numbers, of which the first is not
the smaller. -/
def scaled (first second length : Nat) : Nat :=
  let places := precision - 1 - (first / second).log2
  toPrecision (nearest (first <<< places) second * length) >>> places

end Rounding
end ResumableStreams
