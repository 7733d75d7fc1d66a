namespace ResumableStreams
namespace Text

/-!
# Integers as text

An integer is written as digits with an optional sign before them and blanks
around it.  A single underscore may stand between two digits.  The digits of
any script count by their value, and the spaces of any script count as
blanks.  A run of more than 4300 digits is refused before anything after it
is looked at.  Nor is an integer with more digits than that ever written.
-/

/-- The zeros of the decimal digits of all scripts in the Unicode character
database, version 14.  Each is followed by its script's one to nine. -/
def decimalZeros : List Nat := [
  0x30, 0x660, 0x6f0, 0x7c0, 0x966, 0x9e6, 0xa66, 0xae6, 0xb66, 0xbe6, 0xc66, 0xce6, 0xd66,
  0xde6, 0xe50, 0xed0, 0xf20, 0x1040, 0x1090, 0x17e0, 0x1810, 0x1946, 0x19d0, 0x1a80, 0x1a90,
  0x1b50, 0x1bb0, 0x1c40, 0x1c50, 0xa620, 0xa8d0, 0xa900, 0xa9d0, 0xa9f0, 0xaa50, 0xabf0,
  0xff10, 0x104a0, 0x10d30, 0x11066, 0x110f0, 0x11136, 0x111d0, 0x112f0, 0x11450, 0x114d0,
  0x11650, 0x116c0, 0x11730, 0x118e0, 0x11950, 0x11c50, 0x11d50, 0x11da0, 0x16a60, 0x16ac0,
  0x16b50, 0x1d7ce, 0x1d7d8, 0x1d7e2, 0x1d7ec, 0x1d7f6, 0x1e140, 0x1e2f0, 0x1e950, 0x1fbf0]

/-- The value of a decimal digit of any script. -/
def digitValue (char : Char) : Option Nat :=
  (decimalZeros.find? fun first => first ≤ char.toNat && char.toNat ≤ first + 9).map
    fun first => char.toNat - first

/-- The blanks that may surround an integer.  The four separators from
0x1c to 0x1f are not among them. -/
def isBlank (char : Char) : Bool :=
  let code := char.toNat
  (9 ≤ code && code ≤ 13) || code = 0x20 || code = 0x85 || code = 0xa0 || code = 0x1680 ||
    (0x2000 ≤ code && code ≤ 0x200a) || code = 0x2028 || code = 0x2029 || code = 0x202f ||
    code = 0x205f || code = 0x3000

/-- The digits of a text of digits and single underscores between them. -/
def digitRun : List Char -> Option (List Nat)
  | [] => none
  | [last] => (digitValue last).map fun digit => [digit]
  | char :: '_' :: rest => do
    let digit <- digitValue char
    let digits <- digitRun rest
    pure (digit :: digits)
  | char :: rest => do
    let digit <- digitValue char
    let digits <- digitRun rest
    pure (digit :: digits)

/-- The number that decimal digits denote, most significant first. -/
def ofDigits (digits : List Nat) : Nat := digits.foldl (fun value digit => 10 * value + digit) 0

/-- The most digits an integer may have. -/
def digitLimit : Nat := 4300

/-- The least number with more digits.  It is never computed in a proof. -/
@[irreducible] def leastOverlong : Nat := Nat.pow 10 digitLimit

/-- An integer has no more digits than can be written. -/
def Writable (number : Int) : Prop := number.natAbs < leastOverlong

theorem lt_leastOverlong {number : Nat} (small : number < 1 <<< 63) : number < leastOverlong := by
  have few : 1 <<< 63 ≤ Nat.pow 10 19 := by decide
  have more : Nat.pow 10 19 ≤ leastOverlong := by
    unfold leastOverlong
    generalize digits : digitLimit = limit
    have enough : 19 ≤ limit := digits ▸ (by decide : 19 ≤ digitLimit)
    exact Nat.pow_le_pow_right (by decide) enough
  exact Nat.lt_of_lt_of_le small (Nat.le_trans few more)

theorem writable_of_lt {number : Int} (small : number.natAbs < 1 <<< 63) : Writable number :=
  lt_leastOverlong small

theorem Writable.of_le {number bound : Nat} (writable : Writable bound) (le : number ≤ bound) :
    Writable number :=
  Nat.lt_of_le_of_lt le writable

theorem not_writable_leastOverlong : ¬ Writable leastOverlong := by
  rw [Writable, Int.natAbs_natCast]
  exact Nat.lt_irrefl leastOverlong

/-- A number of few digits is not compared with the power. -/
instance (number : Int) : Decidable (Writable number) :=
  if small : number.natAbs < 1 <<< 63 then .isTrue (writable_of_lt small)
  else inferInstanceAs (Decidable (number.natAbs < leastOverlong))

/-- What is said of an integer that cannot be written. -/
def overlong : String :=
  s!"Exceeds the limit ({digitLimit} digits) for integer string conversion; " ++
    "use sys.set_int_max_str_digits() to increase the limit"

/-- A text that shows integers.  Where one of them cannot be written, that is all
that is said. -/
def showing (numbers : List Int) (text : String) : String :=
  if ∀ number ∈ numbers, Writable number then text else overlong

/-- What a text says when it is read as an integer. -/
inductive IntegerReading where
  | value (number : Int)
  | malformed
  | tooManyDigits (count : Nat)
  deriving DecidableEq

def readInteger (text : String) : IntegerReading :=
  let unblanked := text.toList.dropWhile isBlank
  let (negative, unsigned) := match unblanked with
    | '-' :: rest => (true, rest)
    | '+' :: rest => (false, rest)
    | rest => (false, rest)
  let inRun := fun char => char = '_' || (digitValue char).isSome
  match digitRun (unsigned.takeWhile inRun) with
  | none => .malformed
  | some digits =>
    if digits.length > digitLimit then .tooManyDigits digits.length
    else if (unsigned.dropWhile inRun).all isBlank then
      .value (if negative then -(ofDigits digits : Int) else ofDigits digits)
    else .malformed

end Text
end ResumableStreams
