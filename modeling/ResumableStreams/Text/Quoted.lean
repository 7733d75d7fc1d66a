import ResumableStreams.Text.Printable

namespace ResumableStreams
namespace Text

/-!
# Quoted text

Messages show a path or a header between quotes.  The quotes are single ones,
unless the text holds a single quote and no double quote.  A backslash and
the quote in use are preceded by a backslash, line ends and tabs have their
letters, and any other character that is not printable is written by its
code point in two, four or eight hexadecimal digits.
-/

/-- The lower-case hexadecimal digit of a value below sixteen. -/
def hexDigit (value : Nat) : Char :=
  if value < 10 then Char.ofNat (48 + value) else Char.ofNat (87 + value)

/-- The last `width` hexadecimal digits of a number, most significant first. -/
def hexDigits : (width : Nat) -> (value : Nat) -> List Char
  | 0, _ => []
  | width + 1, value => hexDigits width (value / 16) ++ [hexDigit (value % 16)]

@[simp] theorem length_hexDigits (width value : Nat) : (hexDigits width value).length = width := by
  induction width generalizing value with
  | zero => rfl
  | succ width inductive_step => simp [hexDigits, inductive_step]

/-- The written form of one character between the given quotes. -/
def escape (quote char : Char) : List Char :=
  if char = quote || char = '\\' then ['\\', char]
  else if char = '\n' then ['\\', 'n']
  else if char = '\r' then ['\\', 'r']
  else if char = '\t' then ['\\', 't']
  else if isPrintable char then [char]
  else if char.toNat < 0x100 then '\\' :: 'x' :: hexDigits 2 char.toNat
  else if char.toNat < 0x10000 then '\\' :: 'u' :: hexDigits 4 char.toNat
  else '\\' :: 'U' :: hexDigits 8 char.toNat

/-- The quote that goes around a text. -/
def quoteFor (chars : List Char) : Char :=
  if chars.contains '\'' && !chars.contains '"' then '"' else '\''

/-- A text between quotes. -/
def quoted (text : String) : String :=
  let quote := quoteFor text.toList
  String.ofList (quote :: text.toList.flatMap (escape quote) ++ [quote])

end Text
end ResumableStreams
