import ResumableStreams.Bytes
import ResumableStreams.Text.Quoted

namespace ResumableStreams
namespace Text

/-!
# Text as bytes

Text is encoded in UTF-8: a leading byte, whose value says how many bytes
follow it, and so many continuation bytes.  After some leading bytes the
first continuation byte has a narrower range, which excludes what would have
a shorter form, the surrogates, and numbers past the last code point.

Bytes are decoded piece by piece.  What is cut off at the end of a piece may
be completed by the next one, so only at the very end is it a fault.
-/

/-- What stands at the start of some bytes. -/
inductive Head where
  /-- A character, encoded in `size` bytes. -/
  | char (char : Char) (size : Nat)
  /-- The beginning of a character, or nothing. -/
  | cutOff
  /-- A byte that begins no character. -/
  | badStart
  /-- After `count` bytes of a character, a byte that does not go on with it. -/
  | badContinuation (count : Nat)
  deriving DecidableEq

/-- The number of continuation bytes that a leading byte calls for, and its
own share of the code point. -/
def leading (byte : UInt8) : Option (Nat × Nat) :=
  let value := byte.toNat
  if value < 0x80 then some (0, value)
  else if value < 0xc2 then none
  else if value < 0xe0 then some (1, value - 0xc0)
  else if value < 0xf0 then some (2, value - 0xe0)
  else if value < 0xf5 then some (3, value - 0xf0)
  else none

/-- The first byte after a leading one may go on with it. -/
def mayFollow (first byte : UInt8) : Bool :=
  let least := if first = 0xe0 then 0xa0 else if first = 0xf0 then 0x90 else 0x80
  let greatest := if first = 0xed then 0x9f else if first = 0xf4 then 0x8f else 0xbf
  least ≤ byte && byte ≤ greatest

/-- Take continuation bytes.  `read` bytes of the character have been read, the
first of them being `first`, and `value` is the code point so far. -/
def continueFrom (first : UInt8) : (missing : Nat) -> (read value : Nat) -> Bytes -> Head
  | 0, read, value, _ => .char (Char.ofNat value) read
  | _ + 1, _, _, [] => .cutOff
  | missing + 1, read, value, byte :: rest =>
    let fits := if read = 1 then mayFollow first byte else 0x80 ≤ byte && byte ≤ 0xbf
    if fits then continueFrom first missing (read + 1) (64 * value + (byte.toNat - 0x80)) rest
    else .badContinuation read

/-- What stands at the start of the given bytes. -/
def head : Bytes -> Head
  | [] => .cutOff
  | first :: rest =>
    match leading first with
    | none => .badStart
    | some (missing, value) => continueFrom first missing 1 value rest

/-- Why bytes encode no text: what stands at fault from position `start` on. -/
inductive EncodingFault where
  | badStart (byte : UInt8) (start : Nat)
  | badContinuation (byte : UInt8) (start count : Nat)
  | cutOff (byte : UInt8) (start count : Nat)
  deriving DecidableEq

/-- The wording of a fault that extends over `count` bytes, of which `byte` is
the first. -/
def EncodingFault.describe (byte : UInt8) (start count : Nat) (reason : String) : String :=
  if count = 1 then
    s!"'utf-8' codec can't decode byte 0x{String.ofList (hexDigits 2 byte.toNat)} in position " ++
      s!"{start}: {reason}"
  else
    s!"'utf-8' codec can't decode bytes in position {start}-{start + count - 1}: {reason}"

def EncodingFault.message : EncodingFault -> String
  | .badStart byte start => describe byte start 1 "invalid start byte"
  | .badContinuation byte start count => describe byte start count "invalid continuation byte"
  | .cutOff byte start count => describe byte start count "unexpected end of data"

/-- Two bytes of what would be a surrogate.  They are a fault, but it is not
noticed before a third byte, or the end, has come. -/
def startsSurrogate : Bytes -> Bool
  | [first, second] => first = 0xed && 0xa0 ≤ second && second ≤ 0xbf
  | _ => false

/-- Decode bytes from position `start` on.  Characters that are complete are
given, newest first, together with the bytes left over.  `atEnd` tells that
nothing follows the bytes. -/
def decodeFrom (atEnd : Bool) :
    (limit start : Nat) -> Bytes -> List Char -> Except EncodingFault (List Char × Bytes)
  | 0, _, bytes, chars => .ok (chars, bytes)
  | _ + 1, _, [], chars => .ok (chars, [])
  | limit + 1, start, first :: rest, chars =>
    match head (first :: rest) with
    | .char char size =>
      decodeFrom atEnd limit (start + size) ((first :: rest).drop size) (char :: chars)
    | .cutOff =>
      if atEnd then .error (.cutOff first start (rest.length + 1))
      else .ok (chars, first :: rest)
    | .badStart => .error (.badStart first start)
    | .badContinuation count =>
      if !atEnd && startsSurrogate (first :: rest) then .ok (chars, first :: rest)
      else .error (.badContinuation first start count)

/-- Decode bytes: the characters that are complete, and the bytes left over. -/
def decode (atEnd : Bool) (bytes : Bytes) : Except EncodingFault (List Char × Bytes) :=
  (decodeFrom atEnd bytes.length 0 bytes []).map fun (chars, rest) => (chars.reverse, rest)

/-! ## Line ends -/

/-- Read a carriage return, alone or before a line feed, as a line feed. -/
def unifyLineEnds : List Char -> List Char
  | [] => []
  | '\r' :: '\n' :: rest => '\n' :: unifyLineEnds rest
  | '\r' :: rest => '\n' :: unifyLineEnds rest
  | char :: rest => char :: unifyLineEnds rest

end Text
end ResumableStreams
