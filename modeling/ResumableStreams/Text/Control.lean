namespace ResumableStreams
namespace Text

/-!
# Control characters

A terminal is told to change colours or to move by an escape, an opening
bracket, any number of parameters, and one letter.  Where no terminal shows a
text, such sequences are left out; anything that only begins like one stays.
-/

/-- A character that may stand between the bracket and the letter. -/
def isParameter (char : Char) : Bool := char.isDigit || char = ';' || char = '?'

/-- What follows a control sequence at the start of a text, if there is one. -/
def afterSequence : List Char -> Option (List Char)
  | '\x1b' :: '[' :: rest =>
    match rest.dropWhile isParameter with
    | letter :: rest => if letter.isAlpha then some rest else none
    | [] => none
  | _ => none

/-- Leave out all control sequences.  The limit is the length of the text. -/
def withoutSequencesFrom : (limit : Nat) -> List Char -> List Char
  | 0, chars => chars
  | _ + 1, [] => []
  | limit + 1, char :: rest =>
    match afterSequence (char :: rest) with
    | some rest => withoutSequencesFrom limit rest
    | none => char :: withoutSequencesFrom limit rest

def withoutSequences (text : String) : String :=
  String.ofList (withoutSequencesFrom text.length text.toList)

end Text
end ResumableStreams
