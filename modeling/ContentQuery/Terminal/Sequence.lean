import ContentQuery.Text

/-!
# ContentQuery.Terminal.Sequence

Control sequences, with which a text sets the colours of a terminal or moves its cursor. They are
left out of plain lines where the output is no terminal.
-/

namespace ContentQuery.Terminal

/-- Whether a code point can be a parameter of a control sequence. -/
def isParameter (c : CodePoint) : Bool := c.isDigit || c = ';' || c = '?'

/-- The escape character, with which control sequences begin. -/
def escapeCharacter : CodePoint := .ofNat 0x1B

/-- The length of the control sequence that a text begins with: the escape character, a bracket,
parameters and a letter. It is zero if the text begins with none. -/
def sequenceLength : Text → Nat
  | first :: second :: rest =>
    if first = escapeCharacter && second = '[' then
      let parameters := rest.takeWhile isParameter
      match rest.drop parameters.length with
      | last :: _ => if last.isLetter then parameters.length + 3 else 0
      | [] => 0
    else 0
  | _ => 0

/-- Leaves out control sequences; `covered` is the number of code points of the current sequence
that are still to come. -/
def withoutSequencesFrom (covered : Nat) : Text → Text
  | [] => []
  | c :: rest =>
    match covered with
    | more + 1 => withoutSequencesFrom more rest
    | 0 =>
      match sequenceLength (c :: rest) with
      | more + 1 => withoutSequencesFrom more rest
      | 0 => c :: withoutSequencesFrom 0 rest

/-- A text without control sequences. -/
def withoutSequences (s : Text) : Text := withoutSequencesFrom 0 s

end ContentQuery.Terminal
