import ContentQuery.Text
import ContentQuery.Text.Case.Table

/-!
# ContentQuery.Text.Case

Full lower-casing of a text by the rules of the Unicode standard.

One code point has a lower-case form of its own length almost always. The exceptions are the dotted
capital I, whose form is two code points long, and the capital sigma, whose form depends on its
neighbours: at the end of a word it is the final sigma.
-/

namespace ContentQuery

namespace Case

/-- The image of a number under the runs: the first run that reaches it decides. -/
def image? : List Run → Nat → Option Nat
  | [], _ => none
  | run :: rest, n =>
    if n ≤ run.last then
      if run.first ≤ n ∧ (n - run.first) % run.step = 0 then some (run.image + (n - run.first))
      else none
    else image? rest n

/-- Whether a letter of a cased script comes next, looking through what the rule ignores. -/
def precedesCased : Text → Bool
  | [] => false
  | c :: rest =>
    if caseIgnorable.has c.val then precedesCased rest else cased.has c.val

/-- The lower-case form of one code point, where its neighbours have no say. -/
def lowerOne (c : CodePoint) : Text :=
  if c.val < 0x80 then
    if 0x41 ≤ c.val ∧ c.val ≤ 0x5A then [.ofNat (c.val + 32)] else [c]
  else if c.val = 0x130 then ['i', .ofNat 0x307]
  else match image? lowerRuns c.val with
    | some n => [.ofNat n]
    | none => [c]

/-- Whether a cased letter stands before what follows `c`, given whether one stands before `c`. -/
def casedAfter (before : Bool) (c : CodePoint) : Bool :=
  if caseIgnorable.has c.val then before else cased.has c.val

/-- The lower-case form of a text that follows a cased letter, if `before` says so. -/
def lowerFrom (before : Bool) : Text → Text
  | [] => []
  | c :: rest =>
    if c.val = 0x3A3 then
      .ofNat (if before && !precedesCased rest then 0x3C2 else 0x3C3) :: lowerFrom true rest
    else lowerOne c ++ lowerFrom (casedAfter before c) rest

end Case

/-- The lower-case form of a text. -/
def Text.lower (s : Text) : Text := Case.lowerFrom false s

end ContentQuery
