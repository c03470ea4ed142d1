import ContentQuery.Query

/-!
# ContentQuery.Expression

A query on one line, cut into the list of parts that `Query.parse` reads.

The line is a sequence of lexemes with separators between them. A lexeme is a string in double
quotes or a run of characters that are neither white space nor a quote. Such a run is a connective
if it is the word "and" or "or", in any letter case, and no quote follows. All lexemes between two
connectives make one condition, which is the stretch of the line from the first to the last of them.
-/

namespace ContentQuery.Expression

/-- The characters that may stand between lexemes. -/
def isSeparator (c : CodePoint) : Bool :=
  c = ' ' || c = '\t' || c = '\n' || c = '\r' || c.val = 0x0C

/-- The characters of a word. -/
def isWordPart (c : CodePoint) : Bool := c.isInk && c ≠ '"'

/-- The characters between quotes. -/
def isQuotable (c : CodePoint) : Bool := c ≠ '"'

/-- A lexeme, with the separators before it. -/
structure Lexeme where
  gap : Text
  body : Text
  /-- The connective that the lexeme is, if it is one. -/
  connective : Option Connective

/-- The stretch of the line that a lexeme takes. -/
def Lexeme.span (lexeme : Lexeme) : Text := lexeme.gap ++ lexeme.body

/-- The connective that a word is, given what follows the word. -/
def connective? (word after : Text) : Option Connective :=
  if after.head? = some ('"' : CodePoint) then none else Connective.ofWord? word

/-- The first lexeme of a line and the line after it. There is none at the end of the line, at white
space that is no separator, and at a quote that is never closed. -/
def next? (line : Text) : Option (Lexeme × Text) :=
  let gap := line.takeWhile isSeparator
  match line.dropWhile isSeparator with
  | [] => none
  | c :: rest =>
    if c = '"' then
      match rest.dropWhile isQuotable with
      | [] => none
      | close :: after => some (⟨gap, c :: rest.takeWhile isQuotable ++ [close], none⟩, after)
    else if c.isBlank then none
    else
      let word := c :: rest.takeWhile isWordPart
      let after := rest.dropWhile isWordPart
      some (⟨gap, word, connective? word after⟩, after)

/-- A lexeme and what follows it make up the line. -/
theorem span_append_of_next? {line after : Text} {lexeme : Lexeme}
    (h : next? line = some (lexeme, after)) : lexeme.span ++ after = line := by
  have hline := List.takeWhile_append_dropWhile (p := isSeparator) (l := line)
  unfold next? at h
  split at h
  · simp at h
  · rename_i c rest hdrop
    have hrest := fun p : CodePoint → Bool => List.takeWhile_append_dropWhile (p := p) (l := rest)
    split at h
    · split at h
      · simp at h
      · rename_i close tail hclose
        simp only [Option.some.injEq, Prod.mk.injEq] at h
        obtain ⟨rfl, rfl⟩ := h
        have hinner := hrest isQuotable
        rw [hclose] at hinner
        simpa [Lexeme.span, hdrop, hinner] using hline
    · split at h
      · simp at h
      · simp only [Option.some.injEq, Prod.mk.injEq] at h
        obtain ⟨rfl, rfl⟩ := h
        simpa [Lexeme.span, hdrop, hrest isWordPart] using hline

/-- A lexeme is never empty. -/
theorem body_ne_nil_of_next? {line after : Text} {lexeme : Lexeme}
    (h : next? line = some (lexeme, after)) : lexeme.body ≠ [] := by
  unfold next? at h
  split at h
  · simp at h
  · split at h
    · split at h
      · simp at h
      · simp only [Option.some.injEq, Prod.mk.injEq] at h
        obtain ⟨rfl, rfl⟩ := h
        simp
    · split at h
      · simp at h
      · simp only [Option.some.injEq, Prod.mk.injEq] at h
        obtain ⟨rfl, rfl⟩ := h
        simp

theorem length_lt_of_next? {line after : Text} {lexeme : Lexeme}
    (h : next? line = some (lexeme, after)) : after.length < line.length := by
  have hbody := List.length_pos_iff.mpr (body_ne_nil_of_next? h)
  have hline := congrArg List.length (span_append_of_next? h)
  simp only [Lexeme.span, List.length_append] at hline
  omega

/-- The lexemes of a line, and what is left of the line after the last one. -/
def lexemes (line : Text) : List Lexeme × Text :=
  match _h : next? line with
  | none => ([], line)
  | some (lexeme, after) =>
    let (others, rest) := lexemes after
    (lexeme :: others, rest)
termination_by line.length
decreasing_by exact length_lt_of_next? _h

/-- The column after a stretch of text that begins at `column`. Columns count code points from the
last line feed, from one on. -/
def advance (column : Nat) (s : Text) : Nat :=
  s.foldl (fun column (c : CodePoint) => if c = '\n' then 1 else column + 1) column

/-- The column at which the rest of a line, beginning at `column`, holds something other than
separators. -/
def stuckAt? (column : Nat) (rest : Text) : Option Nat :=
  if rest.all isSeparator then none else some (advance column (rest.takeWhile isSeparator))

/-- Cuts lexemes into parts. `column` is the column of the next lexeme's gap, `last` the column of
the connective before, `condition` the condition that has begun, and `rest` what follows the last
lexeme. A problem is given by its column: a connective where a condition has to begin, then what
follows the lexemes, then a connective without a condition after it. -/
def partsFrom (rest : Text) (column last : Nat) (condition : Option Text) :
    List Lexeme → Except Nat (List Text)
  | [] =>
    match stuckAt? column rest, condition with
    | some column, _ => .error column
    | none, some condition => .ok [condition]
    | none, none => .error last
  | lexeme :: others =>
    let start := advance column lexeme.gap
    let stop := advance start lexeme.body
    match condition, lexeme.connective with
    | none, some _ => .error start
    | none, none => partsFrom rest stop last (some lexeme.body) others
    | some condition, none => partsFrom rest stop last (some (condition ++ lexeme.span)) others
    | some condition, some connective => do
      let parts ← partsFrom rest stop start none others
      return condition :: connective.word :: parts

/-- Cuts a line into conditions and connectives; a blank line has none. -/
def split (line : Text) : Except SyntaxProblem (List Text) :=
  if line.all CodePoint.isBlank then .ok []
  else
    let (lexemes, rest) := lexemes line
    (partsFrom rest 1 1 none lexemes).mapError (.unsplittable · line)

end ContentQuery.Expression
