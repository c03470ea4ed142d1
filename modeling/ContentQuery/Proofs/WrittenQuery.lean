import ContentQuery.Proofs.Splitting
import ContentQuery.Proofs.WrittenLiteral

/-!
# ContentQuery.Proofs.WrittenQuery

Queries written on one line, with single spaces between paths, names of operations, literals and
words for connectives. Such a line is cut into its conditions and connectives, and these are read as
what was written.
-/

namespace ContentQuery

open Expression

/-! ## Conditions -/

/-- A condition as it is written. The path may be empty, and then it is left out. Otherwise it is a
word that is no name of an operation and no word for a connective. -/
structure WrittenCondition where
  path : Text
  operation : Operation
  literal : WrittenLiteral
  path_word : ∀ c ∈ path, c.isInk = true ∧ c ≠ quote
  path_unnamed : ∀ op : Operation, op.IsAllowed → path.lower ≠ op.name
  path_unconnected : ∀ connective : Connective, path.lower ≠ connective.word
  isAllowed : operation.IsAllowed

namespace WrittenCondition

/-- What stands after the path. -/
def claim (c : WrittenCondition) : Text := c.operation.name ++ Condition.space :: c.literal.text

def text (c : WrittenCondition) : Text :=
  if c.path = [] then c.claim else c.path ++ Condition.space :: c.claim

/-- What a condition stands for. -/
def condition (c : WrittenCondition) : Condition := ⟨c.path, c.operation, c.literal.value, c.text⟩

/-! ### Lexemes -/

theorem isWordPart_path (c : WrittenCondition) : ∀ d ∈ c.path, isWordPart d = true := fun d hd =>
  isWordPart_iff.mpr (c.path_word d hd)

theorem ofWord?_name (op : Operation) : Connective.ofWord? op.name = none := by
  obtain ⟨operator, insensitive⟩ := op
  cases operator <;> cases insensitive <;> rfl

theorem isWordPart_name (op : Operation) : ∀ c ∈ op.name, isWordPart c = true := by
  have hall : op.name.all isWordPart = true := by
    obtain ⟨operator, insensitive⟩ := op
    cases operator <;> cases insensitive <;> rfl
  exact List.all_eq_true.mp hall

/-- The lexemes of the operation and the literal, after separators. -/
def claimLexemes (c : WrittenCondition) (gap : Text) : List Lexeme :=
  [⟨gap, c.operation.name, none⟩, ⟨[Condition.space], c.literal.text, none⟩]

theorem isRun_claim (c : WrittenCondition) {gap after rest : Text} {run : List Lexeme}
    (hgap : IsGap gap) (hafter : EndsWord after) (hrun : IsRun after run rest) :
    IsRun (gap ++ (c.claim ++ after)) (c.claimLexemes gap ++ run) rest := by
  have hliteral := c.literal.endsBefore_text isGap_space hafter
  have hname := endsBefore_word hgap c.operation.name_ne_nil (isWordPart_name _)
    (endsWord_space (c.literal.text ++ after)) (ofWord?_name _)
  have hline := IsRun.step hname (.step hliteral hrun)
  simpa only [claim, claimLexemes, Lexeme.span, List.append_assoc, List.cons_append,
    List.nil_append] using hline

/-- The lexemes of a condition after separators. -/
def group (c : WrittenCondition) (gap : Text) : Group :=
  if c.path = [] then
    ⟨⟨gap, c.operation.name, none⟩, [⟨[Condition.space], c.literal.text, none⟩], rfl,
      List.forall_mem_singleton.mpr rfl⟩
  else ⟨⟨gap, c.path, none⟩, c.claimLexemes [Condition.space], rfl, by simp [claimLexemes]⟩

theorem text_group (c : WrittenCondition) (gap : Text) : (c.group gap).text = c.text := by
  unfold group text
  split
  · simp [Group.text, claim, Lexeme.span]
  · simp [Group.text, claim, claimLexemes, Lexeme.span]

theorem isRun_text (c : WrittenCondition) {gap after rest : Text} {run : List Lexeme}
    (hgap : IsGap gap) (hafter : EndsWord after) (hrun : IsRun after run rest) :
    IsRun (gap ++ (c.text ++ after)) ((c.group gap).lexemes ++ run) rest := by
  unfold group text
  split
  · exact c.isRun_claim hgap hafter hrun
  · next hpath =>
      have hclaim := c.isRun_claim isGap_space hafter hrun
      have hnone : Connective.ofWord? c.path = none :=
        Connective.ofWord?_eq_none_iff.mpr c.path_unconnected
      have hpath := endsBefore_word hgap hpath c.isWordPart_path
        (endsWord_space (c.claim ++ after)) hnone
      have hline := IsRun.step hpath hclaim
      simpa only [Group.lexemes, Lexeme.span, List.append_assoc, List.cons_append,
        List.nil_append] using hline

/-! ### Reading -/

theorem isConditionText_text (c : WrittenCondition) : IsConditionText c.text := by
  have hstop : IsRun [] [] [] := .stop rfl
  have hrun := c.isRun_text isGap_nil endsWord_nil hstop
  rw [← c.text_group []]
  exact Expression.isConditionText_text hrun hstop (by simp)

/-- The form of the condition: what stands before the operation is left out without a path. -/
def form (c : WrittenCondition) : Condition.Form where
  path := c.path
  space := if c.path = [] then [] else [Condition.space]
  word := c.operation.name
  operation := c.operation
  gap := [Condition.space]
  raw := c.literal.text
  path_isInk := fun d hd => (c.path_word d hd).1
  path_not_isNamed := fun ⟨op, hallowed, hname⟩ => c.path_unnamed op hallowed hname
  space_isBlank := by
    split
    · exact nofun
    · exact Condition.isBlank_space
  space_eq_nil_iff := by simp
  word_isInk := fun d hd => (Operation.isInk_and_isPlain_of_mem_name c.operation d hd).1
  isAllowed := c.isAllowed
  lower_word := c.operation.lower_name
  gap_isBlank := Condition.isBlank_space
  gap_ne_nil := List.cons_ne_nil _ _
  raw_beginsInk := c.literal.isInk_text.2.1
  raw_ne_nil := c.literal.isInk_text.1

theorem text_form (c : WrittenCondition) : c.form.text = c.text := by
  unfold text
  split
  · next hpath => exact c.form.text_of_path_eq_nil hpath
  · next hpath =>
      simp only [Condition.Form.text, form, if_neg hpath]
      rfl

/-- A condition is read as it was written. -/
theorem parse_text (c : WrittenCondition) : Condition.parse c.text = .ok c.condition := by
  have htrim : c.text.trim = c.text := c.isConditionText_text.trim_eq_self
  rw [c.form.parse_eq (c.text_form.trans htrim.symm), Condition.Form.condition, condition,
    ← c.literal.parse_text]
  rfl

theorem parseCondition_text (c : WrittenCondition) (index : Nat) :
    Query.parseCondition index c.text = .ok c.condition := by
  rw [c.isConditionText_text.parseCondition, c.parse_text]
  rfl

end WrittenCondition

/-! ## Queries -/

/-- A connective as it is written, in any letter case. -/
structure WrittenConnective where
  text : Text
  connective : Connective
  lower_text : text.lower = connective.word

/-- A query as it is written: a first condition and the conditions after it, each with the
connective before it. -/
structure WrittenQuery where
  first : WrittenCondition
  rest : List (WrittenConnective × WrittenCondition)

namespace WrittenQuery

/-- A connective and the condition after it, each with a space in front. -/
def linkText (link : WrittenConnective × WrittenCondition) : Text :=
  Condition.space :: (link.1.text ++ Condition.space :: link.2.text)

/-- The line. -/
def text (query : WrittenQuery) : Text := query.first.text ++ query.rest.flatMap linkText

/-- The conditions and connectives of the line. -/
def parts (query : WrittenQuery) : List Text :=
  query.first.text :: query.rest.flatMap fun link => [link.1.connective.word, link.2.text]

/-- What a query stands for. -/
def query (q : WrittenQuery) : Query :=
  .chain q.first.condition (q.rest.map fun link => (link.1.connective, link.2.condition))

theorem endsWord_flatMap (rest : List (WrittenConnective × WrittenCondition)) :
    EndsWord (rest.flatMap linkText) := by
  cases rest with
  | nil => exact endsWord_nil
  | cons link rest => exact endsWord_space _

/-- The lexemes of a line make up its conditions and connectives. -/
theorem exists_run (first : WrittenCondition) (rest : List (WrittenConnective × WrittenCondition))
    {gap : Text} (hgap : IsGap gap) :
    ∃ run, IsRun (gap ++ (text ⟨first, rest⟩)) run [] ∧ MakeUp run (parts ⟨first, rest⟩) := by
  induction rest generalizing first gap with
  | nil =>
      have hrun := first.isRun_text hgap (endsWord_flatMap []) (.stop rfl)
      rw [List.append_nil] at hrun
      refine ⟨_, hrun, ?_⟩
      rw [parts, List.flatMap_nil, ← first.text_group gap]
      exact .last (first.group gap)
  | cons link rest ih =>
      obtain ⟨⟨word, connective, hword⟩, second⟩ := link
      obtain ⟨run, hrun, hmade⟩ := ih second isGap_space
      have hends : Lexeme.EndsBefore ⟨[Condition.space], word, some connective⟩
          ([Condition.space] ++ text ⟨second, rest⟩) := by
        apply endsBefore_connective isGap_space hword
        · exact endsWord_space _
        · exact fun hquote => absurd (Option.some.inj hquote) (by decide)
      refine ⟨(first.group gap).lexemes ++ ⟨[Condition.space], word, some connective⟩ :: run,
        ?_, ?_⟩
      · have hlater : IsRun (((⟨word, connective, hword⟩, second) :: rest).flatMap linkText)
            (⟨[Condition.space], word, some connective⟩ :: run) [] := by
          have hline := IsRun.step hends hrun
          simpa only [text, List.flatMap_cons, linkText, Lexeme.span, List.append_assoc,
            List.cons_append, List.nil_append] using hline
        exact first.isRun_text hgap (endsWord_flatMap _) hlater
      · rw [parts, ← first.text_group gap]
        exact .link (first.group gap) rfl hmade

/-- A line of written conditions and connectives is cut into these. -/
theorem split_text (q : WrittenQuery) : split q.text = .ok q.parts := by
  obtain ⟨run, hrun, hmade⟩ := exists_run q.first q.rest isGap_nil
  exact (split_eq_ok_iff (hrun.not_all_isBlank hmade.ne_nil)).mpr ⟨run, [], hrun, isGap_nil, hmade⟩

theorem parseRest_links (rest : List (WrittenConnective × WrittenCondition)) (index : Nat) :
    Query.parseRest index (rest.flatMap fun link => [link.1.connective.word, link.2.text]) =
      .ok (rest.map fun link => (link.1.connective, link.2.condition)) := by
  induction rest generalizing index with
  | nil => rfl
  | cons link rest ih =>
      rw [List.flatMap_cons, List.cons_append, List.cons_append, List.nil_append, Query.parseRest,
        parseConnective_word, link.2.parseCondition_text, ih]
      rfl

theorem parse_parts (q : WrittenQuery) : Query.parse q.parts = .ok (some q.query) := by
  rw [parts, Query.parse, q.first.parseCondition_text, parseRest_links]
  rfl

end WrittenQuery

/-- A query written on one line is cut into its parts and read as the query that it stands for: with
the same paths, operations, values and connectives, in the same order. -/
theorem parse_split_written (q : WrittenQuery) :
    (split q.text >>= Query.parse) = .ok (some q.query) := by
  rw [q.split_text]
  exact q.parse_parts

namespace Sample

/-- A condition with a string in which there are two spaces and a word for a connective. -/
def stringCondition : WrittenCondition where
  path := "title"
  operation := ⟨.contains, true⟩
  literal := .string "this and  that" (by decide)
  path_word := fun c hc => isWordPart_iff.mp (List.all_eq_true.mp rfl c hc)
  path_unnamed := fun ⟨operator, insensitive⟩ _ => by
    cases operator <;> cases insensitive <;> decide
  path_unconnected := fun connective => by cases connective <;> decide
  isAllowed := by decide

/-- A condition without a path. -/
def numberCondition : WrittenCondition where
  path := []
  operation := ⟨.lessThan, false⟩
  literal := .number ⟨true, "1", some "50", rfl, by rintro _ ⟨⟩; rfl⟩
  path_word := List.forall_mem_nil _
  path_unnamed := fun ⟨operator, insensitive⟩ _ => by
    cases operator <;> cases insensitive <;> decide
  path_unconnected := fun connective => by cases connective <;> decide
  isAllowed := by decide

end Sample

/-- A line with two conditions, of which the second has no path. -/
theorem parse_split_written_of_mixed :
    (split "title contains-insensitive \"this and  that\" aNd lessthan -1.50" >>= Query.parse) =
      .ok (some (.chain
        ⟨"title", ⟨.contains, true⟩, .string "this and  that",
          "title contains-insensitive \"this and  that\""⟩
        [(.and, ⟨[], ⟨.lessThan, false⟩, .number (Decimal.toBinary64 ⟨true, 150, -2⟩),
          "lessthan -1.50"⟩)])) :=
  parse_split_written ⟨Sample.stringCondition, [(⟨"aNd", .and, rfl⟩, Sample.numberCondition)]⟩

end ContentQuery
