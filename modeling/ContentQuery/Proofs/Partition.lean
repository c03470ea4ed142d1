import ContentQuery.Proofs.Lexemes
import ContentQuery.Proofs.Steps

/-!
# ContentQuery.Proofs.Partition

Which parts the lexemes of a line make up.

Lexemes that are no connectives make up a condition, as many as stand next to one another, and
conditions and connectives take turns. `split_eq_ok_iff` says that a line is cut into just the parts
that its lexemes make up.
-/

namespace ContentQuery.Expression

/-- The lexemes of one condition. -/
structure Group where
  first : Lexeme
  others : List Lexeme
  first_plain : first.connective = none
  others_plain : ∀ lexeme ∈ others, lexeme.connective = none

namespace Group

def lexemes (group : Group) : List Lexeme := group.first :: group.others

/-- The condition: the stretch of the line from the first lexeme to the last one. -/
def text (group : Group) : Text := group.first.body ++ group.others.flatMap Lexeme.span

theorem connective_eq_none {group : Group} {lexeme : Lexeme} (h : lexeme ∈ group.lexemes) :
    lexeme.connective = none := by
  rcases List.mem_cons.mp h with rfl | h
  · exact group.first_plain
  · exact group.others_plain lexeme h

theorem flatMap_span_lexemes (group : Group) :
    group.lexemes.flatMap Lexeme.span = group.first.gap ++ group.text := by
  rw [lexemes, List.flatMap_cons, text, Lexeme.span, List.append_assoc]

end Group

/-- Lexemes that make up parts: conditions with a connective between neighbours. -/
inductive MakeUp : List Lexeme → List Text → Prop
  | last (group : Group) : MakeUp group.lexemes [group.text]
  | link (group : Group) {lexeme : Lexeme} {connective : Connective} {later : List Lexeme}
      {parts : List Text} (hlexeme : lexeme.connective = some connective)
      (hlater : MakeUp later parts) :
      MakeUp (group.lexemes ++ lexeme :: later) (group.text :: connective.word :: parts)

theorem MakeUp.ne_nil {run : List Lexeme} {parts : List Text} (h : MakeUp run parts) :
    run ≠ [] := by
  cases h with
  | last group => exact List.cons_ne_nil _ _
  | link group => exact List.cons_ne_nil _ _

theorem MakeUp.parts_ne_nil {run : List Lexeme} {parts : List Text} (h : MakeUp run parts) :
    parts ≠ [] := by
  cases h <;> exact List.cons_ne_nil _ _

/-! ## Steps of the cutting -/

variable {rest : Text} {parts : List Text} {lexeme : Lexeme} {connective : Connective}

theorem stuckAt?_eq_none_iff (column : Nat) : stuckAt? column rest = none ↔ IsGap rest := by
  rw [stuckAt?, IsGap, ← List.all_eq_true]
  split <;> simp_all

theorem partsFrom_nil_eq_ok_iff {column last : Nat} {condition : Option Text} :
    partsFrom rest column last condition [] = .ok parts ↔
      IsGap rest ∧ ∃ begun, condition = some begun ∧ parts = [begun] := by
  rw [← stuckAt?_eq_none_iff column]
  cases hstuck : stuckAt? column rest <;> cases condition <;> simp [partsFrom, hstuck, eq_comm]

/-- A condition begins with a lexeme that is no connective. -/
theorem partsFrom_begin (h : lexeme.connective = none) (column last : Nat) (later : List Lexeme) :
    partsFrom rest column last none (lexeme :: later) =
      partsFrom rest (advance (advance column lexeme.gap) lexeme.body) last (some lexeme.body)
        later := by
  simp only [partsFrom, h]

/-- A lexeme that is no connective belongs to the condition that has begun. -/
theorem partsFrom_extend (h : lexeme.connective = none) (column last : Nat) (condition : Text)
    (later : List Lexeme) :
    partsFrom rest column last (some condition) (lexeme :: later) =
      partsFrom rest (advance (advance column lexeme.gap) lexeme.body) last
        (some (condition ++ lexeme.span)) later := by
  simp only [partsFrom, h]

/-- A connective ends the condition that has begun. -/
theorem partsFrom_connect (h : lexeme.connective = some connective) (column last : Nat)
    (condition : Text) (later : List Lexeme) :
    partsFrom rest column last (some condition) (lexeme :: later) = (do
      let parts ← partsFrom rest (advance (advance column lexeme.gap) lexeme.body)
        (advance column lexeme.gap) none later
      return condition :: connective.word :: parts) := by
  simp only [partsFrom, h]

/-- No condition begins with a connective. -/
theorem partsFrom_stray (h : lexeme.connective = some connective) (column last : Nat)
    (later : List Lexeme) :
    partsFrom rest column last none (lexeme :: later) = .error (advance column lexeme.gap) := by
  simp only [partsFrom, h]

/-! ## What the lexemes make up is cut out -/

theorem exists_partsFrom_append {others : List Lexeme}
    (hothers : ∀ lexeme ∈ others, lexeme.connective = none) (column last : Nat) (condition : Text)
    (later : List Lexeme) :
    ∃ column', partsFrom rest column last (some condition) (others ++ later) =
      partsFrom rest column' last (some (condition ++ others.flatMap Lexeme.span)) later := by
  induction others generalizing column condition with
  | nil => exact ⟨column, by rw [List.flatMap_nil, List.append_nil, List.nil_append]⟩
  | cons lexeme others ih =>
      obtain ⟨hlexeme, hothers⟩ := List.forall_mem_cons.mp hothers
      obtain ⟨column', h⟩ := ih hothers (advance (advance column lexeme.gap) lexeme.body)
        (condition ++ lexeme.span)
      refine ⟨column', ?_⟩
      rw [List.cons_append, partsFrom_extend hlexeme, h, List.flatMap_cons, List.append_assoc]

theorem exists_partsFrom_group (rest : Text) (group : Group) (column last : Nat)
    (later : List Lexeme) :
    ∃ column', partsFrom rest column last none (group.lexemes ++ later) =
      partsFrom rest column' last (some group.text) later := by
  obtain ⟨column', h⟩ := exists_partsFrom_append group.others_plain
    (advance (advance column group.first.gap) group.first.body) last group.first.body later
  exact ⟨column', (partsFrom_begin group.first_plain column last _).trans h⟩

theorem partsFrom_of_makeUp {run : List Lexeme} (h : MakeUp run parts) (hrest : IsGap rest)
    (column last : Nat) : partsFrom rest column last none run = .ok parts := by
  induction h generalizing column last with
  | last group =>
      obtain ⟨column', h⟩ := exists_partsFrom_group rest group column last []
      rw [List.append_nil] at h
      rw [h, partsFrom_nil_eq_ok_iff]
      exact ⟨hrest, group.text, rfl, rfl⟩
  | @link group lexeme connective later parts hlexeme _ ih =>
      obtain ⟨column', h⟩ := exists_partsFrom_group rest group column last
        (lexeme :: later)
      rw [h, partsFrom_connect hlexeme, ih]
      rfl

/-! ## What is cut out the lexemes make up -/

/-- The parts that lexemes make up after a condition that has begun. -/
inductive Continue (s : Text) : List Lexeme → List Text → Prop
  | last {others : List Lexeme} (hothers : ∀ lexeme ∈ others, lexeme.connective = none) :
      Continue s others [s ++ others.flatMap Lexeme.span]
  | link {others : List Lexeme} (hothers : ∀ lexeme ∈ others, lexeme.connective = none)
      {lexeme : Lexeme} {connective : Connective} {later : List Lexeme} {parts : List Text}
      (hlexeme : lexeme.connective = some connective) (hlater : MakeUp later parts) :
      Continue s (others ++ lexeme :: later)
        ((s ++ others.flatMap Lexeme.span) :: connective.word :: parts)

theorem Continue.nil (condition : Text) : Continue condition [] [condition] := by
  have h := Continue.last (s := condition) (List.forall_mem_nil _)
  rwa [List.flatMap_nil, List.append_nil] at h

/-- A connective ends a condition. -/
theorem Continue.connect (condition : Text) {later : List Lexeme}
    (hlexeme : lexeme.connective = some connective) (hlater : MakeUp later parts) :
    Continue condition (lexeme :: later) (condition :: connective.word :: parts) := by
  have h := Continue.link (s := condition) (List.forall_mem_nil _) hlexeme hlater
  rwa [List.flatMap_nil, List.append_nil, List.nil_append] at h

/-- A condition goes on with a lexeme that is no connective. -/
theorem Continue.cons {condition : Text} {run : List Lexeme}
    (hlexeme : lexeme.connective = none) (h : Continue (condition ++ lexeme.span) run parts) :
    Continue condition (lexeme :: run) parts := by
  have hcons {others : List Lexeme} (hothers : ∀ other ∈ others, other.connective = none) :
      ∀ other ∈ lexeme :: others, other.connective = none :=
    List.forall_mem_cons.mpr ⟨hlexeme, hothers⟩
  have htext (others : List Lexeme) : condition ++ lexeme.span ++ others.flatMap Lexeme.span =
      condition ++ (lexeme :: others).flatMap Lexeme.span := by
    rw [List.flatMap_cons, List.append_assoc]
  cases h with
  | last hothers =>
      rw [htext]
      exact .last (hcons hothers)
  | link hothers hconnective hlater =>
      rw [htext, ← List.cons_append]
      exact .link (hcons hothers) hconnective hlater

/-- A first lexeme and what continues it make up parts. -/
theorem Continue.makeUp {run : List Lexeme} (hlexeme : lexeme.connective = none)
    (h : Continue lexeme.body run parts) : MakeUp (lexeme :: run) parts := by
  cases h with
  | last hothers => exact .last ⟨lexeme, _, hlexeme, hothers⟩
  | link hothers hconnective hlater =>
      exact .link ⟨lexeme, _, hlexeme, hothers⟩ hconnective hlater

/-- The two states of the cutting go together: before a condition, and after one has begun. -/
theorem makeUp_and_continue_of_partsFrom (run : List Lexeme) :
    (∀ column last parts, partsFrom rest column last none run = .ok parts →
      IsGap rest ∧ MakeUp run parts) ∧
    ∀ column last condition parts, partsFrom rest column last (some condition) run = .ok parts →
      IsGap rest ∧ Continue condition run parts := by
  induction run with
  | nil =>
      constructor
      · intro column last parts h
        obtain ⟨-, begun, hbegun, -⟩ := partsFrom_nil_eq_ok_iff.mp h
        contradiction
      · intro column last condition parts h
        obtain ⟨hrest, begun, hbegun, rfl⟩ := partsFrom_nil_eq_ok_iff.mp h
        rw [← Option.some.inj hbegun]
        exact ⟨hrest, .nil condition⟩
  | cons lexeme run ih =>
      obtain ⟨hbefore, hbegun⟩ := ih
      constructor
      · intro column last parts h
        cases hlexeme : lexeme.connective with
        | some connective =>
            rw [partsFrom_stray hlexeme] at h
            contradiction
        | none =>
            rw [partsFrom_begin hlexeme] at h
            obtain ⟨hrest, hcontinue⟩ := hbegun _ _ _ _ h
            exact ⟨hrest, hcontinue.makeUp hlexeme⟩
      · intro column last condition parts h
        cases hlexeme : lexeme.connective with
        | some connective =>
            rw [partsFrom_connect hlexeme] at h
            obtain ⟨later, hlater, h⟩ := bind_eq_ok_iff.mp h
            obtain ⟨hrest, hmade⟩ := hbefore _ _ _ hlater
            rw [← Except.ok.inj h]
            exact ⟨hrest, .connect condition hlexeme hmade⟩
        | none =>
            rw [partsFrom_extend hlexeme] at h
            obtain ⟨hrest, hcontinue⟩ := hbegun _ _ _ _ h
            exact ⟨hrest, hcontinue.cons hlexeme⟩

/-- The parts of a line that is not blank are those of its lexemes. -/
theorem split_eq_of_isRun {line : Text} {run : List Lexeme}
    (hline : line.all CodePoint.isBlank = false) (hrun : IsRun line run rest) :
    split line = (partsFrom rest 1 1 none run).mapError (.unsplittable · line) := by
  rw [split, hline, if_neg Bool.false_ne_true, lexemes_eq_iff.mpr hrun]

/-- A line that is not blank is cut into parts exactly if its lexemes make them up, with separators
at most behind the last one. -/
theorem split_eq_ok_iff {line : Text} (hline : line.all CodePoint.isBlank = false) :
    split line = .ok parts ↔
      ∃ run rest, IsRun line run rest ∧ IsGap rest ∧ MakeUp run parts := by
  constructor
  · intro h
    have hrun := isRun_lexemes line
    rw [split_eq_of_isRun hline hrun] at h
    cases hparts : partsFrom (lexemes line).2 1 1 none (lexemes line).1 with
    | error column => rw [hparts] at h; contradiction
    | ok cut =>
        rw [hparts] at h
        obtain ⟨hrest, hmade⟩ := (makeUp_and_continue_of_partsFrom _).1 _ _ _ hparts
        exact ⟨_, _, hrun, hrest, Except.ok.inj h ▸ hmade⟩
  · rintro ⟨run, rest, hrun, hrest, hmade⟩
    rw [split_eq_of_isRun hline hrun, partsFrom_of_makeUp hmade hrest]
    rfl

end ContentQuery.Expression
