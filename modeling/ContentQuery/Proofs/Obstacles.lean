import ContentQuery.Proofs.Scanning
import Mathlib.Order.Lattice.Nat

/-!
# ContentQuery.Proofs.Obstacles

Which lines cannot be cut into parts, and the column that is blamed for it.

A scan finds an obstacle at a place where there is nothing to take, and at a keyword where a
condition has to begin. The first obstacle is blamed, and if there is none, a keyword after which
nothing but separators comes.
-/

namespace ContentQuery.Expression

/-! ## What is an obstacle -/

/-- Whether a condition has to begin after a piece. After a keyword it has to, and after separators
as before them. -/
def Kind.opens (before : Bool) : Kind → Bool
  | separator => before
  | keyword => true
  | string => false
  | word => false

/-- Whether a condition has to begin after pieces. -/
def opensAfter (before : Bool) (taken : List Piece) : Bool :=
  taken.foldl (fun opens piece => piece.kind.opens opens) before

/-- Whether a line begins with a keyword. -/
def BeginsKeyword (line : Text) : Prop := ∃ word rest, line = word ++ rest ∧ IsKeyword word rest

/-- The columns at which a scan of a line finds an obstacle, if the line begins at a column and
`before` says whether a condition has to begin there. -/
def obstacles (column : Nat) (before : Bool) (line : Text) : Set Nat :=
  {place | ∃ taken rest, Scans line taken rest ∧ place = column + lengthOf taken ∧
    (IsStuck rest ∨ BeginsKeyword rest ∧ opensAfter before taken = true)}

/-- The columns of keywords after which there are only separators. -/
def openEnds (column : Nat) (line : Text) : Set Nat :=
  {place | ∃ taken word gap, Scans line (taken ++ ⟨.keyword, word⟩ :: gap) [] ∧
    (∀ piece ∈ gap, piece.kind = .separator) ∧ place = column + lengthOf taken}

variable {line rest text gap : Text} {kind : Kind} {lexeme : Lexeme} {column place last : Nat}
  {before : Bool}

/-! ## Obstacles, one piece after the other -/

/-- After a lexeme a condition has to begin exactly if it is a connective. -/
theorem Lexeme.opens_kind (lexeme : Lexeme) (before : Bool) :
    lexeme.kind.opens before = lexeme.connective.isSome := by
  have hkeyword := lexeme.kind_eq_keyword_iff
  have hseparator := lexeme.kind_ne_separator
  cases hkind : lexeme.kind <;> simp_all [Kind.opens]

/-- A piece is no obstacle, unless it is a keyword where a condition has to begin. -/
theorem obstacles_append (hpiece : Takes kind text line)
    (hclear : ¬ (kind = .keyword ∧ before = true)) :
    obstacles column before (text ++ line) =
      obstacles (column + text.length) (kind.opens before) line := by
  ext place
  constructor
  · rintro ⟨taken, rest, hscans, rfl, hobstacle⟩
    rcases (scans_append_iff hpiece).mp hscans with ⟨rfl, rfl⟩ | ⟨later, rfl, hlater⟩
    · exfalso
      rcases hobstacle with hstuck | ⟨⟨word, after, heq, hkeyword⟩, hopens⟩
      · exact hstuck.2 _ _ _ rfl hpiece
      · exact hclear ⟨(hpiece.unique (.keyword hkeyword) heq).1, hopens⟩
    · exact ⟨later, rest, hlater, by rw [lengthOf_cons, Nat.add_assoc], hobstacle⟩
  · rintro ⟨later, rest, hlater, rfl, hobstacle⟩
    exact ⟨_, rest, .step hpiece hlater, by rw [lengthOf_cons, Nat.add_assoc], hobstacle⟩

/-- An obstacle at the beginning of a line is the first one. -/
theorem isLeast_obstacles (h : IsStuck line ∨ BeginsKeyword line ∧ before = true) :
    IsLeast (obstacles column before line) column := by
  refine ⟨⟨[], line, .stop line, rfl, h⟩, ?_⟩
  rintro place ⟨taken, rest, -, rfl, -⟩
  exact Nat.le_add_right column _

theorem obstacles_nil : obstacles column before [] = ∅ := by
  rw [Set.eq_empty_iff_forall_notMem]
  rintro place ⟨taken, rest, hscans, -, hobstacle⟩
  obtain ⟨rfl, rfl⟩ := scans_nil_iff.mp hscans
  rcases hobstacle with ⟨hne, -⟩ | ⟨⟨word, rest, heq, hkeyword⟩, -⟩
  · contradiction
  · exact (Takes.keyword hkeyword).ne_nil (List.append_eq_nil_iff.mp heq.symm).1

/-- Separators are no obstacles, and a condition has to begin after them if it has to before. -/
theorem obstacles_gap (hgap : IsGap gap) : obstacles column before (gap ++ line) =
    obstacles (column + gap.length) before line := by
  induction gap generalizing column with
  | nil => rfl
  | cons c gap ih =>
      obtain ⟨hc, hgap⟩ := List.forall_mem_cons.mp hgap
      rw [List.length_cons, Nat.add_comm gap.length, ← Nat.add_assoc, ← ih hgap]
      exact obstacles_append (.separator (gap ++ line) hc) (by simp)

/-! ## Lines that end too early -/

/-- A keyword ends a line too early if only separators follow it. -/
theorem openEnds_append_iff (hpiece : Takes kind text line) :
    place ∈ openEnds column (text ++ line) ↔
      kind = .keyword ∧ IsGap line ∧ place = column ∨
        place ∈ openEnds (column + text.length) line := by
  constructor
  · rintro ⟨taken, word, gap, hscans, hgap, rfl⟩
    rcases (scans_append_iff hpiece).mp hscans with ⟨hnil, -⟩ | ⟨later, hlater, hothers⟩
    · exact absurd hnil (by simp)
    · cases taken with
      | nil =>
          obtain ⟨hpieces, rfl⟩ := List.cons.inj hlater
          obtain ⟨rfl, rfl⟩ := Piece.mk.inj hpieces
          exact .inl ⟨rfl, isGap_iff_exists_scans.mpr ⟨gap, hothers, hgap⟩, rfl⟩
      | cons first taken =>
          obtain ⟨rfl, rfl⟩ := List.cons.inj hlater
          exact .inr ⟨taken, word, gap, hothers, hgap, by rw [lengthOf_cons, Nat.add_assoc]⟩
  · rintro (⟨rfl, hline, rfl⟩ | ⟨taken, word, gap, hscans, hgap, rfl⟩)
    · obtain ⟨gap, hscans, hgap⟩ := isGap_iff_exists_scans.mp hline
      exact ⟨[], text, gap, .step hpiece hscans, hgap, rfl⟩
    · exact ⟨⟨kind, text⟩ :: taken, word, gap, .step hpiece hscans, hgap,
        by rw [lengthOf_cons, Nat.add_assoc]⟩

theorem openEnds_nil : openEnds column [] = ∅ := by
  rw [Set.eq_empty_iff_forall_notMem]
  rintro place ⟨taken, word, gap, hscans, -⟩
  exact absurd (scans_nil_iff.mp hscans).1 (by simp)

theorem openEnds_gap (hgap : IsGap gap) :
    openEnds column (gap ++ line) = openEnds (column + gap.length) line := by
  induction gap generalizing column with
  | nil => rfl
  | cons c gap ih =>
      obtain ⟨hc, hgap⟩ := List.forall_mem_cons.mp hgap
      rw [List.length_cons, Nat.add_comm gap.length, ← Nat.add_assoc, ← ih hgap]
      ext place
      have hfirst : place ∈ openEnds column ([c] ++ (gap ++ line)) ↔ _ :=
        openEnds_append_iff (.separator (gap ++ line) hc)
      simpa using hfirst

/-! ## What is blamed -/

/-- The column that is blamed for a line that cannot be cut: the first obstacle, or a keyword that
no condition follows. It may be the one in the column `last` before the line. -/
def Blames (column last : Nat) (before : Bool) (line : Text) (place : Nat) : Prop :=
  IsLeast (obstacles column before line) place ∨
    obstacles column before line = ∅ ∧
      (place ∈ openEnds column line ∨ before = true ∧ IsGap line ∧ place = last)

/-- A connective where a condition has to begin is the first obstacle. -/
theorem Lexeme.EndsBefore.isLeast_obstacles (h : lexeme.EndsBefore line)
    (hconnective : lexeme.connective.isSome = true) :
    IsLeast (obstacles column true (lexeme.span ++ line)) (column + lexeme.gap.length) := by
  have htakes := h.takes
  rw [lexeme.kind_eq_keyword_iff.mpr hconnective] at htakes
  rw [Lexeme.span, List.append_assoc, obstacles_gap h.isGap_gap]
  exact Expression.isLeast_obstacles (.inr ⟨⟨lexeme.body, line, rfl, htakes.isKeyword⟩, rfl⟩)

theorem blames_iff_of_isLeast (h : IsLeast (obstacles column before line) place) {other : Nat} :
    Blames column last before line other ↔ place = other := by
  constructor
  · rintro (hother | ⟨hnone, -⟩)
    · exact h.unique hother
    · exact absurd hnone h.nonempty.ne_empty
  · rintro rfl
    exact .inl h

/-- What is blamed after a lexeme that is no obstacle. -/
theorem blames_span_append_iff (hends : lexeme.EndsBefore line)
    (hclear : ¬ (lexeme.connective.isSome = true ∧ before = true)) (last' : Nat)
    (hlast : lexeme.connective.isSome = true → last' = column + lexeme.gap.length) :
    Blames column last before (lexeme.span ++ line) place ↔
      Blames (column + lexeme.span.length) last' lexeme.connective.isSome line place := by
  have hobstacles : obstacles column before (lexeme.span ++ line) =
      obstacles (column + lexeme.span.length) lexeme.connective.isSome line := by
    rw [← lexeme.kind_eq_keyword_iff] at hclear
    rw [Lexeme.span, List.append_assoc, obstacles_gap hends.isGap_gap,
      obstacles_append hends.takes hclear, lexeme.opens_kind, List.length_append, Nat.add_assoc]
  have hopenEnds : place ∈ openEnds column (lexeme.span ++ line) ↔
      lexeme.connective.isSome = true ∧ IsGap line ∧ place = column + lexeme.gap.length ∨
        place ∈ openEnds (column + lexeme.span.length) line := by
    rw [Lexeme.span, List.append_assoc, openEnds_gap hends.isGap_gap,
      openEnds_append_iff hends.takes, lexeme.kind_eq_keyword_iff, List.length_append,
      Nat.add_assoc]
  have hink : ¬ IsGap (lexeme.span ++ line) := by
    obtain ⟨c, body, hbody, hc⟩ := hends.exists_body_eq_cons
    intro hgap
    have hsep := hgap c (by simp [Lexeme.span, hbody])
    rw [isSeparator_of_isInk hc] at hsep
    contradiction
  unfold Blames
  rw [hobstacles, hopenEnds]
  simp only [hink, false_and, and_false, or_false]
  by_cases hsome : lexeme.connective.isSome = true
  · rw [hlast hsome, or_comm (a := place ∈ openEnds _ _)]
  · simp [hsome]

/-! ## Columns -/

/-- The character that begins a new line. -/
def lineFeed : CodePoint := '\n'

theorem advance_eq {s : Text} (h : lineFeed ∉ s) (column : Nat) :
    advance column s = column + s.length := by
  induction s generalizing column with
  | nil => rfl
  | cons c s ih =>
      rw [List.mem_cons, not_or] at h
      have hstep : advance column (c :: s) = advance (column + 1) s := by
        have hc : ¬ c = CodePoint.ofChar '\n' := Ne.symm h.1
        rw [advance, List.foldl_cons, if_neg hc]
        rfl
      rw [hstep, ih h.2, List.length_cons, Nat.add_assoc, Nat.add_comm 1]

theorem stuckAt?_eq_some (hrest : ¬ IsGap rest) (hfeed : lineFeed ∉ rest) (column : Nat) :
    stuckAt? column rest = some (column + (rest.takeWhile isSeparator).length) := by
  have hstuck : ¬ rest.all isSeparator = true := by rwa [List.all_eq_true]
  have htake : lineFeed ∉ rest.takeWhile isSeparator := fun hmem =>
    hfeed ((List.takeWhile_sublist isSeparator).subset hmem)
  rw [stuckAt?, if_neg hstuck, advance_eq htake]

/-- What is left after the last lexeme is to blame where the scan is stuck, and otherwise a keyword
before it. -/
theorem partsFrom_nil_eq_error_iff (hrest : next? rest = none) (hfeed : lineFeed ∉ rest)
    (column last : Nat) (condition : Option Text) :
    partsFrom rest column last condition [] = .error place ↔
      Blames column last condition.isNone rest place := by
  by_cases hgap : IsGap rest
  · have hobstacles : obstacles column condition.isNone rest = ∅ := by
      rw [← List.append_nil rest, obstacles_gap hgap, obstacles_nil]
    have hopenEnds : openEnds column rest = ∅ := by
      rw [← List.append_nil rest, openEnds_gap hgap, openEnds_nil]
    have hstuck : stuckAt? column rest = none := (stuckAt?_eq_none_iff column).mpr hgap
    unfold Blames
    rw [hobstacles, hopenEnds]
    cases condition with
    | none => simp [partsFrom, hstuck, hgap, IsLeast, eq_comm]
    | some condition => simp [partsFrom, hstuck, IsLeast]
  · have hleast : IsLeast (obstacles column condition.isNone rest)
        (column + (rest.takeWhile isSeparator).length) := by
      rw [← List.takeWhile_append_dropWhile (p := isSeparator) (l := rest),
        obstacles_gap fun c hc => List.mem_takeWhile_imp hc, List.takeWhile_append_dropWhile]
      exact isLeast_obstacles (.inl (isStuck_of_next? hrest hgap))
    have hcut : partsFrom rest column last condition [] =
        .error (column + (rest.takeWhile isSeparator).length) := by
      cases condition <;> simp [partsFrom, stuckAt?_eq_some hgap hfeed]
    rw [hcut, Except.error.injEq, blames_iff_of_isLeast hleast]

/-- The lexemes of a line are cut into parts, unless there is a place to blame in the line. -/
theorem partsFrom_eq_error_iff {run : List Lexeme} (hrun : IsRun line run rest)
    (hfeed : lineFeed ∉ line) (column last : Nat) (condition : Option Text) :
    partsFrom rest column last condition run = .error place ↔
      Blames column last condition.isNone line place := by
  induction hrun generalizing column last condition with
  | stop hrest => exact partsFrom_nil_eq_error_iff hrest hfeed column last condition
  | @step lexeme line rest others hends hothers ih =>
      rw [List.mem_append, not_or, Lexeme.span, List.mem_append, not_or] at hfeed
      obtain ⟨⟨hgap, hbody⟩, hline⟩ := hfeed
      have hcolumn : advance (advance column lexeme.gap) lexeme.body =
          column + lexeme.span.length := by
        rw [advance_eq hgap, advance_eq hbody, Lexeme.span, List.length_append, Nat.add_assoc]
      cases hlexeme : lexeme.connective with
      | none =>
          obtain ⟨begun, hstep⟩ : ∃ begun, partsFrom rest column last condition (lexeme :: others) =
              partsFrom rest (column + lexeme.span.length) last (some begun) others := by
            rw [← hcolumn]
            cases condition with
            | none => exact ⟨_, partsFrom_begin hlexeme column last others⟩
            | some condition => exact ⟨_, partsFrom_extend hlexeme column last condition others⟩
          rw [hstep, ih hline, blames_span_append_iff hends (by simp [hlexeme]) last
            (by simp [hlexeme]), hlexeme]
          rfl
      | some connective =>
          cases condition with
          | none =>
              rw [partsFrom_stray hlexeme, advance_eq hgap, Except.error.injEq]
              exact (blames_iff_of_isLeast (hends.isLeast_obstacles (by simp [hlexeme]))).symm
          | some condition =>
              -- The connective is the keyword before the line that the next condition begins.
              have hlast : advance column lexeme.gap = column + lexeme.gap.length :=
                advance_eq hgap column
              have hlater :=
                ih hline (column + lexeme.span.length) (column + lexeme.gap.length) none
              rw [partsFrom_connect hlexeme, hcolumn, hlast, Option.isNone_some,
                blames_span_append_iff hends (by simp) _ (fun _ => rfl), hlexeme]
              constructor
              · intro h
                rcases bind_eq_error_iff.mp h with h | ⟨parts, -, h⟩
                · exact hlater.mp h
                · contradiction
              · intro h
                exact bind_eq_error_iff.mpr (.inl (hlater.mpr h))

/-- A line that is not blank has to begin with a condition, and does not consist of separators. -/
theorem blames_iff (hline : line.all CodePoint.isBlank = false) :
    Blames 1 1 true line place ↔
      IsLeast (obstacles 1 true line) place ∨
        obstacles 1 true line = ∅ ∧ place ∈ openEnds 1 line := by
  have hink : ¬ IsGap line := fun hgap => by
    rw [List.all_eq_true.mpr fun c hc => isBlank_of_isSeparator (hgap c hc)] at hline
    contradiction
  simp only [Blames, hink, false_and, and_false, or_false]

theorem split_eq_error_iff (hline : line.all CodePoint.isBlank = false) (hfeed : lineFeed ∉ line)
    (problem : SyntaxProblem) :
    split line = .error problem ↔
      ∃ place, problem = .unsplittable place line ∧ Blames 1 1 true line place := by
  have hrun := isRun_lexemes line
  have hparts (place : Nat) : partsFrom (lexemes line).2 1 1 none (lexemes line).1 = .error place ↔
      Blames 1 1 true line place := partsFrom_eq_error_iff hrun hfeed 1 1 none
  rw [split_eq_of_isRun hline hrun]
  cases hcut : partsFrom (lexemes line).2 1 1 none (lexemes line).1 with
  | error column =>
      simp only [hcut, Except.error.injEq] at hparts
      simp [Except.mapError, ← hparts, eq_comm]
  | ok parts =>
      simp only [hcut, reduceCtorEq, false_iff] at hparts
      simp [Except.mapError, hparts]

/-- There is a place to blame, unless there are no obstacles and no keywords at the end. -/
theorem forall_not_blames_iff {found left : Set Nat} :
    (∀ place, ¬ (IsLeast found place ∨ found = ∅ ∧ place ∈ left)) ↔ found = ∅ ∧ left = ∅ := by
  constructor
  · intro h
    have hfound : found = ∅ := by
      rw [← Set.not_nonempty_iff_eq_empty]
      exact fun hne => h _ (.inl ⟨Nat.sInf_mem hne, fun _ => Nat.sInf_le⟩)
    refine ⟨hfound, ?_⟩
    rw [Set.eq_empty_iff_forall_notMem]
    exact fun place hplace => h place (.inr ⟨hfound, hplace⟩)
  · rintro ⟨rfl, rfl⟩ place (hleast | ⟨-, hplace⟩)
    · exact hleast.1
    · exact hplace

/-- A line that is not blank and has no line feeds cannot be cut exactly if a scan finds an
obstacle, or else if only separators follow a keyword; what is reported is the column of the first
obstacle or of this keyword. All other lines have parts. -/
theorem split_blames_first_obstacle (hline : line.all CodePoint.isBlank = false)
    (hfeed : lineFeed ∉ line) :
    (∀ problem, split line = .error problem ↔
      ∃ column, problem = .unsplittable column line ∧
        (IsLeast (obstacles 1 true line) column ∨
          obstacles 1 true line = ∅ ∧ column ∈ openEnds 1 line)) ∧
    ((∃ part parts, split line = .ok (part :: parts)) ↔
      obstacles 1 true line = ∅ ∧ openEnds 1 line = ∅) := by
  have herror := split_eq_error_iff hline hfeed
  simp only [blames_iff hline] at herror
  refine ⟨herror, ?_⟩
  rw [← forall_not_blames_iff]
  constructor
  · rintro ⟨part, parts, hok⟩ column hblamed
    have hcut := (herror _).mpr ⟨column, rfl, hblamed⟩
    rw [hok] at hcut
    contradiction
  · intro hnone
    cases hsplit : split line with
    | error problem =>
        obtain ⟨column, -, hblamed⟩ := (herror problem).mp hsplit
        exact absurd hblamed (hnone column)
    | ok parts =>
        obtain ⟨run, rest, -, -, hmade⟩ := (split_eq_ok_iff hline).mp hsplit
        obtain ⟨part, parts, rfl⟩ := List.exists_cons_of_ne_nil hmade.parts_ne_nil
        exact ⟨part, parts, rfl⟩

/-- A keyword at the beginning, a quote that is never closed, and a line that is cut into parts. -/
theorem split_blames_first_obstacle_of_lines :
    split "or b" = .error (.unsplittable 1 "or b") ∧
    split "\"a and b" = .error (.unsplittable 1 "\"a and b") ∧
    obstacles 1 true "a \"or\" and b" = ∅ ∧ openEnds 1 "a \"or\" and b" = ∅ := by
  have hkeyword : IsKeyword "or" " b" := ⟨⟨.or, rfl⟩, fun | _, rfl => rfl⟩
  have hstray : IsLeast (obstacles 1 true "or b") 1 :=
    isLeast_obstacles (.inr ⟨⟨_, _, rfl, hkeyword⟩, rfl⟩)
  have hunclosed : IsLeast (obstacles 1 true "\"a and b") 1 := by
    have hink : ¬ IsGap "\"a and b" := fun hgap => absurd (hgap quote (by decide)) (by decide)
    have hnext : next? "\"a and b" = none := by decide
    exact isLeast_obstacles (.inl (isStuck_of_next? hnext hink))
  have hcut : split "a \"or\" and b" = .ok ["a \"or\"", "and", "b"] := by
    set_option maxRecDepth 100000 in decide +kernel
  refine ⟨?_, ?_, ?_⟩
  · exact ((split_blames_first_obstacle (by decide) (by decide)).1 _).mpr ⟨1, rfl, .inl hstray⟩
  · exact ((split_blames_first_obstacle (by decide) (by decide)).1 _).mpr ⟨1, rfl, .inl hunclosed⟩
  · exact (split_blames_first_obstacle (by decide) (by decide)).2.mp ⟨_, _, hcut⟩

end ContentQuery.Expression
