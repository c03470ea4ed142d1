import ContentQuery.Proofs.ConnectiveWord
import ContentQuery.Proofs.Partition

/-!
# ContentQuery.Proofs.Layout

How the parts that a line is cut into stand in the line.

A layout is a line taken apart: conditions and words for connectives as they are written, with the
separators between them. Every line that is cut into parts has a layout with these parts, so
nothing of the line gets lost but separators and the letter case of connectives, and the parts fit
the reader of queries: it finds nothing wrong with them but a condition.
-/

namespace ContentQuery.Expression

/-- What a condition that is cut out of a line is like as a text. -/
structure IsConditionText (s : Text) : Prop where
  begins : ∃ c ∈ s.head?, c.isInk = true
  ends : ∃ c ∈ s.getLast?, c.isInk = true
  quotes : Even (s.count quote)
  not_connective : ∀ connective : Connective, s.lower ≠ connective.word

/-- A connective in a line, with the condition after it. -/
structure Link where
  /-- The separators before the word. -/
  space : Text
  /-- The word for the connective, as it is written. -/
  word : Text
  connective : Connective
  /-- The separators after the word. -/
  gap : Text
  condition : Text
  isGap_space : IsGap space
  lower_word : word.lower = connective.word
  isGap_gap : IsGap gap
  isConditionText : IsConditionText condition

/-- A line taken apart. -/
structure Layout where
  gap : Text
  condition : Text
  links : List Link
  tail : Text
  isGap_gap : IsGap gap
  isConditionText : IsConditionText condition
  isGap_tail : IsGap tail

/-- The stretch of a line from the end of one condition to the end of the next one. -/
def Link.text (link : Link) : Text := link.space ++ link.word ++ link.gap ++ link.condition

/-- The parts that a connective and the condition after it make. -/
def Link.parts (link : Link) : List Text := [link.connective.word, link.condition]

namespace Layout

/-- The line. -/
def text (layout : Layout) : Text :=
  layout.gap ++ layout.condition ++ layout.links.flatMap Link.text ++ layout.tail

/-- The parts of the line. -/
def parts (layout : Layout) : List Text := layout.condition :: layout.links.flatMap Link.parts

/-- Whether a connective of the layout is the given word, with the given text before and after
it. -/
def HasConnective (layout : Layout) (before word after : Text) : Prop :=
  ∃ front link back, layout.links = front ++ link :: back ∧
    before = layout.gap ++ layout.condition ++ front.flatMap Link.text ++ link.space ∧
    word = link.word ∧
    after = link.gap ++ link.condition ++ back.flatMap Link.text ++ layout.tail

/-- The layout of a line with a single condition. -/
def single {gap condition tail : Text} (hgap : IsGap gap) (hcondition : IsConditionText condition)
    (htail : IsGap tail) : Layout :=
  ⟨gap, condition, [], tail, hgap, hcondition, htail⟩

theorem text_single {gap condition tail : Text} (hgap : IsGap gap)
    (hcondition : IsConditionText condition) (htail : IsGap tail) :
    (single hgap hcondition htail).text = gap ++ condition ++ tail := by
  simp only [text, single, List.flatMap_nil, List.append_nil]

theorem not_hasConnective_single {gap condition tail : Text} (hgap : IsGap gap)
    (hcondition : IsConditionText condition) (htail : IsGap tail) (before word after : Text) :
    ¬ (single hgap hcondition htail).HasConnective before word after := by
  rintro ⟨front, link, back, hlinks, -⟩
  exact absurd hlinks.symm (by simp [single])

/-- The layout of a line with one more condition in front. -/
def cons (layout : Layout) {gap condition space word : Text} {connective : Connective}
    (hgap : IsGap gap) (hcondition : IsConditionText condition) (hspace : IsGap space)
    (hword : word.lower = connective.word) : Layout where
  gap
  condition
  links := ⟨space, word, connective, layout.gap, layout.condition, hspace, hword, layout.isGap_gap,
    layout.isConditionText⟩ :: layout.links
  tail := layout.tail
  isGap_gap := hgap
  isConditionText := hcondition
  isGap_tail := layout.isGap_tail

section

variable (layout : Layout) {gap condition space word : Text} {connective : Connective}
  (hgap : IsGap gap) (hcondition : IsConditionText condition) (hspace : IsGap space)
  (hword : word.lower = connective.word)

theorem text_cons : (layout.cons hgap hcondition hspace hword).text =
    gap ++ condition ++ space ++ word ++ layout.text := by
  simp only [text, cons, List.flatMap_cons, Link.text, List.append_assoc]

theorem parts_cons : (layout.cons hgap hcondition hspace hword).parts =
    condition :: connective.word :: layout.parts := rfl

theorem hasConnective_cons_iff {before word' after : Text} :
    (layout.cons hgap hcondition hspace hword).HasConnective before word' after ↔
      (before = gap ++ condition ++ space ∧ word' = word ∧ after = layout.text) ∨
      ∃ before', before = gap ++ condition ++ space ++ word ++ before' ∧
        layout.HasConnective before' word' after := by
  constructor
  · rintro ⟨front, link, back, hlinks, rfl, rfl, rfl⟩
    rcases List.cons_eq_append_iff.mp hlinks with ⟨rfl, hlink⟩ | ⟨front, rfl, hlinks⟩
    · obtain ⟨rfl, rfl⟩ := List.cons.inj hlink
      exact .inl ⟨by simp only [cons, List.flatMap_nil, List.append_nil], rfl, rfl⟩
    · have hlater := (List.cons.inj hlinks).2
      refine .inr ⟨_, ?_, front, link, back, hlater, rfl, rfl, rfl⟩
      simp only [cons, List.flatMap_cons, Link.text, List.append_assoc]
  · rintro (⟨rfl, rfl, rfl⟩ | ⟨_, rfl, front, link, back, hlinks, rfl, rfl, rfl⟩)
    · exact ⟨[], _, layout.links, rfl,
        by simp only [cons, List.flatMap_nil, List.append_nil], rfl, rfl⟩
    · refine ⟨_ :: front, link, back, congrArg (_ :: ·) hlinks, ?_, rfl, rfl⟩
      simp only [cons, List.flatMap_cons, Link.text, List.append_assoc]

end

end Layout

/-! ## Runs of lexemes -/

namespace IsRun

variable {line rest : Text} {run : List Lexeme}

theorem of_append {front back : List Lexeme} (h : IsRun line (front ++ back) rest) :
    ∃ line', line = front.flatMap Lexeme.span ++ line' ∧ IsRun line' back rest := by
  induction front generalizing line with
  | nil => exact ⟨line, rfl, h⟩
  | cons lexeme front ih =>
      cases h with
      | step hlexeme hothers =>
          obtain ⟨line', rfl, hback⟩ := ih hothers
          exact ⟨line', by rw [List.flatMap_cons, List.append_assoc], hback⟩

theorem exists_endsBefore (h : IsRun line run rest) {lexeme : Lexeme} (hmem : lexeme ∈ run) :
    ∃ after, lexeme.EndsBefore after := by
  obtain ⟨front, back, rfl⟩ := List.append_of_mem hmem
  obtain ⟨line', -, hback⟩ := h.of_append
  cases hback with
  | step hlexeme _ => exact ⟨_, hlexeme⟩

end IsRun

namespace Lexeme.EndsBefore

variable {lexeme : Lexeme} {after : Text}

/-- A word for a connective, with no quote after it. -/
theorem of_connective {connective : Connective} (h : lexeme.EndsBefore after)
    (hlexeme : lexeme.connective = some connective) :
    lexeme.body.lower = connective.word ∧ EndsWord after ∧ after.head? ≠ some quote := by
  cases h with
  | quoted => contradiction
  | @word gap word _ hgap hne hword hafter =>
      have hread : connective? word after = some connective := hlexeme
      unfold connective? at hread
      split at hread
      · contradiction
      · next hhead => exact ⟨Connective.ofWord?_eq_some_iff.mp hread, hafter, hhead⟩

/-- A lexeme that is no connective is no word for one, if no quote stands after it. -/
theorem lower_ne_word (h : lexeme.EndsBefore after) (hlexeme : lexeme.connective = none)
    (hafter : after.head? ≠ some quote) (connective : Connective) :
    lexeme.body.lower ≠ connective.word := by
  revert connective
  rw [← Connective.ofWord?_eq_none_iff]
  cases h with
  | quoted => exact ofWord?_eq_none_of_mem (c := quote) List.mem_cons_self rfl
  | word =>
      rw [connective?] at hlexeme
      exact (if_neg hafter).symm.trans hlexeme

end Lexeme.EndsBefore

variable {line rest : Text} {run : List Lexeme} {parts : List Text}

/-- Of two neighbouring lexemes at least one is quoted, or there is a separator between them. -/
theorem exists_not_isWordPart {first other : Lexeme} (h : IsRun line (first :: other :: run) rest) :
    ∃ c ∈ first.body ++ other.span, isWordPart c = false := by
  cases h with
  | step hfirst hothers =>
      cases hothers with
      | @step _ line' _ _ hother _ =>
          cases hfirst with
          | quoted => exact ⟨quote, by simp, rfl⟩
          | word _ _ _ hafter =>
              obtain ⟨c, span, hspan, hink⟩ := hother.exists_body_eq_cons
              cases hgap : other.gap with
              | cons d gap =>
                  refine ⟨d, by simp [Lexeme.span, hgap], ?_⟩
                  exact isWordPart_of_isSeparator
                    (hother.isGap_gap d (hgap ▸ List.mem_cons_self))
              | nil =>
                  refine ⟨c, by simp [Lexeme.span, hspan], hafter c ?_⟩
                  rw [Lexeme.span, hgap, hspan]
                  rfl

/-- A connective does not begin with a quote. -/
theorem head?_ne_quote {lexeme : Lexeme} {connective : Connective}
    (h : IsRun line (lexeme :: run) rest) (hlexeme : lexeme.connective = some connective) :
    line.head? ≠ some quote := by
  cases h with
  | step hends _ =>
      have hword := isWordPart_of_lower_eq_word (hends.of_connective hlexeme).1
      obtain ⟨c, body, hbody, -⟩ := hends.exists_body_eq_cons
      intro hhead
      cases hgap : lexeme.gap with
      | cons d gap =>
          rw [Lexeme.span, hgap, List.cons_append, List.cons_append, List.head?_cons,
            Option.some.injEq] at hhead
          have hsep := hends.isGap_gap d (hgap ▸ List.mem_cons_self)
          rw [hhead] at hsep
          contradiction
      | nil =>
          rw [Lexeme.span, hgap, hbody, List.nil_append, List.cons_append, List.head?_cons,
            Option.some.injEq] at hhead
          have hpart := hword c (hbody ▸ List.mem_cons_self)
          rw [hhead] at hpart
          contradiction

theorem even_count_span {lexeme : Lexeme} {after : Text} (h : lexeme.EndsBefore after) :
    Even (lexeme.span.count quote) := by
  rw [Lexeme.span, List.count_append]
  exact h.isGap_gap.even_count.add h.even_count_body

theorem even_count_flatMap_span (h : ∀ lexeme ∈ run, ∃ after, lexeme.EndsBefore after) :
    Even ((run.flatMap Lexeme.span).count quote) := by
  induction run with
  | nil => exact Even.zero
  | cons lexeme run ih =>
      obtain ⟨⟨after, hlexeme⟩, hrun⟩ := List.forall_mem_cons.mp h
      rw [List.flatMap_cons, List.count_append]
      exact (even_count_span hlexeme).add (ih hrun)

/-- The lexemes of a condition make up a text like a condition's, if no quote stands after them. -/
theorem isConditionText_text {group : Group} {later : List Lexeme} {after : Text}
    (h : IsRun line (group.lexemes ++ later) rest) (hafter : IsRun after later rest)
    (hquote : after.head? ≠ some quote) : IsConditionText group.text := by
  have hmem (lexeme : Lexeme) (hlexeme : lexeme ∈ group.lexemes) :
      ∃ after, lexeme.EndsBefore after := h.exists_endsBefore (List.mem_append_left _ hlexeme)
  obtain ⟨_, hfirst⟩ := hmem group.first List.mem_cons_self
  constructor
  · obtain ⟨c, body, hbody, hink⟩ := hfirst.exists_body_eq_cons
    exact ⟨c, by simp [Group.text, hbody], hink⟩
  · rcases List.eq_nil_or_concat' group.others with hothers | ⟨front, last, hothers⟩
    · obtain ⟨body, c, hbody, hink⟩ := hfirst.exists_body_eq_concat
      exact ⟨c, by simp [Group.text, hothers, hbody], hink⟩
    · obtain ⟨_, hlast⟩ := hmem last (by simp [Group.lexemes, hothers])
      obtain ⟨body, c, hbody, hink⟩ := hlast.exists_body_eq_concat
      exact ⟨c, by simp [Group.text, hothers, Lexeme.span, hbody], hink⟩
  · rw [Group.text, List.count_append]
    exact hfirst.even_count_body.add (even_count_flatMap_span fun lexeme hlexeme =>
      hmem lexeme (List.mem_cons_of_mem _ hlexeme))
  · cases hothers : group.others with
    | nil =>
        rw [Group.lexemes, hothers] at h
        cases h with
        | @step _ line' _ _ hends hlater =>
            have hsame : line' = after := hlater.line_eq.trans hafter.line_eq.symm
            rw [Group.text, hothers, List.flatMap_nil, List.append_nil]
            exact hends.lower_ne_word group.first_plain (hsame ▸ hquote)
    | cons other others =>
        rw [Group.lexemes, hothers] at h
        obtain ⟨c, hc, hpart⟩ := exists_not_isWordPart h
        rw [← Connective.ofWord?_eq_none_iff]
        apply ofWord?_eq_none_of_mem (c := c) _ hpart
        rw [Group.text, hothers, List.flatMap_cons, ← List.append_assoc]
        exact List.mem_append_left _ hc

/-! ## Connectives among lexemes -/

/-- Whether a connective among the lexemes of a line is the given word, with the given text before
and after it. -/
def IsConnectiveAt (run : List Lexeme) (rest before word after : Text) : Prop :=
  ∃ front lexeme back, run = front ++ lexeme :: back ∧ lexeme.connective.isSome ∧
    before = front.flatMap Lexeme.span ++ lexeme.gap ∧ word = lexeme.body ∧
    after = back.flatMap Lexeme.span ++ rest

theorem not_isConnectiveAt_lexemes (group : Group) (before word after : Text) :
    ¬ IsConnectiveAt group.lexemes rest before word after := by
  rintro ⟨front, lexeme, back, hrun, hsome, -⟩
  rw [group.connective_eq_none (hrun ▸ by simp)] at hsome
  contradiction

theorem isConnectiveAt_append_iff (group : Group) {lexeme : Lexeme} {connective : Connective}
    (hlexeme : lexeme.connective = some connective) {later : List Lexeme}
    {before word after : Text} :
    IsConnectiveAt (group.lexemes ++ lexeme :: later) rest before word after ↔
      (before = group.first.gap ++ group.text ++ lexeme.gap ∧ word = lexeme.body ∧
        after = later.flatMap Lexeme.span ++ rest) ∨
      ∃ before', before = group.first.gap ++ group.text ++ lexeme.gap ++ lexeme.body ++ before' ∧
        IsConnectiveAt later rest before' word after := by
  rw [← group.flatMap_span_lexemes]
  constructor
  · rintro ⟨front, lexeme', back, hrun, hsome, rfl, rfl, rfl⟩
    have hnot : lexeme' ∉ group.lexemes := fun hmem => by
      rw [group.connective_eq_none hmem] at hsome
      contradiction
    rcases List.append_eq_append_iff.mp hrun with ⟨front', rfl, hback⟩ | ⟨front', hgroup, hback⟩
    · rcases List.cons_eq_append_iff.mp hback with ⟨rfl, hcons⟩ | ⟨front, rfl, hcons⟩
      · obtain ⟨rfl, rfl⟩ := List.cons.inj hcons
        exact .inl ⟨by rw [List.append_nil], rfl, rfl⟩
      · refine .inr ⟨_, ?_, front, lexeme', back, hcons, hsome, rfl, rfl, rfl⟩
        simp only [List.flatMap_append, List.flatMap_cons, Lexeme.span, List.append_assoc]
    · rcases List.cons_eq_append_iff.mp hback with ⟨rfl, hcons⟩ | ⟨back', rfl, -⟩
      · obtain ⟨rfl, rfl⟩ := List.cons.inj hcons
        rw [List.append_nil] at hgroup
        exact .inl ⟨by rw [hgroup], rfl, rfl⟩
      · exact absurd (hgroup ▸ by simp) hnot
  · rintro (⟨rfl, rfl, rfl⟩ | ⟨_, rfl, front, lexeme', back, rfl, hsome, rfl, rfl, rfl⟩)
    · exact ⟨group.lexemes, lexeme, later, rfl, by rw [hlexeme]; rfl, rfl, rfl, rfl⟩
    · refine ⟨group.lexemes ++ lexeme :: front, lexeme', back, ?_, hsome, ?_, rfl, rfl⟩
      · rw [List.append_assoc, List.cons_append]
      · simp only [List.flatMap_append, List.flatMap_cons, Lexeme.span, List.append_assoc]

/-! ## Layouts -/

/-- Lexemes that make up parts give a layout, whose connectives are those among the lexemes. -/
theorem exists_layout_of_makeUp (hrun : IsRun line run rest) (hrest : IsGap rest)
    (hmade : MakeUp run parts) : ∃ layout : Layout, layout.text = line ∧ layout.parts = parts ∧
      ∀ before word after,
        layout.HasConnective before word after ↔ IsConnectiveAt run rest before word after := by
  induction hmade generalizing line with
  | last group =>
      have hquote := hrest.head?_ne_quote
      have hrun' : IsRun line (group.lexemes ++ []) rest := by rwa [List.append_nil]
      obtain ⟨after, rfl, hafter⟩ := hrun'.of_append
      obtain rfl : after = rest := hafter.line_eq
      obtain ⟨_, hfirst⟩ := hrun.exists_endsBefore List.mem_cons_self
      have hcondition := isConditionText_text hrun' hafter hquote
      refine ⟨.single hfirst.isGap_gap hcondition hrest, ?_, rfl, fun before word after => ?_⟩
      · rw [Layout.text_single, group.flatMap_span_lexemes]
      · exact iff_of_false (Layout.not_hasConnective_single _ _ _ _ _ _)
          (not_isConnectiveAt_lexemes group before word after)
  | @link group lexeme connective later parts hlexeme hlater ih =>
      obtain ⟨after, rfl, hafter⟩ := hrun.of_append
      have hquote := head?_ne_quote hafter hlexeme
      have hcondition := isConditionText_text hrun hafter hquote
      obtain ⟨_, hfirst⟩ := hrun.exists_endsBefore (List.mem_append_left _ List.mem_cons_self)
      cases hafter with
      | @step _ line' _ _ hends hothers =>
          obtain ⟨layout, htext, hparts, hiff⟩ := ih hothers
          refine ⟨layout.cons hfirst.isGap_gap hcondition hends.isGap_gap
            (hends.of_connective hlexeme).1, ?_, ?_, ?_⟩
          · rw [Layout.text_cons, htext, group.flatMap_span_lexemes, Lexeme.span]
            simp only [List.append_assoc]
          · rw [Layout.parts_cons, hparts]
          · intro before word after
            rw [Layout.hasConnective_cons_iff, isConnectiveAt_append_iff group hlexeme, htext,
              ← hothers.line_eq]
            simp only [hiff]

end ContentQuery.Expression
