import ContentQuery.Proofs.Layout

/-!
# ContentQuery.Proofs.Boundaries

Where a word for a connective counts as one. It has to stand outside quotes, with white space after
it. Before it there may be white space, too, but also the quote that ends a string: a word glued to
a string before it joins conditions.
-/

namespace ContentQuery.Expression

/-- Whether a place in a line, given by the text before it and the text after what stands there, is
outside quotes and no other word touches it, and neither does a string after it. -/
structure StandsAlone (before after : Text) : Prop where
  outside : Even (before.count quote)
  left : ∀ c ∈ before.getLast?, c.isBlank = true ∨ c = quote
  right : ∃ c ∈ after.head?, c.isBlank = true

variable {line rest before word after : Text} {run : List Lexeme} {connective : Connective}

theorem StandsAlone.endsWord (h : StandsAlone before after) : EndsWord after := by
  obtain ⟨c, hc, hblank⟩ := h.right
  intro d hd
  rw [Option.mem_unique hd hc]
  exact isWordPart_eq_false_iff.mpr (.inl hblank)

theorem StandsAlone.head?_ne_quote (h : StandsAlone before after) : after.head? ≠ some quote := by
  obtain ⟨c, hc, hblank⟩ := h.right
  intro hhead
  rw [Option.mem_unique hc hhead] at hblank
  contradiction

/-- A place that stands alone also does so in a line with lexemes in front. -/
theorem StandsAlone.of_append {front : Text} (h : StandsAlone (front ++ before) after)
    (hfront : Even (front.count quote)) : StandsAlone before after where
  outside := by
    have houtside := h.outside
    rw [List.count_append, Nat.even_add] at houtside
    exact houtside.mp hfront
  left := by
    intro c hc
    apply h.left c
    rw [List.getLast?_append, Option.mem_def.mp hc]
    rfl
  right := h.right

/-! ## Connectives stand alone -/

/-- A word that follows a lexeme immediately follows a string. -/
theorem getLast?_body_eq_quote {lexeme other : Lexeme}
    (h : IsRun line (lexeme :: other :: run) rest) (hgap : other.gap = [])
    (hother : other.connective = some connective) : lexeme.body.getLast? = some quote := by
  cases h with
  | step hlexeme hothers =>
      cases hothers with
      | step hends _ =>
          cases hlexeme with
          | quoted => rw [List.getLast?_append]; rfl
          | word _ _ _ hafter =>
              have hword := isWordPart_of_lower_eq_word (hends.of_connective hother).1
              obtain ⟨c, body, hbody, -⟩ := hends.exists_body_eq_cons
              have hpart : isWordPart c = false := by
                apply hafter c
                rw [Lexeme.span, hgap, hbody]
                rfl
              rw [hword c (hbody ▸ List.mem_cons_self)] at hpart
              contradiction

theorem left_of_isRun {front back : List Lexeme} {lexeme : Lexeme}
    (h : IsRun line (front ++ lexeme :: back) rest)
    (hlexeme : lexeme.connective = some connective) :
    ∀ c ∈ (front.flatMap Lexeme.span ++ lexeme.gap).getLast?, c.isBlank = true ∨ c = quote := by
  intro c hc
  cases hgap : lexeme.gap with
  | cons d gap =>
      obtain ⟨_, hends⟩ := h.exists_endsBefore (List.mem_append_right front List.mem_cons_self)
      rw [List.getLast?_append_of_ne_nil _ (hgap ▸ List.cons_ne_nil d gap)] at hc
      exact .inl (isBlank_of_isSeparator (hends.isGap_gap c (List.mem_of_getLast? hc)))
  | nil =>
      rw [hgap, List.append_nil] at hc
      rcases List.eq_nil_or_concat' front with rfl | ⟨init, last, rfl⟩
      · contradiction
      · rw [List.append_assoc, List.cons_append, List.nil_append] at h
        obtain ⟨_, -, hlast⟩ := h.of_append
        have hquote := getLast?_body_eq_quote hlast hgap hlexeme
        rw [List.flatMap_append, List.flatMap_singleton, Lexeme.span, ← List.append_assoc,
          List.getLast?_append, hquote] at hc
        exact .inr (Option.some.inj hc).symm

theorem standsAlone_of_isConnectiveAt (hrun : IsRun line run rest)
    (h : IsConnectiveAt run rest before word after) (hafter : after ≠ []) :
    StandsAlone before after := by
  obtain ⟨front, lexeme, back, rfl, hsome, rfl, rfl, rfl⟩ := h
  obtain ⟨connective, hlexeme⟩ := Option.isSome_iff_exists.mp hsome
  obtain ⟨line', -, hback⟩ := hrun.of_append
  constructor
  · rw [List.count_append]
    refine (even_count_flatMap_span fun other hother => ?_).add ?_
    · exact hrun.exists_endsBefore (List.mem_append_left _ hother)
    · obtain ⟨_, hends⟩ := hback.exists_endsBefore List.mem_cons_self
      exact hends.isGap_gap.even_count
  · exact left_of_isRun hrun hlexeme
  · cases hback with
    | step hends hothers =>
        rw [← hothers.line_eq] at hafter ⊢
        obtain ⟨-, hstop, hquote⟩ := hends.of_connective hlexeme
        obtain ⟨c, rest', rfl⟩ := List.exists_cons_of_ne_nil hafter
        refine ⟨c, rfl, ?_⟩
        rcases isWordPart_eq_false_iff.mp (hstop c rfl) with hblank | rfl
        · exact hblank
        · contradiction

/-! ## What stands alone is a connective -/

/-- No place within a string is outside quotes. -/
theorem not_even_count_of_prefix {inner front back : Text} (hinner : quote ∉ inner)
    (h : quote :: inner ++ [quote] = front ++ back) (hfront : front ≠ []) (hback : back ≠ []) :
    ¬ Even (front.count quote) := by
  obtain ⟨c, front, rfl⟩ := List.exists_cons_of_ne_nil hfront
  rw [List.cons_append, List.cons_append, List.cons.injEq] at h
  obtain ⟨rfl, h⟩ := h
  have hnot : quote ∉ front := by
    rcases List.append_eq_append_iff.mp h with ⟨more, rfl, hlast⟩ | ⟨more, rfl, -⟩
    · rcases List.singleton_eq_append_iff.mp hlast with ⟨rfl, -⟩ | ⟨-, rfl⟩
      · rwa [List.append_nil]
      · contradiction
    · exact fun hmem => hinner (List.mem_append_left _ hmem)
  rw [List.count_cons_self, List.count_eq_zero_of_not_mem hnot]
  decide

/-- A word at the place where a lexeme begins is this lexeme, if it stands alone. -/
theorem eq_of_body_append_eq {lexeme : Lexeme} (hends : lexeme.EndsBefore line)
    (hline : lexeme.body ++ line = word ++ after) (hword : word.lower = connective.word)
    (halone : StandsAlone before after) :
    lexeme.body = word ∧ line = after ∧ lexeme.connective = some connective := by
  have hparts := isWordPart_of_lower_eq_word hword
  cases hends with
  | quoted =>
      obtain ⟨c, word, rfl⟩ := List.exists_cons_of_ne_nil (Connective.ne_nil_of_lower_eq_word hword)
      have hc : quote = c := (List.cons.inj hline).1
      have hpart := hparts c List.mem_cons_self
      rw [← hc] at hpart
      contradiction
  | @word gap body _ hgap hne hbody hstop =>
      have htake := congrArg (List.takeWhile isWordPart) hline
      rw [Text.takeWhile_append_of_stop hbody hstop,
        Text.takeWhile_append_of_stop hparts halone.endsWord] at htake
      rw [htake, List.append_cancel_left_eq] at hline
      refine ⟨htake, hline, ?_⟩
      rw [hline, htake]
      exact (if_neg halone.head?_ne_quote).trans (Connective.ofWord?_eq_some_iff.mpr hword)

/-- A word for a connective that stands alone does not begin within a lexeme. -/
theorem begins_of_span_eq {lexeme : Lexeme} (hends : lexeme.EndsBefore line) {more : Text}
    (hmore : more ≠ []) (hspan : lexeme.span = before ++ more)
    (hline : word ++ after = more ++ line) (hword : word.lower = connective.word)
    (halone : StandsAlone before after) :
    before = lexeme.gap ∧ more = lexeme.body := by
  rcases List.append_eq_append_iff.mp hspan with ⟨front, hbefore, hbody⟩ | ⟨back, hgap, hmore'⟩
  · rw [hbefore] at halone
    have hfront := halone.of_append hends.isGap_gap.even_count
    rcases List.eq_nil_or_concat' front with rfl | ⟨init, last, rfl⟩
    · exact ⟨by rw [hbefore, List.append_nil], hbody.symm⟩
    · exfalso
      have hmem : last ∈ lexeme.body := by
        rw [hbody]
        simp
      cases hends with
      | quoted _ _ hinner =>
          exact not_even_count_of_prefix hinner hbody (by simp) hmore hfront.outside
      | word _ _ hparts _ =>
          have hlast := hfront.left last (by simp)
          have hpart := hparts last hmem
          rw [isWordPart_eq_false_iff.mpr hlast] at hpart
          contradiction
  · cases back with
    | nil => exact ⟨by rw [hgap, List.append_nil], by rw [hmore', List.nil_append]⟩
    | cons d back =>
        exfalso
        obtain ⟨c, word, rfl⟩ :=
          List.exists_cons_of_ne_nil (Connective.ne_nil_of_lower_eq_word hword)
        rw [hmore', List.cons_append, List.cons_append, List.cons_append, List.cons.injEq] at hline
        have hpart := isWordPart_of_lower_eq_word hword c List.mem_cons_self
        have hsep := hends.isGap_gap d (hgap ▸ by simp)
        rw [hline.1, isWordPart_of_isSeparator hsep] at hpart
        contradiction

theorem isConnectiveAt_of_standsAlone (hrun : IsRun line run rest) (hrest : IsGap rest)
    (hline : line = before ++ (word ++ after)) (hword : word.lower = connective.word)
    (halone : StandsAlone before after) : IsConnectiveAt run rest before word after := by
  induction hrun generalizing before with
  | stop =>
      obtain ⟨c, word, rfl⟩ := List.exists_cons_of_ne_nil (Connective.ne_nil_of_lower_eq_word hword)
      have hpart := isWordPart_of_lower_eq_word hword c List.mem_cons_self
      rw [isWordPart_of_isSeparator (hrest c (hline ▸ by simp))] at hpart
      contradiction
  | @step lexeme line' rest others hends hothers ih =>
      -- The word begins behind this lexeme or, since it cannot begin within, it is this lexeme.
      have hbehind (before' : Text) (hbefore : before = lexeme.span ++ before')
          (hline' : line' = before' ++ (word ++ after)) :
          IsConnectiveAt (lexeme :: others) rest before word after := by
        rw [hbefore] at halone
        obtain ⟨front, other, back, rfl, hsome, rfl, hbody, hback⟩ :=
          ih hrest hline' (halone.of_append (even_count_span hends))
        refine ⟨lexeme :: front, other, back, rfl, hsome, ?_, hbody, hback⟩
        rw [hbefore, List.flatMap_cons, List.append_assoc]
      rcases List.append_eq_append_iff.mp hline with ⟨before', hbefore, hline'⟩ |
        ⟨more, hspan, hline'⟩
      · exact hbehind before' hbefore hline'
      · by_cases hmore : more = []
        · rw [hmore, List.append_nil] at hspan
          rw [hmore, List.nil_append] at hline'
          exact hbehind [] (by rw [hspan, List.append_nil]) hline'.symm
        · obtain ⟨hbefore, hbody⟩ := begins_of_span_eq hends hmore hspan hline' hword halone
          rw [hbody] at hline'
          obtain ⟨hsame, rfl, hlexeme⟩ := eq_of_body_append_eq hends hline'.symm hword halone
          exact ⟨[], lexeme, others, rfl, by rw [hlexeme]; rfl, by rw [hbefore]; rfl, hsame.symm,
            hothers.line_eq⟩

/-! ## Lines -/

/-- A line that is not blank and is cut into parts is taken apart by a layout with these parts in
which the connectives are just the words for them that stand outside quotes, with white space after
them and, unless the line begins there, white space or a quote before them. -/
theorem connective_iff_standsAlone {parts : List Text} (hline : line.all CodePoint.isBlank = false)
    (hsplit : split line = .ok parts) :
    ∃ layout : Layout, layout.text = line ∧ layout.parts = parts ∧
      ∀ (connective : Connective) (before word after : Text), line = before ++ (word ++ after) →
        word.lower = connective.word →
        (layout.HasConnective before word after ↔ StandsAlone before after) := by
  obtain ⟨run, rest, hrun, hrest, hmade⟩ := (split_eq_ok_iff hline).mp hsplit
  obtain ⟨layout, htext, hparts, hiff⟩ := exists_layout_of_makeUp hrun hrest hmade
  refine ⟨layout, htext, hparts, fun connective before word after hplace hword => ?_⟩
  constructor
  · intro h
    have hafter : after ≠ [] := by
      obtain ⟨front, link, back, -, -, -, rfl⟩ := h
      obtain ⟨c, hc, -⟩ := link.isConditionText.begins
      intro hnil
      rw [List.append_eq_nil_iff, List.append_eq_nil_iff, List.append_eq_nil_iff] at hnil
      rw [hnil.1.1.2] at hc
      contradiction
    exact standsAlone_of_isConnectiveAt hrun ((hiff before word after).mp h) hafter
  · intro h
    exact (hiff before word after).mpr (isConnectiveAt_of_standsAlone hrun hrest hplace hword h)

/-- A line with a connective in a string, one glued to a string before it, one glued to a string
after it, and one between words. -/
def gluedLine : Text := "a equals \"or\"and or\"b\" or c"

/-- What it is cut into: the second and the last one join conditions. -/
def gluedParts : List Text := ["a equals \"or\"", "and", "or\"b\"", "or", "c"]

theorem connective_iff_standsAlone_glued :
    gluedLine.all CodePoint.isBlank = false ∧ split gluedLine = .ok gluedParts ∧
    ∃ layout : Layout, layout.text = gluedLine ∧ layout.parts = gluedParts ∧
      layout.HasConnective "a equals \"or\"" "and" " or\"b\" or c" ∧
      ¬ layout.HasConnective "a equals \"" "or" "\"and or\"b\" or c" ∧
      ¬ layout.HasConnective "a equals \"or\"and " "or" "\"b\" or c" := by
  have hline : gluedLine.all CodePoint.isBlank = false := rfl
  have hsplit : split gluedLine = .ok gluedParts := by
    set_option maxRecDepth 100000 in decide +kernel
  obtain ⟨layout, htext, hparts, hiff⟩ := connective_iff_standsAlone hline hsplit
  refine ⟨hline, hsplit, layout, htext, hparts, ?_, ?_, ?_⟩
  · rw [hiff .and _ _ _ rfl rfl]
    exact ⟨⟨1, rfl⟩, fun c hc => .inr (Option.mem_unique hc rfl), ' ', rfl, rfl⟩
  · rw [hiff .or _ _ _ rfl rfl]
    intro halone
    exact absurd halone.outside (by decide)
  · rw [hiff .or _ _ _ rfl rfl]
    intro halone
    exact halone.head?_ne_quote rfl

theorem countP_isSeparator_pos {gap : Text} (h : IsGap gap) (hne : gap ≠ []) :
    0 < gap.countP isSeparator := by
  rw [List.countP_eq_length.mpr h]
  exact List.length_pos_iff.mpr hne

/-- Not every line that is cut into parts has white space on both sides of its connectives: a
connective may be glued to a string before it. -/
theorem exists_connective_glued_to_string :
    ¬ ∀ (line : Text) (parts : List Text), line.all CodePoint.isBlank = false →
      split line = .ok parts → ∃ layout : Layout, layout.text = line ∧ layout.parts = parts ∧
        ∀ link ∈ layout.links, link.space ≠ [] ∧ link.gap ≠ [] := by
  intro h
  have hsplit : split "a equals \"x\"and b equals 1" =
      .ok ["a equals \"x\"", "and", "b equals 1"] := by
    set_option maxRecDepth 100000 in decide +kernel
  obtain ⟨⟨gap, condition, links, tail, _, _, _⟩, htext, hparts, hlinks⟩ := h _ _ rfl hsplit
  obtain ⟨rfl, hparts⟩ := List.cons.inj hparts
  cases links with
  | nil => contradiction
  | cons link links =>
      obtain ⟨-, hrest⟩ := List.cons.inj hparts
      obtain ⟨hcondition, -⟩ := List.cons.inj hrest
      obtain ⟨hspace, hgap⟩ := hlinks link List.mem_cons_self
      -- Two of the five separators stand in each condition: one is left for the two gaps.
      have hcount := congrArg (List.countP isSeparator) htext
      simp only [Layout.text, List.flatMap_cons, Link.text, List.countP_append,
        hcondition] at hcount
      have hline : ("a equals \"x\"and b equals 1" : Text).countP isSeparator = 5 := rfl
      have hfirst : ("a equals \"x\"" : Text).countP isSeparator = 2 := rfl
      have hsecond : ("b equals 1" : Text).countP isSeparator = 2 := rfl
      have hbefore := countP_isSeparator_pos link.isGap_space hspace
      have hafter := countP_isSeparator_pos link.isGap_gap hgap
      omega

end ContentQuery.Expression
