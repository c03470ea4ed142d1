import ContentQuery.Proofs.Layout

/-!
# ContentQuery.Proofs.Scanning

A scan of a line from the left, told without lexemes.

At each place a scan takes a separator, a string in quotes, a keyword, or else a word, and there is
at most one of these to take (`Takes.unique`). Where it takes anything but a separator, a lexeme
begins.
-/

namespace ContentQuery.Expression

/-! ## Scanning a line -/

/-- What a scan takes at a place of a line. -/
inductive Kind
  | separator
  | string
  | keyword
  | word
  deriving DecidableEq

/-- Whether a word is one for a connective, in any letter case, before white space or at the end of
a line. -/
def IsKeyword (word after : Text) : Prop :=
  (∃ connective : Connective, word.lower = connective.word) ∧
    ∀ c ∈ after.head?, c.isBlank = true

/-- Whether a scan takes a text of some kind off a line of which the rest is left. Of the characters
that are neither white space nor quotes it takes as many as there are, if they do not begin with a
keyword. -/
inductive Takes : Kind → Text → Text → Prop
  | separator {c : CodePoint} (rest : Text) (hc : isSeparator c = true) : Takes .separator [c] rest
  | string {inner : Text} (rest : Text) (hinner : quote ∉ inner) :
      Takes .string (quote :: inner ++ [quote]) rest
  | keyword {word rest : Text} (h : IsKeyword word rest) : Takes .keyword word rest
  | word {word rest : Text} (hne : word ≠ []) (hword : ∀ c ∈ word, isWordPart c = true)
      (hrest : EndsWord rest)
      (hother : ∀ keyword after, word ++ rest = keyword ++ after → ¬ IsKeyword keyword after) :
      Takes .word word rest

/-- A stretch of a line that a scan has taken. -/
structure Piece where
  kind : Kind
  text : Text

/-- Whether a scan of a line has taken pieces off it one after the other, so that the rest is
left. -/
inductive Scans : Text → List Piece → Text → Prop
  | stop (line : Text) : Scans line [] line
  | step {kind : Kind} {text line rest : Text} {taken : List Piece}
      (hpiece : Takes kind text line) (htaken : Scans line taken rest) :
      Scans (text ++ line) (⟨kind, text⟩ :: taken) rest

/-- The number of characters that have been taken. -/
def lengthOf (taken : List Piece) : Nat := (taken.flatMap Piece.text).length

/-- Whether there is nothing that a scan can take, although the line is not at its end. -/
def IsStuck (line : Text) : Prop :=
  line ≠ [] ∧ ∀ kind text rest, line = text ++ rest → ¬ Takes kind text rest

/-- What a scan takes where a lexeme begins. -/
def Lexeme.kind (lexeme : Lexeme) : Kind :=
  if lexeme.connective.isSome then .keyword
  else if lexeme.body.head? = some quote then .string else .word

variable {line rest rest' text text' word : Text} {kind kind' : Kind} {taken : List Piece}
  {lexeme : Lexeme}

/-! ## Pieces and lexemes -/

theorem IsKeyword.endsWord (h : IsKeyword word rest) : EndsWord rest := fun c hc =>
  isWordPart_eq_false_iff.mpr (.inl (h.2 c hc))

theorem IsKeyword.head?_ne_quote (h : IsKeyword word rest) : rest.head? ≠ some quote := fun hhead =>
  absurd (h.2 quote hhead) (by decide)

/-- A keyword is all of a word. -/
theorem IsKeyword.eq_of_append_eq (h : IsKeyword text' rest')
    (hword : ∀ c ∈ word, isWordPart c = true) (hrest : EndsWord rest)
    (heq : word ++ rest = text' ++ rest') : word = text' ∧ rest = rest' := by
  obtain ⟨connective, hlower⟩ := h.1
  have htake := congrArg (List.takeWhile isWordPart) heq
  rw [Text.takeWhile_append_of_stop hword hrest,
    Text.takeWhile_append_of_stop (isWordPart_of_lower_eq_word hlower) h.endsWord] at htake
  rw [htake, List.append_cancel_left_eq] at heq
  exact ⟨htake, heq⟩

theorem Lexeme.kind_ne_separator (lexeme : Lexeme) : lexeme.kind ≠ .separator := by
  unfold Lexeme.kind
  split
  · decide
  · split <;> decide

theorem Lexeme.kind_eq_keyword_iff (lexeme : Lexeme) :
    lexeme.kind = .keyword ↔ lexeme.connective.isSome = true := by
  unfold Lexeme.kind
  split
  · simp [*]
  · split <;> simp [*]

theorem isSome_connective?_iff (hrest : EndsWord rest) :
    (connective? word rest).isSome = true ↔ IsKeyword word rest := by
  constructor
  · intro hsome
    obtain ⟨connective, hread⟩ := Option.isSome_iff_exists.mp hsome
    unfold connective? at hread
    split at hread
    · contradiction
    · next hquote =>
        refine ⟨⟨connective, Connective.ofWord?_eq_some_iff.mp hread⟩, fun c hc => ?_⟩
        rcases isWordPart_eq_false_iff.mp (hrest c hc) with hblank | rfl
        · exact hblank
        · contradiction
  · intro h
    obtain ⟨connective, hlower⟩ := h.1
    have hread : connective? word rest = some connective :=
      (if_neg h.head?_ne_quote).trans (Connective.ofWord?_eq_some_iff.mpr hlower)
    rw [hread]
    rfl

theorem Takes.isKeyword (h : Takes .keyword word rest) : IsKeyword word rest := by
  cases h
  assumption

/-- A lexeme is taken. -/
theorem Lexeme.EndsBefore.takes (h : lexeme.EndsBefore rest) :
    Takes lexeme.kind lexeme.body rest := by
  cases h with
  | quoted _ _ hinner => exact .string rest hinner
  | @word gap word _ hgap hne hword hrest =>
      by_cases hkeyword : IsKeyword word rest
      · rw [(Lexeme.kind_eq_keyword_iff _).mpr ((isSome_connective?_iff hrest).mpr hkeyword)]
        exact .keyword hkeyword
      · have hplain : ¬ (connective? word rest).isSome = true := by
          rwa [isSome_connective?_iff hrest]
        have hquote : word.head? ≠ some quote := fun hhead =>
          absurd (hword quote (List.mem_of_head? hhead)) (by decide)
        rw [Lexeme.kind, if_neg hplain, if_neg hquote]
        refine .word hne hword hrest fun keyword after heq h => hkeyword ?_
        obtain ⟨rfl, rfl⟩ := h.eq_of_append_eq hword hrest heq
        exact h

/-- Whatever is taken but separators is a lexeme. -/
theorem Takes.exists_lexeme (h : Takes kind text rest) (hkind : kind ≠ .separator) :
    ∃ lexeme : Lexeme, lexeme.EndsBefore rest ∧ lexeme.gap = [] ∧ lexeme.body = text ∧
      lexeme.kind = kind := by
  cases h with
  | separator => contradiction
  | @string inner _ hinner => exact ⟨_, .quoted rest isGap_nil hinner, rfl, rfl, rfl⟩
  | keyword h =>
      obtain ⟨connective, hlower⟩ := h.1
      exact ⟨_, endsBefore_connective isGap_nil hlower h.endsWord h.head?_ne_quote, rfl, rfl, rfl⟩
  | word hne hword hrest hother =>
      have hplain : ¬ (connective? text rest).isSome = true := by
        rw [isSome_connective?_iff hrest]
        exact hother text rest rfl
      have hquote : text.head? ≠ some quote := fun hhead =>
        absurd (hword quote (List.mem_of_head? hhead)) (by decide)
      refine ⟨_, .word isGap_nil hne hword hrest, rfl, rfl, ?_⟩
      rw [Lexeme.kind, if_neg hplain, if_neg hquote]

theorem Takes.ne_nil (h : Takes kind text rest) : text ≠ [] := by
  cases h with
  | separator => exact List.cons_ne_nil _ _
  | string => exact List.cons_ne_nil _ _
  | keyword h =>
      obtain ⟨connective, hlower⟩ := h.1
      exact Connective.ne_nil_of_lower_eq_word hlower
  | word hne => exact hne

/-- At each place there is at most one thing to take. -/
theorem Takes.unique (h : Takes kind text rest) (h' : Takes kind' text' rest')
    (heq : text ++ rest = text' ++ rest') : kind = kind' ∧ text = text' ∧ rest = rest' := by
  -- A lexeme begins with ink, so it is not where a separator is.
  have hink {kind : Kind} {text rest : Text} {c : CodePoint} {more : Text}
      (h : Takes kind text rest) (hkind : kind ≠ .separator) (heq : text ++ rest = c :: more)
      (hc : isSeparator c = true) : False := by
    obtain ⟨lexeme, hends, -, rfl, -⟩ := h.exists_lexeme hkind
    obtain ⟨d, body, hbody, hd⟩ := hends.exists_body_eq_cons
    rw [hbody, List.cons_append, List.cons.injEq] at heq
    rw [heq.1] at hd
    rw [isSeparator_of_isInk hd] at hc
    contradiction
  by_cases hkind : kind = .separator
  · subst hkind
    cases h with
    | separator _ hc =>
        by_cases hkind' : kind' = .separator
        · subst hkind'
          cases h' with
          | separator =>
              obtain ⟨rfl, rfl⟩ := List.cons.inj heq
              exact ⟨rfl, rfl, rfl⟩
        · exact (hink h' hkind' heq.symm hc).elim
  · by_cases hkind' : kind' = .separator
    · subst hkind'
      cases h' with
      | separator _ hc => exact (hink h hkind heq hc).elim
    · obtain ⟨lexeme, hends, hgap, rfl, rfl⟩ := h.exists_lexeme hkind
      obtain ⟨lexeme', hends', hgap', rfl, rfl⟩ := h'.exists_lexeme hkind'
      have hnext := next?_span_append hends
      have hnext' := next?_span_append hends'
      rw [Lexeme.span, hgap, List.nil_append, heq] at hnext
      rw [Lexeme.span, hgap', List.nil_append, hnext] at hnext'
      obtain ⟨rfl, rfl⟩ := Prod.mk.inj (Option.some.inj hnext')
      exact ⟨rfl, rfl, rfl⟩

/-- Where no lexeme begins there are separators, and then the end of the line or an obstacle. -/
theorem isStuck_of_next? (h : next? line = none) (hline : ¬ IsGap line) :
    IsStuck (line.dropWhile isSeparator) := by
  have hgap : IsGap (line.takeWhile isSeparator) := fun c hc => List.mem_takeWhile_imp hc
  have hcut : line.takeWhile isSeparator ++ line.dropWhile isSeparator = line :=
    List.takeWhile_append_dropWhile
  constructor
  · intro hnil
    rw [hnil, List.append_nil] at hcut
    exact hline (hcut ▸ hgap)
  · intro kind text rest heq htakes
    by_cases hkind : kind = .separator
    · subst hkind
      cases htakes with
      | @separator c _ hc =>
          have hstop := Text.head?_dropWhile_eq_false isSeparator line c (by rw [heq]; rfl)
          rw [hc] at hstop
          contradiction
    · obtain ⟨lexeme, hends, -, rfl, -⟩ := htakes.exists_lexeme hkind
      have hnext := next?_span_append (hends.withGap hgap)
      rw [Lexeme.span, List.append_assoc, ← heq, hcut, h] at hnext
      contradiction

/-! ## One piece after the other -/

/-- A scan of a line stops where it begins, or goes on after the piece that it takes there. -/
theorem scans_append_iff (hpiece : Takes kind text line) :
    Scans (text ++ line) taken rest ↔
      taken = [] ∧ rest = text ++ line ∨
        ∃ later, taken = ⟨kind, text⟩ :: later ∧ Scans line later rest := by
  constructor
  · intro h
    generalize hline : text ++ line = whole at h
    cases h with
    | stop => exact .inl ⟨rfl, rfl⟩
    | step hother hlater =>
        obtain ⟨rfl, rfl, rfl⟩ := hpiece.unique hother hline
        exact .inr ⟨_, rfl, hlater⟩
  · rintro (⟨rfl, rfl⟩ | ⟨later, rfl, hlater⟩)
    · exact .stop _
    · exact .step hpiece hlater

theorem lengthOf_cons (kind : Kind) (text : Text) (taken : List Piece) :
    lengthOf (⟨kind, text⟩ :: taken) = text.length + lengthOf taken := by
  rw [lengthOf, List.flatMap_cons, List.length_append]
  rfl

theorem scans_nil_iff : Scans [] taken rest ↔ taken = [] ∧ rest = [] := by
  constructor
  · intro h
    generalize hline : ([] : Text) = line at h
    cases h with
    | stop => exact ⟨rfl, rfl⟩
    | step hpiece => exact absurd (List.append_eq_nil_iff.mp hline.symm).1 hpiece.ne_nil
  · rintro ⟨rfl, rfl⟩
    exact .stop []

/-- A line consists of separators exactly if a scan takes nothing else. -/
theorem isGap_iff_exists_scans :
    IsGap line ↔ ∃ taken, Scans line taken [] ∧ ∀ piece ∈ taken, piece.kind = .separator := by
  constructor
  · intro h
    induction line with
    | nil => exact ⟨[], .stop [], List.forall_mem_nil _⟩
    | cons c line ih =>
        obtain ⟨hc, hline⟩ := List.forall_mem_cons.mp h
        obtain ⟨taken, hscans, hall⟩ := ih hline
        exact ⟨_, .step (.separator line hc) hscans, List.forall_mem_cons.mpr ⟨rfl, hall⟩⟩
  · rintro ⟨taken, hscans, hall⟩
    generalize hrest : ([] : Text) = rest at hscans
    induction hscans with
    | stop => exact hrest ▸ isGap_nil
    | @step kind text line rest taken hpiece _ ih =>
        obtain ⟨hkind, hlater⟩ := List.forall_mem_cons.mp hall
        subst hkind
        cases hpiece with
        | separator _ hc => exact List.forall_mem_cons.mpr ⟨hc, ih hlater hrest⟩

end ContentQuery.Expression
