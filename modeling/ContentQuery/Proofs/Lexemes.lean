import ContentQuery.Expression
import ContentQuery.Proofs.Runs
import Mathlib.Algebra.Ring.Parity

/-!
# ContentQuery.Proofs.Lexemes

What the lexemes of a line are, told without the functions that find them.

A lexeme is a string in quotes, or a run of word characters that ends where another character
follows. `next?_eq_some_iff` says that the first lexeme of a line is found exactly if the line
begins with one, and `lexemes_eq_iff` says the same of the whole line.
-/

namespace ContentQuery.Expression

/-- The double quote. -/
def quote : CodePoint := '"'

/-- Whether a text consists of separators. -/
def IsGap (s : Text) : Prop := ∀ c ∈ s, isSeparator c = true

/-- Whether a text does not go on with a character of a word. -/
def EndsWord (s : Text) : Prop := ∀ c ∈ s.head?, isWordPart c = false

/-! ## Characters -/

theorem isBlank_of_isSeparator {c : CodePoint} (h : isSeparator c = true) : c.isBlank = true := by
  simp only [isSeparator, Bool.or_eq_true, decide_eq_true_eq] at h
  rcases h with (((rfl | rfl) | rfl) | rfl) | h
  any_goals rfl
  simp only [CodePoint.isBlank, h]
  rfl

theorem isWordPart_iff {c : CodePoint} : isWordPart c = true ↔ c.isInk = true ∧ c ≠ quote := by
  simp [isWordPart, quote]

theorem isWordPart_eq_false_iff {c : CodePoint} :
    isWordPart c = false ↔ c.isBlank = true ∨ c = quote := by
  rw [← Bool.not_eq_true, isWordPart_iff, CodePoint.isInk, not_and_or, not_ne_iff]
  simp

/-- The visible characters of ASCII stand in words, but for the quote. -/
theorem isWordPart_of_val {c : CodePoint} (hfirst : 0x21 ≤ c.val) (hlast : c.val ≤ 0x7E)
    (hquote : c.val ≠ 0x22) : isWordPart c = true := by
  rw [isWordPart_iff, CodePoint.isInk, CodePoint.isBlank]
  constructor
  · simp only [Bool.not_eq_true', Bool.or_eq_false_iff, Bool.and_eq_false_imp, decide_eq_true_eq,
      decide_eq_false_iff_not]
    omega
  · rintro rfl
    exact hquote rfl

theorem isWordPart_of_isSeparator {c : CodePoint} (h : isSeparator c = true) :
    isWordPart c = false :=
  isWordPart_eq_false_iff.mpr (.inl (isBlank_of_isSeparator h))

theorem isSeparator_of_isInk {c : CodePoint} (h : c.isInk = true) : isSeparator c = false := by
  rw [← Bool.not_eq_true]
  intro hsep
  rw [CodePoint.isInk, isBlank_of_isSeparator hsep] at h
  contradiction

theorem isGap_nil : IsGap [] := List.forall_mem_nil _

theorem IsGap.even_count {gap : Text} (h : IsGap gap) : Even (gap.count quote) := by
  rw [List.count_eq_zero_of_not_mem fun hmem => absurd (h quote hmem) (by decide)]
  exact Even.zero

theorem IsGap.head?_ne_quote {gap : Text} (h : IsGap gap) : gap.head? ≠ some quote := fun hhead =>
  absurd (h quote (List.mem_of_head? hhead)) (by decide)

theorem endsWord_nil : EndsWord [] := fun _ h => nomatch h

/-! ## Lexemes -/

/-- A lexeme that ends where the rest of its line begins. -/
inductive Lexeme.EndsBefore : Lexeme → Text → Prop
  | quoted {gap inner : Text} (after : Text) (hgap : IsGap gap) (hinner : quote ∉ inner) :
      EndsBefore ⟨gap, quote :: inner ++ [quote], none⟩ after
  | word {gap word after : Text} (hgap : IsGap gap) (hne : word ≠ [])
      (hword : ∀ c ∈ word, isWordPart c = true) (hafter : EndsWord after) :
      EndsBefore ⟨gap, word, connective? word after⟩ after

namespace Lexeme.EndsBefore

variable {lexeme : Lexeme} {after : Text}

theorem isGap_gap (h : lexeme.EndsBefore after) : IsGap lexeme.gap := by
  cases h <;> assumption

/-- A lexeme begins with no separator. -/
theorem exists_body_eq_cons (h : lexeme.EndsBefore after) :
    ∃ c rest, lexeme.body = c :: rest ∧ c.isInk = true := by
  cases h with
  | quoted => exact ⟨quote, _, rfl, rfl⟩
  | @word gap word after hgap hne hword hafter =>
      cases word with
      | nil => contradiction
      | cons c rest => exact ⟨c, rest, rfl, (isWordPart_iff.mp (hword c List.mem_cons_self)).1⟩

/-- A lexeme ends with no separator. -/
theorem exists_body_eq_concat (h : lexeme.EndsBefore after) :
    ∃ front c, lexeme.body = front ++ [c] ∧ c.isInk = true := by
  cases h with
  | @quoted gap inner => exact ⟨quote :: inner, quote, rfl, rfl⟩
  | @word gap word after hgap hne hword hafter =>
      refine ⟨word.dropLast, word.getLast hne, (List.dropLast_concat_getLast hne).symm, ?_⟩
      exact (isWordPart_iff.mp (hword _ (List.getLast_mem hne))).1

/-- Quotes in a lexeme come in pairs. -/
theorem even_count_body (h : lexeme.EndsBefore after) : Even (lexeme.body.count quote) := by
  cases h with
  | @quoted gap inner _ hgap hinner =>
      simp [List.count_eq_zero_of_not_mem hinner]
  | @word gap word after hgap hne hword hafter =>
      have hcount : word.count quote = 0 := List.count_eq_zero_of_not_mem fun hmem =>
        (isWordPart_iff.mp (hword quote hmem)).2 rfl
      simp [hcount]

/-- A lexeme is one after other separators, too. -/
theorem withGap {gap : Text} (h : lexeme.EndsBefore after) (hgap : IsGap gap) :
    EndsBefore { lexeme with gap } after := by
  cases h with
  | quoted _ _ hinner => exact .quoted after hgap hinner
  | word _ hne hword hafter => exact .word hgap hne hword hafter

/-- Where a lexeme ends, and whether it is a connective, is up to the next character. -/
theorem of_head? {after' : Text} (h : lexeme.EndsBefore after)
    (hhead : after'.head? = after.head?) :
    lexeme.EndsBefore after' := by
  cases h with
  | quoted _ hgap hinner => exact .quoted after' hgap hinner
  | @word gap word _ hgap hne hword hafter =>
      have hread : connective? word after = connective? word after' := by
        rw [connective?, connective?, hhead]
      have hends : EndsWord after' := by rwa [EndsWord, hhead]
      rw [hread]
      exact .word hgap hne hword hends

end Lexeme.EndsBefore

/-- A word that is no word for a connective is a lexeme and no connective. -/
theorem endsBefore_word {gap word after : Text} (hgap : IsGap gap) (hne : word ≠ [])
    (hword : ∀ c ∈ word, isWordPart c = true) (hafter : EndsWord after)
    (hnone : Connective.ofWord? word = none) : Lexeme.EndsBefore ⟨gap, word, none⟩ after := by
  have hread : connective? word after = none := by
    rw [connective?, hnone, ite_self]
  have hends := Lexeme.EndsBefore.word hgap hne hword hafter
  rwa [hread] at hends

theorem endsBefore_of_next? {line after : Text} {lexeme : Lexeme}
    (h : next? line = some (lexeme, after)) : lexeme.EndsBefore after := by
  have hgap : IsGap (line.takeWhile isSeparator) := fun c hc => List.mem_takeWhile_imp hc
  unfold next? at h
  split at h
  · contradiction
  · next c rest hdrop =>
      split at h
      · next hquote =>
          split at h
          · contradiction
          · next close tail hclose =>
              simp only [Option.some.injEq, Prod.mk.injEq] at h
              obtain ⟨rfl, rfl⟩ := h
              have hlast : close = quote := by
                have hstop :=
                  Text.head?_dropWhile_eq_false isQuotable rest close (by rw [hclose]; rfl)
                simpa [isQuotable, quote] using hstop
              have hinner : quote ∉ rest.takeWhile isQuotable := fun hmem => by
                simpa [isQuotable, quote] using List.mem_takeWhile_imp hmem
              rw [hquote, hlast]
              exact .quoted tail hgap hinner
      · next hquote =>
          split at h
          · contradiction
          · next hblank =>
              simp only [Option.some.injEq, Prod.mk.injEq] at h
              obtain ⟨rfl, rfl⟩ := h
              refine .word hgap (List.cons_ne_nil _ _) ?_ (Text.head?_dropWhile_eq_false _ rest)
              intro d hd
              rcases List.mem_cons.mp hd with rfl | hd
              · exact isWordPart_iff.mpr ⟨by simpa [CodePoint.isInk] using hblank, hquote⟩
              · exact List.mem_takeWhile_imp hd

/-- A line that begins with a lexeme is read so. -/
theorem next?_span_append {lexeme : Lexeme} {after : Text} (h : lexeme.EndsBefore after) :
    next? (lexeme.span ++ after) = some (lexeme, after) := by
  obtain ⟨first, rest, hbody, hink⟩ := h.exists_body_eq_cons
  have hstop : ∀ c ∈ (lexeme.body ++ after).head?, isSeparator c = false := by
    intro c hc
    rw [hbody, List.cons_append, List.head?_cons, Option.mem_some_iff] at hc
    exact hc ▸ isSeparator_of_isInk hink
  have htake := Text.takeWhile_append_of_stop h.isGap_gap hstop
  have hdrop := Text.dropWhile_append_of_stop h.isGap_gap hstop
  unfold next?
  rw [Lexeme.span, List.append_assoc, htake, hdrop]
  cases h with
  | @quoted gap inner _ hgap hinner =>
      have hall : ∀ c ∈ inner, isQuotable c = true := fun c hc => by
        simpa [isQuotable, quote] using fun heq : c = quote => hinner (heq ▸ hc)
      have hclose : ∀ c ∈ (quote :: after).head?, isQuotable c = false := by
        rintro c ⟨⟩
        rfl
      simp only [List.cons_append, List.append_assoc, List.nil_append,
        Text.takeWhile_append_of_stop hall hclose, Text.dropWhile_append_of_stop hall hclose]
      rfl
  | @word gap word _ hgap hne hword hafter =>
      cases word with
      | nil => contradiction
      | cons c word =>
          obtain ⟨hc, hquote⟩ := isWordPart_iff.mp (hword c List.mem_cons_self)
          have hblank : c.isBlank = false := by simpa [CodePoint.isInk] using hc
          have hrest : ∀ d ∈ word, isWordPart d = true := fun d hd =>
            hword d (List.mem_cons_of_mem c hd)
          simp only [List.cons_append, Text.takeWhile_append_of_stop hrest hafter,
            Text.dropWhile_append_of_stop hrest hafter, hblank]
          exact if_neg hquote

/-- The first lexeme of a line is found exactly if the line begins with it. -/
theorem next?_eq_some_iff {line after : Text} {lexeme : Lexeme} :
    next? line = some (lexeme, after) ↔ lexeme.EndsBefore after ∧ line = lexeme.span ++ after := by
  constructor
  · intro h
    exact ⟨endsBefore_of_next? h, (span_append_of_next? h).symm⟩
  · rintro ⟨h, rfl⟩
    exact next?_span_append h

/-! ## Lines -/

/-- A line that consists of lexemes and a rest at which no lexeme begins. -/
inductive IsRun : Text → List Lexeme → Text → Prop
  | stop {rest : Text} (hrest : next? rest = none) : IsRun rest [] rest
  | step {lexeme : Lexeme} {line rest : Text} {others : List Lexeme}
      (hlexeme : lexeme.EndsBefore line) (hothers : IsRun line others rest) :
      IsRun (lexeme.span ++ line) (lexeme :: others) rest

theorem IsRun.line_eq {line rest : Text} {run : List Lexeme} (h : IsRun line run rest) :
    line = run.flatMap Lexeme.span ++ rest := by
  induction h with
  | stop => rfl
  | step _ _ ih => rw [List.flatMap_cons, List.append_assoc, ← ih]

/-- A line that begins with a lexeme is not blank. -/
theorem IsRun.not_all_isBlank {line rest : Text} {run : List Lexeme} (h : IsRun line run rest)
    (hne : run ≠ []) : line.all CodePoint.isBlank = false := by
  cases h with
  | stop => contradiction
  | step hlexeme _ =>
      obtain ⟨c, body, hbody, hink⟩ := hlexeme.exists_body_eq_cons
      rw [List.all_eq_false]
      refine ⟨c, by simp [Lexeme.span, hbody], ?_⟩
      simpa [CodePoint.isInk] using hink

theorem isRun_lexemes (line : Text) : IsRun line (lexemes line).1 (lexemes line).2 := by
  induction line using lexemes.induct with
  | case1 line hnext =>
      rw [lexemes]
      split
      · exact .stop hnext
      · next h => rw [hnext] at h; contradiction
  | case2 line lexeme after hnext others rest hothers ih =>
      rw [lexemes]
      split
      · next h => rw [hnext] at h; contradiction
      · next lexeme' after' h =>
          rw [hnext, Option.some.injEq, Prod.mk.injEq] at h
          obtain ⟨rfl, rfl⟩ := h
          obtain ⟨hlexeme, rfl⟩ := next?_eq_some_iff.mp hnext
          exact .step hlexeme ih

/-- The lexemes of a line are those that it consists of. -/
theorem lexemes_eq_iff {line rest : Text} {run : List Lexeme} :
    lexemes line = (run, rest) ↔ IsRun line run rest := by
  constructor
  · intro h
    have hrun := isRun_lexemes line
    rwa [h] at hrun
  · intro h
    induction h with
    | stop hrest =>
        rw [lexemes]
        split
        · rfl
        · next h => rw [hrest] at h; contradiction
    | step hlexeme _ ih =>
        rw [lexemes]
        split
        · next h => rw [next?_span_append hlexeme] at h; contradiction
        · next h =>
            rw [next?_span_append hlexeme, Option.some.injEq, Prod.mk.injEq] at h
            obtain ⟨rfl, rfl⟩ := h
            rw [ih]

end ContentQuery.Expression
