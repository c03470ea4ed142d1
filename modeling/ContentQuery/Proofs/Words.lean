import ContentQuery.Proofs.Runs

/-!
# ContentQuery.Proofs.Words

The words of a text and the white space between them. Cutting off one word after the other gives the
words of the text, in whatever way they are spaced, and what is left after one or two of them is the
text from the next word on.
-/

namespace ContentQuery.Text

variable {s word gap rest : Text}

/-- Nothing but white space. -/
def IsBlank (s : Text) : Prop := ∀ c ∈ s, c.isBlank = true

/-- A text that has no white space in front. -/
def BeginsInk (s : Text) : Prop := ∀ c ∈ s.head?, c.isInk = true

/-- What is no white space is ink. -/
theorem isInk_iff {c : CodePoint} : c.isInk = true ↔ c.isBlank = false := by
  rw [CodePoint.isInk, Bool.not_eq_true']

theorem BeginsInk.append (h : BeginsInk s) (hne : s ≠ []) (rest : Text) :
    BeginsInk (s ++ rest) := by
  cases s with
  | nil => contradiction
  | cons c s => exact h

/-- A text of ink begins with ink. -/
theorem beginsInk_of_ink (h : ∀ c ∈ s, c.isInk = true) : BeginsInk s :=
  fun c hc => h c (List.mem_of_mem_head? hc)

/-! ## Where a word ends -/

/-- After a word there is white space or nothing. -/
theorem head?_gap_append (hgap : IsBlank gap) (hsep : rest ≠ [] → gap ≠ []) :
    ∀ c ∈ (gap ++ rest).head?, c.isInk = false := by
  intro c hc
  cases gap with
  | nil =>
      have hrest : rest = [] := Decidable.byContradiction fun h => hsep h rfl
      rw [hrest] at hc
      contradiction
  | cons d gap =>
      cases hc
      rw [CodePoint.isInk, hgap _ List.mem_cons_self, Bool.not_true]

/-- The word that a text begins with is its first one, if a gap follows or nothing does. -/
theorem firstWord_gap_append (hword : ∀ c ∈ word, c.isInk = true) (hgap : IsBlank gap)
    (hsep : rest ≠ [] → gap ≠ []) : firstWord (word ++ (gap ++ rest)) = word :=
  takeWhile_append_of_stop hword (head?_gap_append hgap hsep)

/-- Behind a word and a gap there is the rest, if it begins with ink. -/
theorem afterWord_gap_append (hword : ∀ c ∈ word, c.isInk = true) (hgap : IsBlank gap)
    (hsep : rest ≠ [] → gap ≠ []) (hrest : BeginsInk rest) :
    afterWord (word ++ (gap ++ rest)) = rest := by
  rw [afterWord, dropWhile_append_of_stop hword (head?_gap_append hgap hsep)]
  exact dropWhile_append_of_stop hgap fun c hc => isInk_iff.mp (hrest c hc)

theorem isInk_of_mem_firstWord : ∀ c ∈ s.firstWord, c.isInk = true :=
  fun _ hc => List.mem_takeWhile_imp hc

/-- A text that begins with ink has a first word. -/
theorem firstWord_ne_nil (hne : s ≠ []) (hs : BeginsInk s) : s.firstWord ≠ [] := by
  cases s with
  | nil => contradiction
  | cons c s =>
      rw [firstWord, List.takeWhile_cons_of_pos (hs c rfl)]
      exact List.cons_ne_nil _ _

theorem beginsInk_afterWord (s : Text) : BeginsInk s.afterWord :=
  fun c hc => isInk_iff.mpr (head?_dropWhile_eq_false _ _ c hc)

/-- A text is its first word, white space, and what follows. -/
theorem exists_gap (s : Text) : ∃ gap, IsBlank gap ∧ (s.afterWord ≠ [] → gap ≠ []) ∧
    s.firstWord ++ (gap ++ s.afterWord) = s := by
  have htail : (s.dropWhile CodePoint.isInk).takeWhile CodePoint.isBlank ++ s.afterWord =
      s.dropWhile CodePoint.isInk := List.takeWhile_append_dropWhile
  refine ⟨(s.dropWhile CodePoint.isInk).takeWhile CodePoint.isBlank,
    fun c hc => List.mem_takeWhile_imp hc, fun hne hgap => ?_, ?_⟩
  · -- without white space the word would go on with the ink that follows
    rw [hgap, List.nil_append] at htail
    obtain ⟨c, rest, hrest⟩ := List.exists_cons_of_ne_nil hne
    have hhead : c ∈ s.afterWord.head? := by rw [hrest]; rfl
    have hink := beginsInk_afterWord s c hhead
    rw [htail] at hhead
    rw [head?_dropWhile_eq_false CodePoint.isInk s c hhead] at hink
    contradiction
  · rw [htail]
    exact List.takeWhile_append_dropWhile

/-! ## White space at the ends -/

/-- Trimming takes off the white space around a text whose two ends are ink. -/
theorem trim_between {front back : Text} (hfront : IsBlank front) (hback : IsBlank back)
    (hne : s ≠ []) (hfirst : BeginsInk s) (hlast : ∀ c ∈ s.getLast?, c.isInk = true) :
    (front ++ s ++ back).trim = s := by
  have hleft : (front ++ s ++ back).trimLeft = s ++ back := by
    rw [List.append_assoc]
    exact dropWhile_append_of_stop hfront fun c hc =>
      isInk_iff.mp (hfirst.append hne back c hc)
  have hright : (s ++ back).reverse.dropWhile CodePoint.isBlank = s.reverse := by
    rw [List.reverse_append]
    refine dropWhile_append_of_stop (fun c hc => hback c (List.mem_reverse.mp hc)) fun c hc => ?_
    rw [List.head?_reverse] at hc
    exact isInk_iff.mp (hlast c hc)
  rw [trim, hleft, trimRight, hright, List.reverse_reverse]

/-! ## Words -/

section Words

variable {c d : CodePoint}

/-- White space at the front belongs to no word. -/
theorem words_blank (hc : c.isBlank = true) (rest : Text) : words (c :: rest) = words rest := by
  rw [words.eq_def]
  exact if_pos hc

theorem words_ink (hc : c.isBlank = false) : words [c] = [[c]] := by
  rw [words.eq_def]
  exact if_neg (ne_true_of_eq_false hc)

/-- Ink before white space is a word of its own. -/
theorem words_ink_blank (hc : c.isBlank = false) (hd : d.isBlank = true) (rest : Text) :
    words (c :: d :: rest) = [c] :: words (d :: rest) := by
  rw [words.eq_def]
  simp only [hc, hd, if_true]
  rfl

/-- Ink before ink belongs to the word that begins there. -/
theorem words_ink_ink (hc : c.isBlank = false) (hd : d.isBlank = false) (rest : Text) :
    words (c :: d :: rest) =
      match words (d :: rest) with
      | [] => [[c]]
      | word :: others => (c :: word) :: others := by
  rw [words.eq_def]
  simp only [hc, hd]
  rfl

/-- White space in front of a text has no words. -/
theorem words_gap_append (hgap : IsBlank gap) (rest : Text) : words (gap ++ rest) = words rest := by
  induction gap with
  | nil => rfl
  | cons c gap ih =>
      rw [List.cons_append, words_blank (hgap c List.mem_cons_self)]
      exact ih fun d hd => hgap d (List.mem_cons_of_mem c hd)

/-- A word in front of white space, or alone, is the first of the words. -/
theorem words_word_append (hne : word ≠ []) (hword : ∀ c ∈ word, c.isInk = true)
    (hrest : ∀ c ∈ rest.head?, c.isInk = false) : words (word ++ rest) = word :: words rest := by
  induction word with
  | nil => contradiction
  | cons c word ih =>
      have hc : c.isBlank = false := isInk_iff.mp (hword c List.mem_cons_self)
      cases word with
      | nil =>
          cases rest with
          | nil => exact words_ink hc
          | cons d rest =>
              have hd : d.isBlank = true := by simpa [CodePoint.isInk] using hrest d rfl
              exact words_ink_blank hc hd rest
      | cons d word =>
          have hink : ∀ e ∈ d :: word, e.isInk = true :=
            fun e he => hword e (List.mem_cons_of_mem c he)
          have hd : d.isBlank = false := isInk_iff.mp (hink d List.mem_cons_self)
          rw [List.cons_append, List.cons_append, words_ink_ink hc hd, ← List.cons_append,
            ih (List.cons_ne_nil d word) hink]

/-- A text that begins with ink has its first word and the words of what follows. -/
theorem words_eq_cons (hne : s ≠ []) (hs : BeginsInk s) :
    words s = s.firstWord :: words s.afterWord := by
  obtain ⟨gap, hgap, hsep, hsplit⟩ := exists_gap s
  calc words s = words (s.firstWord ++ (gap ++ s.afterWord)) := by rw [hsplit]
    _ = s.firstWord :: words (gap ++ s.afterWord) :=
        words_word_append (firstWord_ne_nil hne hs) isInk_of_mem_firstWord
          (head?_gap_append hgap hsep)
    _ = s.firstWord :: words s.afterWord := by rw [words_gap_append hgap]

/-- White space behind a text has no words. -/
theorem words_append_gap (s : Text) (hgap : IsBlank gap) : words (s ++ gap) = words s := by
  have hnone : words gap = [] := by
    rw [← List.append_nil gap, words_gap_append hgap]
    rfl
  fun_induction words s with
  | case1 => exact hnone
  | case2 c rest hc ih => rw [List.cons_append, words_blank hc, ih]
  | case3 c hc =>
      have hink : ∀ d ∈ ([c] : Text), d.isInk = true := by simpa [isInk_iff] using hc
      have hstop : ∀ d ∈ (gap ++ []).head?, d.isInk = false :=
        head?_gap_append hgap (absurd rfl)
      rw [List.append_nil] at hstop
      rw [words_word_append (List.cons_ne_nil c []) hink hstop, hnone]
  | case4 c hc next tail hnext ih =>
      rw [List.cons_append, List.cons_append, words_ink_blank (eq_false_of_ne_true hc) hnext,
        ← List.cons_append, ih]
  | case5 c hc next tail hnext _ ih | case6 c hc next tail hnext _ _ _ ih =>
      have hstep := words_ink_ink (eq_false_of_ne_true hc) (eq_false_of_ne_true hnext) (tail ++ gap)
      rw [← List.cons_append, ih] at hstep
      exact hstep

end Words

/-! ## Trimming -/

/-- Behind what trimming leaves there is only white space. -/
theorem exists_back (s : Text) : ∃ back, IsBlank back ∧ s.trim ++ back = s.trimLeft := by
  refine ⟨(s.trimLeft.reverse.takeWhile CodePoint.isBlank).reverse, fun c hc => ?_, ?_⟩
  · exact List.mem_takeWhile_imp (List.mem_reverse.mp hc)
  · rw [trim, trimRight, ← List.reverse_append, List.takeWhile_append_dropWhile,
      List.reverse_reverse]

/-- Trimming changes no words. -/
theorem words_trim (s : Text) : words s.trim = words s := by
  obtain ⟨back, hback, hsplit⟩ := exists_back s
  have hfront : IsBlank (s.takeWhile CodePoint.isBlank) := fun c hc => List.mem_takeWhile_imp hc
  calc words s.trim = words s.trimLeft := by rw [← hsplit, words_append_gap _ hback]
    _ = words (s.takeWhile CodePoint.isBlank ++ s.trimLeft) := (words_gap_append hfront _).symm
    _ = words s := by rw [trimLeft, List.takeWhile_append_dropWhile]

/-- A trimmed text begins with ink. -/
theorem beginsInk_trim (s : Text) : BeginsInk s.trim := by
  obtain ⟨back, -, hsplit⟩ := exists_back s
  intro c hc
  have hhead : c ∈ s.trimLeft.head? := by
    rw [← hsplit, List.head?_append, Option.mem_def.mp hc]
    rfl
  exact isInk_iff.mpr (head?_dropWhile_eq_false _ _ c hhead)

/-! ## The first two words -/

theorem afterWord_ne_nil (h : s.afterWord.afterWord ≠ []) : s.afterWord ≠ [] := by
  intro hrest
  rw [hrest] at h
  contradiction

/-- A text has one word at most, or two, or three at least: this is seen from what is left after the
first word and after the second one. -/
theorem words_cases (s : Text) :
    (s.trim.afterWord = [] ∧ s.words.length ≤ 1) ∨
    (s.trim.afterWord ≠ [] ∧ s.trim.afterWord.afterWord = [] ∧
      s.words = [s.trim.firstWord, s.trim.afterWord.firstWord]) ∨
    (s.trim.afterWord.afterWord ≠ [] ∧ ∃ third others,
      s.words = s.trim.firstWord :: s.trim.afterWord.firstWord :: third :: others) := by
  rw [← words_trim s]
  have hbegins := beginsInk_trim s
  generalize s.trim = t at hbegins ⊢
  have hrest := beginsInk_afterWord t
  have hvalue := beginsInk_afterWord t.afterWord
  by_cases ht : t = []
  · subst ht
    exact .inl ⟨rfl, Nat.zero_le 1⟩
  rw [words_eq_cons ht hbegins]
  by_cases hone : t.afterWord = []
  · rw [hone]
    exact .inl ⟨rfl, Nat.le_refl 1⟩
  rw [words_eq_cons hone hrest]
  by_cases htwo : t.afterWord.afterWord = []
  · rw [htwo]
    exact .inr (.inl ⟨hone, rfl, rfl⟩)
  · rw [words_eq_cons htwo hvalue]
    exact .inr (.inr ⟨htwo, _, _, rfl⟩)

end ContentQuery.Text
