import ContentQuery.Proofs.Steps
import ContentQuery.Proofs.TomlText

/-!
# ContentQuery.Proofs.TomlRemainder

What the steps of reading a TOML document leave of a text. None leaves more than there was, and the
steps that read no values fail for the grammar only.
-/

namespace ContentQuery.Toml

variable {α β : Type} {n m : Nat} {s rest : Text} {c mark : CodePoint}

/-- Whether reading fails for the grammar only, and leaves no more than a number of code points if
it succeeds. -/
inductive Within (n : Nat) : Except ReadError (α × Text) → Prop
  | ok {a : α} {rest : Text} : rest.length ≤ n → Within n (.ok (a, rest))
  | malformed : Within n (.error .malformed)

namespace Within

variable {read : Except ReadError (α × Text)} {a : α} {e : ReadError}

/-- What is left of a text of at most so many characters has no more of them. -/
theorem length_le (h : Within n read) (hread : read = .ok (a, rest)) : rest.length ≤ n := by
  cases h with
  | ok hrest =>
      obtain ⟨rfl, rfl⟩ := Prod.mk.inj (Except.ok.inj hread)
      exact hrest
  | malformed => contradiction

/-- A part that gives out for no cause of its own fails only by its grammar. -/
theorem eq_malformed (h : Within n read) (hread : read = .error e) : e = .malformed := by
  cases h with
  | ok => contradiction
  | malformed => exact (Except.error.inj hread).symm

theorem mono (h : Within n read) (hle : n ≤ m) : Within m read := by
  cases h with
  | ok hrest => exact .ok (hrest.trans hle)
  | malformed => exact .malformed

/-- What is read next begins where the first step has left off. -/
theorem bind {next : α × Text → Except ReadError (β × Text)} (h : Within n read)
    (hnext : ∀ a rest, rest.length ≤ n → Within m (next (a, rest))) : Within m (read >>= next) := by
  cases h with
  | ok hrest => exact hnext _ _ hrest
  | malformed => exact .malformed

/-- What a part is read as may be changed, as long as no more of the text is left for it. -/
theorem map {f : α × Text → β × Text} (h : Within n read)
    (hf : ∀ a rest, rest.length ≤ n → (f (a, rest)).2.length ≤ n) : Within n (read.map f) := by
  cases h with
  | ok hrest => exact .ok (hf _ _ hrest)
  | malformed => exact .malformed

end Within

/-! ## Strings -/

/-- Behind the end of a string of plain characters there is no more text than before it. -/
theorem length_le_of_plainStep {multiline : Bool} {after : Text}
    (h : plainStep multiline c rest = .finish after) : after.length ≤ rest.length := by
  unfold plainStep at h
  split at h
  · split at h
    · exact StringStep.finish.inj h ▸ Nat.le_refl _
    · split at h
      · split at h
        · rw [← StringStep.finish.inj h]
          exact Nat.le_add_right _ 2
        · contradiction
      · contradiction
  · split at h
    · contradiction
    · split at h <;> contradiction

/-- Behind the end of a string there is no more text than before it, whatever escape is open. -/
theorem length_le_of_stringStep {multiline : Bool} {state : StringState} {after : Text}
    (h : stringStep multiline state c rest = .finish after) : after.length ≤ rest.length := by
  cases state with
  | plain => exact length_le_of_plainStep h
  | escape =>
      simp only [stringStep, escapeStep] at h
      repeat' split at h
      all_goals contradiction
  | number missing value =>
      simp only [stringStep, numberStep] at h
      repeat' split at h
      all_goals contradiction
  | hidden afterLine =>
      simp only [stringStep] at h
      split at h
      · contradiction
      · split at h
        · contradiction
        · split at h
          · exact length_le_of_plainStep h
          · contradiction

/-- A basic string ends within the text, from any state in which it is read. -/
theorem within_readBasicFrom (multiline : Bool) (state : StringState) (s : Text) :
    Within s.length (readBasicFrom multiline state s) := by
  induction s generalizing state with
  | nil =>
      rw [readBasicFrom.eq_def]
      exact .malformed
  | cons c s ih =>
      rw [readBasicFrom.eq_def]
      simp only
      split
      · exact (ih .plain).bind fun t rest hrest => .ok (Nat.le_succ_of_le hrest)
      · exact (ih _).mono (Nat.le_succ _)
      · next hstep => exact .ok (Nat.le_succ_of_le (length_le_of_stringStep hstep))
      · exact .malformed

/-- A literal string of one line ends within the text. -/
theorem within_readLiteral (s : Text) : Within s.length (readLiteral s) := by
  induction s with
  | nil => exact .malformed
  | cons c s ih =>
      rw [readLiteral]
      split
      · exact .ok (Nat.le_succ _)
      · split
        · exact .malformed
        · exact ih.bind fun t rest hrest => .ok (Nat.le_succ_of_le hrest)

/-- A literal string of several lines ends within the text. -/
theorem within_readLiteralLines (s : Text) : Within s.length (readLiteralLines s) := by
  induction s with
  | nil => exact .malformed
  | cons c s ih =>
      rw [readLiteralLines]
      split
      · exact .ok (by rw [List.length_drop, List.length_cons]; omega)
      · split
        · exact .malformed
        · exact ih.bind fun t rest hrest => .ok (Nat.le_succ_of_le hrest)

theorem length_skipLineEnd_le (s : Text) : (skipLineEnd s).length ≤ s.length := by
  cases s with
  | nil => exact Nat.le_refl _
  | cons c s =>
      rw [skipLineEnd]
      split
      · exact Nat.le_succ _
      · exact Nat.le_refl _

/-- A string of any kind ends within the text. -/
theorem within_of_readString? {read : Except ReadError (Text × Text)}
    (h : readString? s = some read) : Within s.length read := by
  cases s with
  | nil => contradiction
  | cons c s =>
      have hopen : (skipLineEnd ((c :: s).drop 3)).length ≤ (c :: s).length :=
        (length_skipLineEnd_le _).trans (by rw [List.length_drop]; omega)
      have htrailing (t rest : Text) (hrest : rest.length ≤ (c :: s).length) :
          (readTrailing c t rest).2.length ≤ (c :: s).length := by
        rw [readTrailing, List.length_drop]
        omega
      rw [readString?] at h
      split at h
      · split at h
        · exact Option.some.inj h ▸ ((within_readBasicFrom true .plain _).mono hopen).map htrailing
        · exact Option.some.inj h ▸ (within_readBasicFrom false .plain s).mono (Nat.le_succ _)
      · split at h
        · split at h
          · exact Option.some.inj h ▸ ((within_readLiteralLines _).mono hopen).map htrailing
          · exact Option.some.inj h ▸ (within_readLiteral s).mono (Nat.le_succ _)
        · contradiction

/-! ## Dates and times -/

/-- A mark is taken exactly where the text begins with it. -/
theorem after?_eq_some_iff : after? mark s = some rest ↔ s = mark :: rest := by
  cases s with
  | nil => simp [after?]
  | cons c s => by_cases hc : c = mark <;> simp [after?, hc]

theorem length_le_of_after? (h : after? mark s = some rest) : rest.length ≤ s.length := by
  rw [after?_eq_some_iff.mp h]
  exact Nat.le_succ _

/-- A number of so many digits is a beginning of the text. -/
theorem length_le_of_number? {count least most k : Nat}
    (h : number? count least most s = some (k, rest)) : rest.length ≤ s.length := by
  simp only [number?] at h
  split at h
  · obtain ⟨-, rfl⟩ := Prod.mk.inj (Option.some.inj h)
    rw [List.length_drop]
    exact Nat.sub_le _ _
  · contradiction

/-- A time of day is a beginning of the text. -/
theorem length_le_of_afterTime? (h : afterTime? s = some rest) : rest.length ≤ s.length := by
  simp only [afterTime?, Option.bind_eq_bind, Option.bind_eq_some_iff] at h
  obtain ⟨⟨_, s₁⟩, hhour, s₂, hcolon, ⟨_, s₃⟩, hminute, s₄, hcolon', ⟨_, s₅⟩, hsecond, h⟩ := h
  have h₁ := length_le_of_number? hhour
  have h₂ := length_le_of_after? hcolon
  have h₃ := length_le_of_number? hminute
  have h₄ := length_le_of_after? hcolon'
  have h₅ := length_le_of_number? hsecond
  have hrest : rest.length ≤ s₅.length := by
    split at h
    · next fraction hpoint =>
        have hfraction := length_le_of_after? hpoint
        split at h
        · exact Option.some.inj h ▸ Nat.le_refl _
        · have hdrop := (List.dropWhile_suffix CodePoint.isDigit (l := fraction)).length_le
          rw [← Option.some.inj h]
          exact hdrop.trans hfraction
    · exact Option.some.inj h ▸ Nat.le_refl _
  simp only at h₁ h₂ h₃ h₄ h₅
  omega

/-- An offset from UTC is a beginning of the text. -/
theorem length_le_of_afterOffset? (h : afterOffset? s = some rest) : rest.length ≤ s.length := by
  cases s with
  | nil => contradiction
  | cons c s =>
      rw [afterOffset?] at h
      split at h
      · exact Option.some.inj h ▸ Nat.le_succ _
      · split at h
        · simp only [Option.bind_eq_bind, Option.bind_eq_some_iff] at h
          obtain ⟨⟨_, s₁⟩, hhour, s₂, hcolon, ⟨_, s₃⟩, hminute, h⟩ := h
          have h₁ := length_le_of_number? hhour
          have h₂ := length_le_of_after? hcolon
          have h₃ := length_le_of_number? hminute
          rw [← Option.some.inj h]
          change s₃.length ≤ s.length + 1
          simp only at h₁ h₂ h₃
          omega
        · contradiction

/-- A date is a beginning of the text. -/
theorem length_le_of_date? {date : Date} (h : date? s = some (date, rest)) :
    rest.length ≤ s.length := by
  simp only [date?, Option.bind_eq_bind, Option.bind_eq_some_iff] at h
  obtain ⟨⟨_, s₁⟩, hyear, s₂, hmark, ⟨_, s₃⟩, hmonth, s₄, hmark', ⟨_, s₅⟩, hday, h⟩ := h
  have h₁ := length_le_of_number? hyear
  have h₂ := length_le_of_after? hmark
  have h₃ := length_le_of_number? hmonth
  have h₄ := length_le_of_after? hmark'
  have h₅ := length_le_of_number? hday
  obtain ⟨-, rfl⟩ := Prod.mk.inj (Option.some.inj h)
  change s₅.length ≤ s.length
  simp only at h₁ h₂ h₃ h₄ h₅
  omega

/-- What follows a date, a time of day with an offset or nothing, leaves a rest of the text. -/
theorem length_afterDateTime_le (s : Text) : (afterDateTime s).length ≤ s.length := by
  cases s with
  | nil => exact Nat.le_refl _
  | cons c s =>
      rw [afterDateTime]
      split
      · split
        · next s₁ htime =>
            have h₁ := length_le_of_afterTime? htime
            have h₂ : ((afterOffset? s₁).getD s₁).length ≤ s₁.length := by
              cases hoffset : afterOffset? s₁ with
              | none => exact Nat.le_refl _
              | some s₂ => exact length_le_of_afterOffset? hoffset
            exact (h₂.trans h₁).trans (Nat.le_succ _)
        · exact Nat.le_refl _
      · exact Nat.le_refl _

/-- A date or a time ends within the text. -/
theorem within_of_readMoment? {read : Except ReadError (Value × Text)}
    (h : readMoment? s = some read) : Within s.length read := by
  rw [readMoment?] at h
  split at h
  · next date rest hdate =>
      split at h
      · rw [← Option.some.inj h]
        exact .ok ((length_afterDateTime_le rest).trans (length_le_of_date? hdate))
      · exact Option.some.inj h ▸ .malformed
  · obtain ⟨rest, htime, rfl⟩ := Option.map_eq_some_iff.mp h
    exact .ok (length_le_of_afterTime? htime)

/-! ## Numbers -/

/-- A run of digits of any base leaves a rest of the text. -/
theorem length_digitRun_le (isDigit : CodePoint → Bool) (s : Text) :
    (digitRun isDigit s).2.length ≤ s.length := by
  fun_induction digitRun isDigit s with
  | case1 => exact Nat.le_refl _
  | case2 c s hdigit digits after hrun ih =>
      rw [hrun] at ih
      exact Nat.le_succ_of_le ih
  | case3 c s hdigit hmark ih => exact Nat.le_succ_of_le ih
  | case4 => exact Nat.le_refl _

/-- A run of digits, joined by underscores, leaves a rest of the text. -/
theorem length_le_of_digitRun? {isDigit : CodePoint → Bool} {digits : Text}
    (h : digitRun? isDigit s = some (digits, rest)) : rest.length ≤ s.length := by
  rw [digitRun?] at h
  split at h
  · have hlength := length_digitRun_le isDigit s
    rwa [Option.some.inj h] at hlength
  · contradiction

/-- An integer with a base mark leaves a rest of the text. -/
theorem length_le_of_based? {v : Value} (h : based? s = some (v, rest)) :
    rest.length ≤ s.length := by
  simp only [based?, Option.bind_eq_bind, Option.bind_eq_some_iff] at h
  obtain ⟨s₁, hzero, letter, -, ⟨_, base⟩, -, ⟨digits, s₂⟩, hdigits, h⟩ := h
  have h₁ := length_le_of_after? hzero
  have h₂ := length_le_of_digitRun? hdigits
  have h₃ : s₁.tail.length ≤ s₁.length := by
    rw [List.length_tail]
    exact Nat.sub_le _ _
  obtain ⟨-, rfl⟩ := Prod.mk.inj (Option.some.inj h)
  exact (h₂.trans h₃).trans h₁

/-- A sign leaves a rest of the text. -/
theorem length_splitSign_le (s : Text) : (splitSign s).2.length ≤ s.length := by
  cases s with
  | nil => exact Nat.le_refl _
  | cons c s =>
      rw [splitSign]
      split
      · exact Nat.le_succ _
      · split
        · exact Nat.le_succ _
        · exact Nat.le_refl _

/-- The whole part of a number leaves a rest of the text. -/
theorem length_le_of_whole? {whole : Text} (h : whole? s = some (whole, rest)) :
    rest.length ≤ s.length := by
  rw [whole?] at h
  split at h
  · next s₁ hzero =>
      obtain ⟨-, rfl⟩ := Prod.mk.inj (Option.some.inj h)
      exact length_le_of_after? hzero
  · exact length_le_of_digitRun? h

/-- The fraction of a number leaves a rest of the text. -/
theorem length_le_of_fraction? {digits : Text} (h : fraction? s = some (digits, rest)) :
    rest.length ≤ s.length := by
  simp only [fraction?, Option.bind_eq_bind, Option.bind_eq_some_iff] at h
  obtain ⟨s₁, hpoint, h⟩ := h
  exact (length_le_of_digitRun? h).trans (length_le_of_after? hpoint)

/-- The exponent of a number leaves a rest of the text. -/
theorem length_le_of_exponent? {power : Int} (h : exponent? s = some (power, rest)) :
    rest.length ≤ s.length := by
  cases s with
  | nil => contradiction
  | cons c s =>
      rw [exponent?] at h
      split at h
      · simp only [Option.bind_eq_bind, Option.bind_eq_some_iff] at h
        obtain ⟨⟨digits, after⟩, hdigits, h⟩ := h
        obtain ⟨-, rfl⟩ := Prod.mk.inj (Option.some.inj h)
        have hsign := length_splitSign_le s
        exact ((length_le_of_digitRun? hdigits).trans hsign).trans (Nat.le_succ _)
      · contradiction

/-- A part of a number that may be left out leaves no more than there was. -/
theorem length_getD_le {α : Type} {part : Option (α × Text)}
    (h : ∀ a rest, part = some (a, rest) → rest.length ≤ s.length) :
    ((part.map (·.2)).getD s).length ≤ s.length := by
  cases part with
  | none => exact Nat.le_refl _
  | some read => exact h read.1 read.2 rfl

/-- A decimal number leaves a rest of the text. -/
theorem length_le_of_decimal? {v : Value} (h : decimal? s = some (.ok (v, rest))) :
    rest.length ≤ s.length := by
  simp only [decimal?, Option.bind_eq_bind, Option.bind_eq_some_iff] at h
  obtain ⟨⟨whole, s₁⟩, hwhole, h⟩ := h
  have h₁ := (length_le_of_whole? hwhole).trans (length_splitSign_le s)
  have h₂ := length_getD_le fun _ _ => length_le_of_fraction? (s := s₁)
  have h₃ := length_getD_le fun _ _ =>
    length_le_of_exponent? (s := ((fraction? s₁).map (·.2)).getD s₁)
  simp only at h
  split at h
  · split at h
    · cases Option.some.inj h
    · obtain ⟨-, rfl⟩ := Prod.mk.inj (Except.ok.inj (Option.some.inj h))
      exact (h₃.trans h₂).trans h₁
  · obtain ⟨-, rfl⟩ := Prod.mk.inj (Except.ok.inj (Option.some.inj h))
    exact (h₃.trans h₂).trans h₁

/-- A value that has a name leaves a rest of the text. -/
theorem length_le_of_named? {v : Value} (h : named? s = some (v, rest)) :
    rest.length ≤ s.length := by
  obtain ⟨name, -, h⟩ := Option.map_eq_some_iff.mp h
  obtain ⟨-, rfl⟩ := Prod.mk.inj h
  rw [List.length_drop]
  exact Nat.sub_le _ _

/-- Whether a step of reading leaves no more of a text than there was. -/
def Shortens (item : Read α) : Prop :=
  ∀ s a rest, item s = .ok (a, rest) → rest.length ≤ s.length

/-- A value that is no array and no table leaves no more of the text than there was. -/
theorem shortens_readScalar : Shortens readScalar := by
  intro s v rest h
  rw [readScalar] at h
  split at h
  · next read hread =>
      obtain ⟨⟨t, after⟩, hok, heq⟩ := map_eq_ok_iff.mp h
      obtain ⟨-, rfl⟩ := Prod.mk.inj heq
      exact (within_of_readString? hread).length_le hok
  · split at h
    · next read hread => exact (within_of_readMoment? hread).length_le h
    · split at h
      · next read hread => exact length_le_of_based? (hread.trans (congrArg some (Except.ok.inj h)))
      · split at h
        · next read hread => exact length_le_of_decimal? (hread.trans (congrArg some h))
        · split at h
          · next read hread =>
              exact length_le_of_named? (hread.trans (congrArg some (Except.ok.inj h)))
          · contradiction

/-! ## White space and comments -/

theorem length_skipSpace_le (s : Text) : (skipSpace s).length ≤ s.length :=
  (List.dropWhile_suffix _).length_le

/-- A comment ends within the text, and is refused only for its characters. -/
theorem within_skipComment (s : Text) : Within s.length (skipComment s) := by
  induction s with
  | nil => exact .ok (Nat.le_refl _)
  | cons c s ih =>
      rw [skipComment]
      split
      · exact .ok (Nat.le_refl _)
      · split
        · exact .malformed
        · exact ih.mono (Nat.le_succ _)

/-- The same for a step that gives nothing but the text after it. -/
def SkipsWithin (n : Nat) (read : Except ReadError Text) : Prop :=
  Within n (read.map fun rest => ((), rest))

namespace SkipsWithin

variable {read : Except ReadError Text} {e : ReadError}

theorem length_le (h : SkipsWithin n read) (hread : read = .ok rest) : rest.length ≤ n :=
  Within.length_le h (map_eq_ok_iff.mpr ⟨rest, hread, rfl⟩)

theorem eq_malformed (h : SkipsWithin n read) (hread : read = .error e) : e = .malformed :=
  Within.eq_malformed h (map_eq_error_iff.mpr hread)

end SkipsWithin

/-- A comment that may be missing ends within the text. -/
theorem skipsWithin_skipOptionalComment (s : Text) :
    SkipsWithin s.length (skipOptionalComment s) := by
  cases s with
  | nil => exact .ok (Nat.le_refl _)
  | cons c s =>
      rw [skipOptionalComment]
      split
      · cases hread : skipComment s with
        | error e =>
            rw [(within_skipComment s).eq_malformed hread]
            exact .malformed
        | ok read => exact .ok (Nat.le_succ_of_le ((within_skipComment s).length_le hread))
      · exact .ok (Nat.le_refl _)

/-- White space, line ends and comments end within the text. -/
theorem skipsWithin_skipFiller (inComment : Bool) (s : Text) :
    SkipsWithin s.length (skipFiller inComment s) := by
  induction s generalizing inComment with
  | nil => exact .ok (Nat.le_refl _)
  | cons c s ih =>
      have hlater (inComment : Bool) : SkipsWithin (c :: s).length (skipFiller inComment s) :=
        (ih inComment).mono (Nat.le_succ _)
      rw [skipFiller]
      split
      · exact hlater false
      · split
        · split
          · exact .malformed
          · exact hlater true
        · split
          · exact hlater false
          · split
            · exact hlater true
            · exact .ok (Nat.le_refl _)

/-! ## Keys -/

/-- One name of a key ends within the text. -/
theorem within_readName (s : Text) : Within s.length (readName s) := by
  cases s with
  | nil => exact .malformed
  | cons c s =>
      -- Whatever kind of name it is, white space is skipped behind it.
      have hspace {read : Except ReadError (Text × Text)} (h : Within (c :: s).length read) :
          Within (c :: s).length (read >>= fun found => pure (found.1, skipSpace found.2)) :=
        h.bind fun _ rest hrest => .ok ((length_skipSpace_le rest).trans hrest)
      rw [readName]
      split
      · exact hspace ((within_readBasicFrom false .plain s).mono (Nat.le_succ _))
      · split
        · exact hspace ((within_readLiteral s).mono (Nat.le_succ _))
        · split
          · exact hspace (.ok (List.dropWhile_suffix _).length_le)
          · exact .malformed

/-- The names of a key, as many of them as there may be, end within the text. -/
theorem within_readNames (limit : Nat) (s : Text) : Within s.length (readNames limit s) := by
  induction limit generalizing s with
  | zero => exact .ok (Nat.le_refl _)
  | succ limit ih =>
      rw [readNames]
      split
      · exact .ok (Nat.le_refl _)
      · next later hpoint =>
          have hlater : (skipSpace later).length ≤ s.length :=
            (length_skipSpace_le later).trans (length_le_of_after? hpoint)
          exact ((within_readName _).mono hlater).bind fun name rest hrest =>
            ((ih rest).mono hrest).bind fun names last hlast => .ok hlast

/-- A key ends within the text. -/
theorem within_readKey (s : Text) : Within s.length (readKey s) :=
  (within_readName s).bind fun _ rest hrest =>
    ((within_readNames rest.length rest).mono hrest).bind fun _ _ hlast => .ok hlast

theorem orMalformed_eq_ok_iff {found : Option α} {a : α} :
    orMalformed found = .ok a ↔ found = some a := by
  cases found <;> simp [orMalformed]

theorem eq_malformed_of_orMalformed {found : Option α} {e : ReadError}
    (h : orMalformed found = .error e) : e = .malformed := by
  cases found with
  | none => exact (Except.error.inj h).symm
  | some a => contradiction

end ContentQuery.Toml
