import ContentQuery.Condition
import ContentQuery.Proofs.Lexemes
import ContentQuery.Proofs.OperationNames
import ContentQuery.Proofs.Words

/-!
# ContentQuery.Proofs.ConditionForm

The form of a condition: a path, which may be left out, a word that names an operation, and a
value, with white space between them. A text is read as a condition exactly if it has this form,
and its words tell whether it does.
-/

namespace ContentQuery

open Expression (quote)

/-! ## Values in quotes -/

/-- A string in quotes is read as what stands between them. -/
theorem Literal.parse_quoted (value : Text) :
    Literal.parse (quote :: value ++ [quote]) = .string value := by
  have htrim : Text.trim (quote :: value ++ [quote]) = quote :: value ++ [quote] := by
    apply Text.trim_eq_self
    · rintro c ⟨⟩
      rfl
    · intro c hc
      rw [List.getLast?_concat, Option.mem_some_iff] at hc
      exact hc ▸ rfl
  have hquoted : Literal.isQuoted (quote :: value ++ [quote]) = true := by
    simp only [Literal.isQuoted, List.getLast?_concat]
    simp [quote]
  have hinner : ((quote :: value ++ [quote] : Text).drop 1).dropLast = value := List.dropLast_concat
  unfold Literal.parse
  dsimp only
  rw [htrim, if_pos hquoted, hinner]

namespace Condition

variable {source : Text} {operation : Operation}

/-! ## What is read -/

/-- If the first word names an operation, the rest is the value. -/
theorem parse_of_name (hrest : source.trim.afterWord ≠ [])
    (hname : Operation.ofName? source.trim.firstWord.lower = some operation) :
    parse source = .ok ⟨[], operation, Literal.parse source.trim.afterWord, source⟩ := by
  unfold parse
  simp only [if_neg hrest, hname]

/-- If the second word names an operation, and the first one does not, the first is the path and the
rest the value. -/
theorem parse_of_path (hpath : Operation.ofName? source.trim.firstWord.lower = none)
    (hname : Operation.ofName? source.trim.afterWord.firstWord.lower = some operation)
    (hvalue : source.trim.afterWord.afterWord ≠ []) :
    parse source = .ok ⟨source.trim.firstWord, operation,
      Literal.parse source.trim.afterWord.afterWord, source⟩ := by
  have hrest := Text.afterWord_ne_nil hvalue
  unfold parse
  simp only [if_neg hrest, hpath, hname, if_neg hvalue]

/-- A condition taken apart: a path that names no operation, or none, a word that names the
operation, and the value as it is written, with the white space between them. -/
structure Form where
  path : Text
  space : Text
  word : Text
  operation : Operation
  gap : Text
  raw : Text
  path_isInk : ∀ c ∈ path, c.isInk = true
  path_not_isNamed : ¬ Operation.IsNamed path
  space_isBlank : space.IsBlank
  space_eq_nil_iff : space = [] ↔ path = []
  word_isInk : ∀ c ∈ word, c.isInk = true
  isAllowed : operation.IsAllowed
  lower_word : word.lower = operation.name
  gap_isBlank : gap.IsBlank
  gap_ne_nil : gap ≠ []
  raw_beginsInk : raw.BeginsInk
  raw_ne_nil : raw ≠ []

namespace Form

variable (form : Form)

/-- The text that is taken apart. -/
def text : Text := form.path ++ (form.space ++ (form.word ++ (form.gap ++ form.raw)))

/-- What the text is read as. -/
def condition (source : Text) : Condition :=
  ⟨form.path, form.operation, Literal.parse form.raw, source⟩

theorem word_ne_nil : form.word ≠ [] := by
  intro h
  have hname := form.lower_word
  rw [h] at hname
  exact form.operation.name_ne_nil hname.symm

theorem ofName?_word : Operation.ofName? form.word.lower = some form.operation :=
  Operation.ofName?_eq_some_iff.mpr ⟨form.isAllowed, form.lower_word⟩

theorem firstWord_word : Text.firstWord (form.word ++ (form.gap ++ form.raw)) = form.word :=
  Text.firstWord_gap_append form.word_isInk form.gap_isBlank fun _ => form.gap_ne_nil

theorem afterWord_word : Text.afterWord (form.word ++ (form.gap ++ form.raw)) = form.raw :=
  Text.afterWord_gap_append form.word_isInk form.gap_isBlank (fun _ => form.gap_ne_nil)
    form.raw_beginsInk

theorem text_of_path_eq_nil (h : form.path = []) :
    form.text = form.word ++ (form.gap ++ form.raw) := by
  rw [text, h, form.space_eq_nil_iff.mpr h, List.nil_append, List.nil_append]

/-- A path stands first, if there is one. -/
theorem firstWord_path (h : form.path ≠ []) : form.text.firstWord = form.path :=
  Text.firstWord_gap_append form.path_isInk form.space_isBlank
    fun _ => form.space_eq_nil_iff.not.mpr h

/-- Behind a path there are the word for the operation and the value. -/
theorem afterWord_path (h : form.path ≠ []) :
    form.text.afterWord = form.word ++ (form.gap ++ form.raw) :=
  Text.afterWord_gap_append form.path_isInk form.space_isBlank
    (fun _ => form.space_eq_nil_iff.not.mpr h)
    ((Text.beginsInk_of_ink form.word_isInk).append form.word_ne_nil _)

/-- A text of the form is read as the condition. -/
theorem parse_eq (h : form.text = source.trim) : parse source = .ok (form.condition source) := by
  by_cases hpath : form.path = []
  · rw [form.text_of_path_eq_nil hpath] at h
    have hfirst := form.firstWord_word
    have hrest := form.afterWord_word
    rw [h] at hfirst hrest
    have hread := parse_of_name (hrest ▸ form.raw_ne_nil) (hfirst ▸ form.ofName?_word)
    rw [hread, hrest, condition, hpath]
  · have hfirst := form.firstWord_path hpath
    have hrest := form.afterWord_path hpath
    rw [h] at hfirst hrest
    have hnone := Operation.not_isNamed_iff.mp form.path_not_isNamed
    rw [parse_of_path (hfirst ▸ hnone) (by rw [hrest, firstWord_word, ofName?_word])
      (by rw [hrest, afterWord_word]; exact form.raw_ne_nil), hrest, afterWord_word, hfirst,
      condition]

/-- The first of the words is the path, or the word for the operation where there is none. -/
theorem head?_words (h : form.text = source.trim) :
    source.words.head? = some (if form.path = [] then form.word else form.path) := by
  have hne : source.trim ≠ [] := by
    intro hempty
    rw [hempty, text, List.append_eq_nil_iff, List.append_eq_nil_iff, List.append_eq_nil_iff] at h
    exact form.word_ne_nil h.2.2.1
  rw [← Text.words_trim, Text.words_eq_cons hne (Text.beginsInk_trim source), List.head?_cons, ← h]
  split
  · next hpath => rw [form.text_of_path_eq_nil hpath, firstWord_word]
  · next hpath => rw [form.firstWord_path hpath]

/-- There is no path exactly if the first word names an operation. -/
theorem path_eq_nil_iff (h : form.text = source.trim) :
    form.path = [] ↔ ∃ first, source.words.head? = some first ∧ Operation.IsNamed first := by
  rw [form.head?_words h]
  split
  · next hpath =>
      have hnamed : Operation.IsNamed form.word :=
        ⟨form.operation, form.isAllowed, form.lower_word⟩
      exact iff_of_true hpath ⟨form.word, rfl, hnamed⟩
  · next hpath =>
      refine iff_of_false hpath ?_
      rintro ⟨first, hfirst, hnamed⟩
      cases hfirst
      exact form.path_not_isNamed hnamed

end Form

/-- If the first word names an operation and there is another, the text has the form of a condition
without a path. -/
theorem exists_form_of_name (hrest : source.trim.afterWord ≠ [])
    (hname : Operation.ofName? source.trim.firstWord.lower = some operation) :
    ∃ form : Form, form.text = source.trim ∧ parse source = .ok (form.condition source) := by
  obtain ⟨gap, hgap, hsep, hsplit⟩ := Text.exists_gap source.trim
  obtain ⟨hallowed, hlower⟩ := Operation.ofName?_eq_some_iff.mp hname
  let form : Form :=
    { path := [], space := [], word := source.trim.firstWord, operation, gap
      raw := source.trim.afterWord
      path_isInk := nofun
      path_not_isNamed := fun ⟨operation, _, h⟩ => operation.name_ne_nil h.symm
      space_isBlank := nofun
      space_eq_nil_iff := iff_of_true rfl rfl
      word_isInk := Text.isInk_of_mem_firstWord
      isAllowed := hallowed
      lower_word := hlower
      gap_isBlank := hgap
      gap_ne_nil := hsep hrest
      raw_beginsInk := Text.beginsInk_afterWord _
      raw_ne_nil := hrest }
  exact ⟨form, hsplit, form.parse_eq hsplit⟩

/-- If the second word names an operation and there is a third, the text has the form of a condition
with a path. -/
theorem exists_form_of_path (hpath : Operation.ofName? source.trim.firstWord.lower = none)
    (hname : Operation.ofName? source.trim.afterWord.firstWord.lower = some operation)
    (hvalue : source.trim.afterWord.afterWord ≠ []) :
    ∃ form : Form, form.text = source.trim ∧ parse source = .ok (form.condition source) := by
  obtain ⟨space, hspace, hspaceSep, hspaceSplit⟩ := Text.exists_gap source.trim
  obtain ⟨gap, hgap, hsep, hsplit⟩ := Text.exists_gap source.trim.afterWord
  obtain ⟨hallowed, hlower⟩ := Operation.ofName?_eq_some_iff.mp hname
  have hrest := Text.afterWord_ne_nil hvalue
  have hfirst : source.trim.firstWord ≠ [] := by
    refine Text.firstWord_ne_nil (fun hempty => ?_) (Text.beginsInk_trim source)
    rw [hempty] at hrest
    contradiction
  let form : Form :=
    { path := source.trim.firstWord, space, word := source.trim.afterWord.firstWord, operation, gap
      raw := source.trim.afterWord.afterWord
      path_isInk := Text.isInk_of_mem_firstWord
      path_not_isNamed := Operation.not_isNamed_iff.mpr hpath
      space_isBlank := hspace
      space_eq_nil_iff := iff_of_false (hspaceSep hrest) hfirst
      word_isInk := Text.isInk_of_mem_firstWord
      isAllowed := hallowed
      lower_word := hlower
      gap_isBlank := hgap
      gap_ne_nil := hsep hvalue
      raw_beginsInk := Text.beginsInk_afterWord _
      raw_ne_nil := hvalue }
  have htext : form.text = source.trim := by
    rw [Form.text, hsplit, hspaceSplit]
  exact ⟨form, htext, form.parse_eq htext⟩

/-! ## What is refused -/

/-- Whether a text of given words is a condition: the first one names an operation and there is
another, or the second one does and there are two others. -/
def Accepts (words : List Text) : Prop :=
  (2 ≤ words.length ∧ ∃ first, words[0]? = some first ∧ Operation.IsNamed first) ∨
    (3 ≤ words.length ∧ ∃ second, words[1]? = some second ∧ Operation.IsNamed second)

/-- What is wrong with a text of given words that is no condition. -/
def problemOf (condition : Text) : List Text → SyntaxProblem
  | [_, second] =>
    if (Operation.ofName? second.lower).isSome then .noValue condition else .noOperator condition
  | _ :: second :: _ => problemWith second.lower condition
  | _ => .noValue condition

theorem not_accepts_of_length {words : List Text} (h : words.length ≤ 1) : ¬ Accepts words := by
  rintro (⟨hlength, -⟩ | ⟨hlength, -⟩) <;> omega

/-- Two words are a condition exactly if the first one names an operation. -/
theorem accepts_pair_iff {first second : Text} :
    Accepts [first, second] ↔ Operation.IsNamed first := by
  simp [Accepts]

/-- Three words or more are a condition exactly if the first or the second one names an
operation. -/
theorem accepts_cons_iff {first second third : Text} {others : List Text} :
    Accepts (first :: second :: third :: others) ↔
      Operation.IsNamed first ∨ Operation.IsNamed second := by
  simp [Accepts]

theorem problemOf_of_length {words : List Text} (h : words.length ≤ 1) (condition : Text) :
    problemOf condition words = .noValue condition := by
  match words with
  | [] => rfl
  | [_] => rfl
  | _ :: _ :: _ => simp at h

/-- A text either has the form of a condition and is read as one, or its words do not allow it and
it is refused for them. -/
theorem parse_cases (source : Text) :
    (Accepts source.words ∧
      ∃ form : Form, form.text = source.trim ∧ parse source = .ok (form.condition source)) ∨
    (¬ Accepts source.words ∧ parse source = .error (problemOf source.trim source.words)) := by
  rcases Text.words_cases source with ⟨hrest, hfew⟩ | ⟨hrest, hvalue, hwords⟩ |
    ⟨hvalue, third, others, hwords⟩
  · -- one word at most
    refine .inr ⟨not_accepts_of_length hfew, ?_⟩
    rw [problemOf_of_length hfew]
    exact if_pos hrest
  · -- two words: behind the second one there is no value
    rw [hwords, accepts_pair_iff]
    cases hfirst : Operation.ofName? source.trim.firstWord.lower with
    | some operation =>
        exact .inl ⟨Operation.isNamed_iff.mpr ⟨operation, hfirst⟩, exists_form_of_name hrest hfirst⟩
    | none =>
        refine .inr ⟨Operation.not_isNamed_iff.mpr hfirst, ?_⟩
        unfold parse problemOf
        cases hsecond : Operation.ofName? source.trim.afterWord.firstWord.lower <;>
          simp [hrest, hfirst, hsecond, hvalue]
  · -- three words or more
    rw [hwords, accepts_cons_iff]
    have hrest := Text.afterWord_ne_nil hvalue
    cases hfirst : Operation.ofName? source.trim.firstWord.lower with
    | some operation =>
        exact .inl ⟨.inl (Operation.isNamed_iff.mpr ⟨operation, hfirst⟩),
          exists_form_of_name hrest hfirst⟩
    | none =>
        have hpath := Operation.not_isNamed_iff.mpr hfirst
        cases hsecond : Operation.ofName? source.trim.afterWord.firstWord.lower with
        | some operation =>
            exact .inl ⟨.inr (Operation.isNamed_iff.mpr ⟨operation, hsecond⟩),
              exists_form_of_path hfirst hsecond hvalue⟩
        | none =>
            refine .inr ⟨not_or.mpr ⟨hpath, Operation.not_isNamed_iff.mpr hsecond⟩, ?_⟩
            unfold parse problemOf
            simp only [if_neg hrest, hfirst, hsecond, if_neg hvalue]

/-- A text is read as a condition exactly if there are two words, of which the first names an
operation, or three, of which the second does. It then has the form of a condition, with no path
exactly if the first word names an operation, and it is read as the path, the operation and the
literal that stand there; in whatever form it is taken apart, this is what is read. A value in
quotes is read as the string between them, whatever it is. Any other text is refused, for its
words. -/
theorem parse_eq_ok_iff_form (source : Text) :
    ((∃ cond, parse source = .ok cond) ↔ Accepts source.words) ∧
    (¬ Accepts source.words → parse source = .error (problemOf source.trim source.words)) ∧
    (∀ cond, parse source = .ok cond ↔
      ∃ form : Form, form.text = source.trim ∧ cond = form.condition source) ∧
    ∀ form : Form, form.text = source.trim →
      (form.path = [] ↔ ∃ first, source.words[0]? = some first ∧ Operation.IsNamed first) ∧
      ∀ value : Text, form.raw = quote :: value ++ [quote] →
        parse source = .ok ⟨form.path, form.operation, .string value, source⟩ := by
  refine ⟨?_, fun hwords => ?_, fun cond => ?_, fun form htext => ⟨?_, fun value hraw => ?_⟩⟩
  · rcases parse_cases source with ⟨hwords, form, -, hparse⟩ | ⟨hwords, hparse⟩
    · exact iff_of_true ⟨_, hparse⟩ hwords
    · rw [hparse]
      exact iff_of_false nofun hwords
  · rcases parse_cases source with ⟨haccepts, -⟩ | ⟨-, hparse⟩
    · contradiction
    · exact hparse
  · constructor
    · intro h
      rcases parse_cases source with ⟨-, form, htext, hparse⟩ | ⟨-, hparse⟩
      · rw [hparse] at h
        exact ⟨form, htext, (Except.ok.inj h).symm⟩
      · rw [hparse] at h
        contradiction
    · rintro ⟨form, htext, rfl⟩
      exact form.parse_eq htext
  · rw [← List.head?_eq_getElem?]
    exact form.path_eq_nil_iff htext
  · rw [form.parse_eq htext, Form.condition, hraw, Literal.parse_quoted]

/-- A name in mixed letter case, and a string with quotes and a line break in it. -/
example : parse "\nEqual  Equals-INSENSITIVE\t\"a \"b\"\n\" " =
    .ok ⟨"Equal", ⟨.equals, true⟩, .string "a \"b\"\n",
      "\nEqual  Equals-INSENSITIVE\t\"a \"b\"\n\" "⟩ := by
  decide +kernel

end Condition

end ContentQuery
