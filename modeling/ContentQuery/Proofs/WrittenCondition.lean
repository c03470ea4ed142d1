import ContentQuery.Proofs.ConditionForm
import ContentQuery.Query

/-!
# ContentQuery.Proofs.WrittenCondition

Conditions written as a path, the name of an operation and a literal, with single spaces between
them, and how they are read.
-/

namespace ContentQuery

/-! ## Conditions -/

namespace Condition

/-- The mark between the parts of a written condition. -/
def space : CodePoint := ' '

theorem isBlank_space : Text.IsBlank [space] := List.forall_mem_singleton.mpr rfl

/-- A condition with a path as it is written. -/
def written (path : Text) (op : Operation) (value : Text) : Text :=
  path ++ space :: (op.name ++ space :: value)

/-- A written condition has no white space around it. -/
theorem trim_written {path value : Text} (op : Operation)
    (hpath : path ≠ []) (hink : ∀ c ∈ path, c.isInk = true)
    (hvalue : value ≠ []) (hlast : ∀ c ∈ value.getLast?, c.isInk = true) :
    (written path op value).trim = written path op value := by
  apply Text.trim_eq_self
  · intro c hc
    cases path with
    | nil => contradiction
    | cons d rest =>
        simp only [written, List.cons_append, List.head?_cons, Option.mem_some_iff] at hc
        exact hc ▸ hink d (by simp)
  · intro c hc
    apply hlast c
    cases value with
    | nil => contradiction
    | cons d rest => simpa [written, List.getLast?_append, List.getLast?_cons] using hc

/-- What is written is read: the path as it is, the operation by its name, and the literal from all
that follows. The path is one word that is not the name of an operation. -/
theorem parse_written {path value : Text} {op : Operation}
    (hpath : path ≠ []) (hink : ∀ c ∈ path, c.isInk = true)
    (hname : Operation.ofName? path.lower = none) (hop : Operation.ofName? op.name = some op)
    (hvalue : value ≠ []) (hfirst : ∀ c ∈ value.head?, c.isInk = true)
    (hlast : ∀ c ∈ value.getLast?, c.isInk = true) :
    parse (written path op value) =
      .ok ⟨path, op, Literal.parse value, written path op value⟩ := by
  let form : Form :=
    { path, space := [space], word := op.name, operation := op, gap := [space], raw := value
      path_isInk := hink
      path_not_isNamed := Operation.not_isNamed_iff.mpr hname
      space_isBlank := isBlank_space
      space_eq_nil_iff := iff_of_false (List.cons_ne_nil _ _) hpath
      word_isInk := fun c hc => (Operation.isInk_and_isPlain_of_mem_name op c hc).1
      isAllowed := Operation.isAllowed_of_ofName? hop
      lower_word := op.lower_name
      gap_isBlank := isBlank_space
      gap_ne_nil := List.cons_ne_nil _ _
      raw_beginsInk := hfirst
      raw_ne_nil := hvalue }
  exact form.parse_eq (trim_written op hpath hink hvalue hlast).symm

end Condition

namespace Query

/-- A written condition is no connective. -/
theorem ofWord?_written (path : Text) (op : Operation) (value : Text) :
    Connective.ofWord? (Condition.written path op value) = none := by
  have hspace : Condition.space ∈ (Condition.written path op value).lower :=
    Case.mem_lowerFrom_of_isPlain rfl (by simp [Condition.written]) false
  have hand : (Condition.written path op value).lower ≠ ("and" : Text) := by
    intro h
    rw [h] at hspace
    exact absurd hspace (by decide)
  have hor : (Condition.written path op value).lower ≠ ("or" : Text) := by
    intro h
    rw [h] at hspace
    exact absurd hspace (by decide)
  unfold Connective.ofWord?
  rw [if_neg hand, if_neg hor]

/-- A single written condition is read as the query that has no other. -/
theorem parse_written {path value : Text} {op : Operation}
    (hpath : path ≠ []) (hink : ∀ c ∈ path, c.isInk = true)
    (hname : Operation.ofName? path.lower = none) (hop : Operation.ofName? op.name = some op)
    (hvalue : value ≠ []) (hfirst : ∀ c ∈ value.head?, c.isInk = true)
    (hlast : ∀ c ∈ value.getLast?, c.isInk = true) :
    parse [Condition.written path op value] =
      .ok (some (chain ⟨path, op, Literal.parse value, Condition.written path op value⟩ [])) := by
  have hcondition : parseCondition 0 (Condition.written path op value) =
      .ok ⟨path, op, Literal.parse value, Condition.written path op value⟩ := by
    unfold parseCondition
    simp only [Condition.trim_written op hpath hink hvalue hlast, ofWord?_written,
      Condition.parse_written hpath hink hname hop hvalue hfirst hlast]
    rw [if_neg (by simp [Condition.written])]
    rfl
  rw [parse, hcondition]
  rfl

end Query

end ContentQuery
