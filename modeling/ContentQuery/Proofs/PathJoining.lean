import ContentQuery.Proofs.Breakdown
import ContentQuery.Proofs.ProperValues
import ContentQuery.Proofs.Steps

/-!
# ContentQuery.Proofs.PathJoining

Paths put together. A point behind a path cuts off what follows, unless the path ends with a
backslash that takes the point. So a path that goes on behind a point is resolved in turn: its
first part from the root, and the rest from where the first part has led. It leads nowhere if one
of them does, and it is not resolved where one of them is not.
-/

namespace ContentQuery.Path

/-! ## Components -/

/-- How many backslashes a path ends with. -/
def trailingMarks (path : Text) : Nat :=
  (path.reverse.takeWhile fun c => c = ('\\' : CodePoint)).length

/-- Whether a path ends with a backslash that would take a character after it as part of the
component: with one that is not itself taken by the one before it. -/
def EndsOpen (path : Text) : Prop := trailingMarks path % 2 = 1

instance (path : Text) : Decidable (EndsOpen path) := inferInstanceAs (Decidable (_ = 1))

theorem trailingMarks_le_length (path : Text) : trailingMarks path ≤ path.length := by
  have h : trailingMarks path ≤ path.reverse.length := (List.takeWhile_sublist _).length_le
  rwa [List.length_reverse] at h

theorem trailingMarks_mark (path : Text) :
    trailingMarks ('\\' :: path) =
      if trailingMarks path = path.length then path.length + 1 else trailingMarks path := by
  unfold trailingMarks
  rw [List.reverse_cons, List.takeWhile_append, List.length_reverse]
  split
  · simp
  · rfl

theorem trailingMarks_cons {c : CodePoint} (hc : c ≠ '\\') (path : Text) :
    trailingMarks (c :: path) = trailingMarks path := by
  unfold trailingMarks
  rw [List.reverse_cons, List.takeWhile_append, List.length_reverse]
  split
  · next h => simp [hc, h]
  · rfl

/-- A backslash and the character that it takes are as good as none of both. -/
theorem endsOpen_escaped_iff (c : CodePoint) (path : Text) :
    EndsOpen ('\\' :: c :: path) ↔ EndsOpen path := by
  unfold EndsOpen
  have hle := trailingMarks_le_length path
  rw [trailingMarks_mark, List.length_cons]
  by_cases hc : c = '\\'
  · subst hc
    rw [trailingMarks_mark]
    split <;> split <;> omega
  · rw [trailingMarks_cons hc, if_neg (by omega)]

theorem endsOpen_cons_iff {c : CodePoint} (hc : c ≠ '\\') (path : Text) :
    EndsOpen (c :: path) ↔ EndsOpen path := by
  rw [EndsOpen, trailingMarks_cons hc, EndsOpen]

theorem consFirst_append (c : CodePoint) {components : List Text} (h : components ≠ [])
    (more : List Text) : consFirst c (components ++ more) = consFirst c components ++ more := by
  cases components with
  | nil => contradiction
  | cons component rest => rfl

/-- A point behind a path cuts off what follows, unless a backslash takes it. -/
theorem components_append_point {path : Text} (h : ¬ EndsOpen path) (rest : Text) :
    components (path ++ ('.' : CodePoint) :: rest) = components path ++ components rest := by
  fun_induction components path with
  | case1 => rw [List.nil_append, components.eq_def]; rfl
  | case2 => exact absurd rfl h
  | case3 escaped path ih =>
      rw [List.cons_append, List.cons_append, components.eq_def]
      simp only [if_true]
      rw [ih ((endsOpen_escaped_iff _ _).not.mp h), consFirst_append _ (components_ne_nil _)]
  | case4 path hmark ih =>
      rw [List.cons_append, components.eq_def]
      simp only [if_neg hmark, if_true]
      rw [ih ((endsOpen_cons_iff hmark _).not.mp h)]
      rfl
  | case5 c path hmark hpoint ih =>
      rw [List.cons_append, components.eq_def]
      simp only [if_neg hmark, if_neg hpoint]
      rw [ih ((endsOpen_cons_iff hmark _).not.mp h), consFirst_append _ (components_ne_nil _)]

/-! ## Values -/

/-- Components that are put together are followed in turn. -/
theorem follow?_append (root : Json) (before after : List Text) :
    follow? root (before ++ after) =
      match follow? root before with
      | .error e => .error e
      | .ok none => .ok none
      | .ok (some value) => follow? value after := by
  induction before generalizing root with
  | nil => rfl
  | cons component before ih =>
      rw [List.cons_append, follow?_cons, follow?_cons]
      cases child? root component with
      | error e => rfl
      | ok found =>
          cases found with
          | none => rfl
          | some child => exact ih child

variable {path later : Text}

/-- A path that goes on behind a point is resolved in turn. -/
theorem resolve?_append_point (hpath : path ≠ []) (hlater : later ≠ []) (hopen : ¬ EndsOpen path)
    (root : Json) :
    resolve? root (path ++ ('.' : CodePoint) :: later) =
      match resolve? root path with
      | .error e => .error e
      | .ok none => .ok none
      | .ok (some value) => resolve? value later := by
  have hne : path ++ ('.' : CodePoint) :: later ≠ [] :=
    List.append_ne_nil_of_right_ne_nil path (List.cons_ne_nil _ _)
  simp only [resolve?, if_neg hne, if_neg hpath, if_neg hlater]
  rw [components_append_point hopen, follow?_append]

/-- Where the first of two paths leads nowhere, the path of both does. Where it leads to a value,
the path of both leads where the second one leads from this value. And the path of both is not
resolved exactly if the first one is not, or the second one is not from where the first one has
led. The root is a value of JSON proper, and so is the one between. The paths are not empty, and
the first one does not end with a backslash that is not taken by another one; they may have
components without a name, signs for lengths and indices of any length. -/
theorem resolve?_joined (root : Json) (hroot : root.hasNaN = false) (hpath : path ≠ [])
    (hlater : later ≠ []) (hopen : ¬ EndsOpen path) :
    let joined := path ++ ('.' : CodePoint) :: later
    (resolve? root path = .ok none → resolve? root joined = .ok none) ∧
    (∀ value, resolve? root path = .ok (some value) →
      value.hasNaN = false ∧ resolve? root joined = resolve? value later) ∧
    ∀ e, resolve? root joined = .error e ↔
      resolve? root path = .error e ∨
      ∃ value, resolve? root path = .ok (some value) ∧ resolve? value later = .error e := by
  intro joined
  have hjoined := resolve?_append_point hpath hlater hopen root
  refine ⟨fun hnone => ?_, fun value hvalue => ?_, fun e => ?_⟩
  · rw [hjoined, hnone]
  · exact ⟨hasNaN_of_resolve? hroot hvalue, by rw [hjoined, hvalue]⟩
  · rw [hjoined]
    cases resolve? root path with
    | error e' => simp
    | ok found => cases found <;> simp

/-- A name of a point and a backslash, an index behind it, and the length of the array there. -/
theorem resolve?_joined_of_marked :
    let root : Json := .object [(".\\", .array [.null, .array [.int 7, .string "x"]])]
    let path : Text := "\\.\\\\"
    let later : Text := "1.#"
    root.hasNaN = false ∧ path ≠ [] ∧ later ≠ [] ∧ ¬ EndsOpen path ∧
    resolve? root (path ++ ('.' : CodePoint) :: later) = .ok (some (.int 2)) := by
  intro root path later
  have hroot : root.hasNaN = false := rfl
  have hpath : path ≠ [] := by decide
  have hlater : later ≠ [] := by decide
  have hopen : ¬ EndsOpen path := by decide
  have hvalue : resolve? root path = .ok (some (.array [.null, .array [.int 7, .string "x"]])) :=
    rfl
  obtain ⟨-, hfound, -⟩ := resolve?_joined root hroot hpath hlater hopen
  have hlength : resolve? (.array [.null, .array [.int 7, .string "x"]]) later =
      .ok (some (.int 2)) := rfl
  exact ⟨hroot, hpath, hlater, hopen, (hfound _ hvalue).2.trans hlength⟩

/-- A point behind a backslash that nothing takes belongs to the name. -/
example :
    resolve? (.object [("a.b", .null)]) ("a\\" ++ ('.' : CodePoint) :: "b") = .ok (some .null) :=
  rfl

end ContentQuery.Path
