import ContentQuery.Evaluation

/-!
# ContentQuery.Proofs.Breakdown

When an evaluation breaks off, so that its result is neither a truth value nor an error of one of
its conditions. There are three causes, each given here as a property of the payload and the query
alone:

* a path leads to an array and goes on with an index of too many digits (`Path.OverlongIndexAt`);
* the payload is nested beyond the bound;
* the payload stands for no JSON value and holds an integer of too many digits.
-/

namespace ContentQuery

/-! ## Failing steps -/

/-- A step that gives an error, whichever it is. -/
def Fails {ε α : Type} (x : Except ε α) : Prop := ∃ e, x = .error e

@[simp] theorem not_fails_ok {ε α : Type} (a : α) : ¬ Fails (Except.ok a : Except ε α) := by
  rintro ⟨e, h⟩
  contradiction

@[simp] theorem not_fails_pure {ε α : Type} (a : α) : ¬ Fails (pure a : Except ε α) :=
  not_fails_ok a

@[simp] theorem fails_error {ε α : Type} (e : ε) : Fails (Except.error e : Except ε α) := ⟨e, rfl⟩

/-- Two steps fail if one of them does, where what the second does is not up to the first. -/
theorem fails_bind_iff {ε α β : Type} {x : Except ε α} {f : α → Except ε β} {p : Prop}
    (h : ∀ a, Fails (f a) ↔ p) : Fails (x >>= f) ↔ Fails x ∨ p := by
  cases x with
  | error e => simp [Bind.bind, Except.bind]
  | ok a => simpa [Bind.bind, Except.bind] using h a

theorem fails_map_iff {ε α β : Type} {x : Except ε α} {f : α → β} :
    Fails (x.map f) ↔ Fails x := by
  cases x <;> simp [Except.map]

/-- Going one container further in fails if there is no room or if what is inside fails. -/
theorem fails_inside_iff {α : Type} {room depth : Nat} {go : Nat → Except ShowError α} {p : Prop}
    (h : ∀ room, Fails (go room) ↔ room < depth ∨ p) :
    Fails (ShowError.inside room go) ↔ room < depth + 1 ∨ p := by
  cases room with
  | zero => simp [ShowError.inside]
  | succ room => simpa [ShowError.inside] using h room

/-! ## Paths -/

namespace Path

/-- A component that has the form of an index but too many digits. -/
def IsOverlong (component : Text) : Prop :=
  Decimal.isDigits component = true ∧ maxIndexDigits < component.length

/-- A path that leads to an array and goes on with an index of too many digits. -/
def OverlongIndexAt (root : Json) (path : Text) : Prop :=
  path ≠ [] ∧ ∃ before component after items,
    components path = before ++ component :: after ∧
    follow? root before = .ok (some (.array items)) ∧ IsOverlong component

theorem item?_eq_error_iff (items : List Json) (component : Text) :
    item? items component = .error .longIndex ↔ IsOverlong component := by
  unfold item? IsOverlong
  by_cases hsign : component = lengthSign
  · subst hsign
    simp only [if_true, reduceCtorEq, false_iff, not_and]
    intro hdigits
    exact absurd hdigits (by decide)
  · rw [if_neg hsign]
    by_cases hdigits : Decimal.isDigits component = true
    · by_cases hlength : component.length ≤ maxIndexDigits
      · simp [hdigits, hlength]
      · simp [hdigits, hlength, Nat.lt_of_not_le hlength]
    · simp [hdigits]

theorem child?_eq_error_iff (value : Json) (component : Text) :
    child? value component = .error .longIndex ↔
      ∃ items, value = .array items ∧ IsOverlong component := by
  cases value with
  | array items => simp [child?, item?_eq_error_iff]
  | _ => simp [child?]

/-- Following one component and then the others. -/
theorem follow?_cons (value : Json) (component : Text) (rest : List Text) :
    follow? value (component :: rest) =
      match child? value component with
      | .error e => .error e
      | .ok none => .ok none
      | .ok (some child) => follow? child rest := by
  rw [follow?]
  cases child? value component with
  | error e => rfl
  | ok child? => cases child? <;> rfl

/-- Following components breaks off at the first array that is asked for too long an index. -/
theorem follow?_eq_error_iff (value : Json) (path : List Text) :
    follow? value path = .error .longIndex ↔
      ∃ before component after items, path = before ++ component :: after ∧
        follow? value before = .ok (some (.array items)) ∧ IsOverlong component := by
  induction path generalizing value with
  | nil => simp [follow?]
  | cons first rest ih =>
      rw [follow?_cons]
      constructor
      · intro h
        cases hchild : child? value first with
        | error e =>
            cases e
            obtain ⟨items, rfl, hlong⟩ := (child?_eq_error_iff value first).mp hchild
            exact ⟨[], first, rest, items, rfl, rfl, hlong⟩
        | ok found =>
            rw [hchild] at h
            cases found with
            | none => contradiction
            | some child =>
                obtain ⟨before, component, after, items, rfl, hbefore, hlong⟩ := (ih child).mp h
                refine ⟨first :: before, component, after, items, rfl, ?_, hlong⟩
                rw [follow?_cons, hchild]
                exact hbefore
      · rintro ⟨before, component, after, items, hpath, hbefore, hlong⟩
        cases before with
        | nil =>
            simp only [follow?, Except.ok.injEq, Option.some.injEq] at hbefore
            simp only [List.nil_append, List.cons.injEq] at hpath
            rw [hpath.1, (child?_eq_error_iff value component).mpr ⟨items, hbefore, hlong⟩]
        | cons second before =>
            simp only [List.cons_append, List.cons.injEq] at hpath
            obtain ⟨rfl, rfl⟩ := hpath
            rw [follow?_cons] at hbefore
            cases hchild : child? value first with
            | error e => simp [hchild] at hbefore
            | ok found =>
                cases found with
                | none => simp [hchild] at hbefore
                | some child =>
                    simp only [hchild] at hbefore
                    exact (ih child).mpr
                      ⟨before, component, after, items, rfl, hbefore, hlong⟩

/-- A path cannot be resolved exactly if it asks an array for too long an index. -/
theorem resolve?_eq_error_iff (root : Json) (path : Text) :
    resolve? root path = .error .longIndex ↔ OverlongIndexAt root path := by
  unfold resolve? OverlongIndexAt
  by_cases hpath : path = []
  · simp [hpath]
  · simp [hpath, follow?_eq_error_iff]

end Path

/-! ## Payloads -/

namespace Json

mutual

/-- Whether an integer of too many digits occurs in a value. -/
def hasLong : Json → Bool
  | int n => isLong n
  | array items => itemsHaveLong items
  | object fields => fieldsHaveLong fields
  | _ => false

/-- Whether an integer of too many digits occurs in one of the items. -/
def itemsHaveLong : List Json → Bool
  | [] => false
  | item :: rest => hasLong item || itemsHaveLong rest

/-- Whether an integer of too many digits occurs in one of the fields. -/
def fieldsHaveLong : List (Text × Json) → Bool
  | [] => false
  | (_, value) :: rest => hasLong value || fieldsHaveLong rest

end

end Json

namespace Payload

/-- Whether a key is an integer of too many digits. -/
def keyIsLong : Key → Bool
  | .int n => Json.isLong n
  | _ => false

mutual

/-- Whether an integer of too many digits occurs in a payload. -/
def hasLong : Payload → Bool
  | json value => value.hasLong
  | list items => itemsHaveLong items
  | tuple items => itemsHaveLong items
  | mapping fields => fieldsHaveLong fields
  | set items => itemsHaveLong items
  | octets _ => false
  | loop _ => false

/-- Whether an integer of too many digits occurs in one of the items. -/
def itemsHaveLong : List Payload → Bool
  | [] => false
  | item :: rest => hasLong item || itemsHaveLong rest

/-- Whether an integer of too many digits occurs in one of the keys or fields. -/
def fieldsHaveLong : List (Key × Payload) → Bool
  | [] => false
  | (key, value) :: rest => keyIsLong key || hasLong value || fieldsHaveLong rest

end

end Payload

namespace Json

theorem fails_intShown_iff (n : Int) : Fails (intShown n) ↔ isLong n = true := by
  unfold intShown
  split <;> simp_all

mutual

/-- A value cannot be shown exactly if it is nested too deep or holds an integer that is too
long. -/
theorem fails_shown_iff (room : Nat) :
    (value : Json) → (Fails (value.shown room) ↔ room < value.depth ∨ value.hasLong = true)
  | null => by simp [shown, depth, hasLong]
  | bool true => by simp [shown, depth, hasLong]
  | bool false => by simp [shown, depth, hasLong]
  | int n => by simp [shown, depth, hasLong, fails_intShown_iff]
  | float x => by simp [shown, depth, hasLong]
  | string s => by simp [shown, depth, hasLong]
  | array items => by
      rw [shown, depth, hasLong]
      refine fails_inside_iff fun room => ?_
      rw [fails_bind_iff fun _ => iff_of_false (not_fails_pure _) not_false, or_false]
      exact fails_itemsShown_iff room items
  | object fields => by
      rw [shown, depth, hasLong]
      refine fails_inside_iff fun room => ?_
      rw [fails_bind_iff fun _ => iff_of_false (not_fails_pure _) not_false, or_false]
      exact fails_fieldsShown_iff room fields

theorem fails_itemsShown_iff (room : Nat) :
    (items : List Json) →
      (Fails (itemsShown room items) ↔ room < itemsDepth items ∨ itemsHaveLong items = true)
  | [] => by simp [itemsShown, itemsDepth, itemsHaveLong]
  | item :: rest => by
      rw [itemsShown, fails_bind_iff fun _ =>
        fails_bind_iff fun _ => iff_of_false (not_fails_pure _) not_false]
      rw [fails_shown_iff room item, fails_itemsShown_iff room rest]
      simp only [itemsDepth, itemsHaveLong, Bool.or_eq_true]
      grind

theorem fails_fieldsShown_iff (room : Nat) :
    (fields : List (Text × Json)) →
      (Fails (fieldsShown room fields) ↔ room < fieldsDepth fields ∨ fieldsHaveLong fields = true)
  | [] => by simp [fieldsShown, fieldsDepth, fieldsHaveLong]
  | (name, value) :: rest => by
      rw [fieldsShown, fails_bind_iff fun _ =>
        fails_bind_iff fun _ => iff_of_false (not_fails_pure _) not_false]
      rw [fails_shown_iff room value, fails_fieldsShown_iff room rest]
      simp only [fieldsDepth, fieldsHaveLong, Bool.or_eq_true]
      grind

end

end Json

namespace Payload

theorem fails_keyShown_iff (key : Key) : Fails (keyShown key) ↔ keyIsLong key = true := by
  cases key <;> simp [keyShown, keyIsLong, Json.fails_intShown_iff]

mutual

/-- A payload cannot be shown exactly if it is nested too deep or holds an integer that is too
long. -/
theorem fails_shown_iff (room : Nat) :
    (payload : Payload) →
      (Fails (payload.shown room) ↔ room < payload.depth ∨ payload.hasLong = true)
  | json value => by
      rw [shown, depth, hasLong]
      exact Json.fails_shown_iff room value
  | list items => by
      rw [shown, depth, hasLong]
      refine fails_inside_iff fun room => ?_
      rw [fails_bind_iff fun _ => iff_of_false (not_fails_pure _) not_false, or_false]
      exact fails_itemsShown_iff room items
  | tuple items => by
      rw [shown, depth, hasLong]
      refine fails_inside_iff fun room => ?_
      rw [fails_bind_iff fun _ => iff_of_false (not_fails_pure _) not_false, or_false]
      exact fails_itemsShown_iff room items
  | mapping fields => by
      rw [shown, depth, hasLong]
      refine fails_inside_iff fun room => ?_
      rw [fails_bind_iff fun _ => iff_of_false (not_fails_pure _) not_false, or_false]
      exact fails_fieldsShown_iff room fields
  | octets bytes => by simp [shown, depth, hasLong]
  | set items => by
      rw [shown, depth, hasLong]
      refine fails_inside_iff fun room => ?_
      rw [fails_bind_iff fun _ => iff_of_false (not_fails_pure _) not_false, or_false]
      exact fails_itemsShown_iff room items
  | loop _ => by simp [shown, depth, hasLong]

theorem fails_itemsShown_iff (room : Nat) :
    (items : List Payload) →
      (Fails (itemsShown room items) ↔ room < itemsDepth items ∨ itemsHaveLong items = true)
  | [] => by simp [itemsShown, itemsDepth, itemsHaveLong]
  | item :: rest => by
      rw [itemsShown, fails_bind_iff fun _ =>
        fails_bind_iff fun _ => iff_of_false (not_fails_pure _) not_false]
      rw [fails_shown_iff room item, fails_itemsShown_iff room rest]
      simp only [itemsDepth, itemsHaveLong, Bool.or_eq_true]
      grind

theorem fails_fieldsShown_iff (room : Nat) :
    (fields : List (Key × Payload)) →
      (Fails (fieldsShown room fields) ↔ room < fieldsDepth fields ∨ fieldsHaveLong fields = true)
  | [] => by simp [fieldsShown, fieldsDepth, fieldsHaveLong]
  | (key, value) :: rest => by
      rw [fieldsShown, fails_bind_iff fun _ => fails_bind_iff fun _ =>
        fails_bind_iff fun _ => iff_of_false (not_fails_pure _) not_false]
      rw [fails_keyShown_iff, fails_shown_iff room value, fails_fieldsShown_iff room rest]
      simp only [fieldsDepth, fieldsHaveLong, Bool.or_eq_true]
      grind

end

/-- A payload that conditions cannot see at all: it is not taken for a JSON value, being nested too
deep for that or standing for none, and it cannot be shown either, being nested too deep for that or
holding an integer of too many digits. -/
def IsUnreadable [Limits] (payload : Payload) : Prop :=
  (Limits.contentValue < payload.depth ∨ payload.toJson? = none) ∧
    (Limits.shown < payload.depth ∨ payload.hasLong = true)

end Payload

/-- There is no content exactly for the payloads that are unreadable. -/
theorem fails_ofPayload_iff [Limits] (payload : Payload) :
    Fails (Content.ofPayload payload) ↔ payload.IsUnreadable := by
  unfold Payload.IsUnreadable Content.ofPayload
  split
  · next s => simp [Payload.depth, Json.depth, Payload.toJson?, Json.hasNaN]
  · next hstring =>
      unfold Payload.root?
      by_cases hdepth : payload.depth ≤ Limits.contentValue
      · have hnotdeep : ¬ Limits.contentValue < payload.depth := Nat.not_lt.mpr hdepth
        rw [if_pos hdepth]
        cases hroot : payload.toJson? with
        | some root => simp [hnotdeep]
        | none => simp [fails_map_iff, Payload.fails_shown_iff]
      · have hdeep : Limits.contentValue < payload.depth := Nat.lt_of_not_le hdepth
        rw [if_neg hdepth]
        simp [fails_map_iff, Payload.fails_shown_iff, hdeep]

/-! ## Queries -/

namespace Condition

/-- The error of a comparison blames the condition. -/
theorem blame_ne_broken (cond : Condition) (r : Except QueryError Bool) (cause : Breakdown) :
    cond.blame r ≠ .error (.broken cause) := by
  cases r <;> simp [blame]

/-- The evaluation of a condition breaks off exactly if its path asks an array for too long an
index. -/
theorem evaluate_eq_broken_iff (cond : Condition) (content : Content) (cause : Breakdown) :
    cond.evaluate content = .error (.broken cause) ↔
      cause = .longIndex ∧
        ∃ root, content = .json root ∧ Path.OverlongIndexAt root cond.path := by
  cases content with
  | plain s => simp [evaluate, blame_ne_broken]
  | json root =>
      simp only [evaluate, Content.json.injEq, exists_eq_left', ← Path.resolve?_eq_error_iff]
      cases hresolve : Path.resolve? root cond.path with
      | error e =>
          cases e
          simp [eq_comm]
      | ok found => cases found <;> simp [blame_ne_broken]

end Condition

namespace Query

/-- The first of the conditions that has no truth value gives this error. -/
def FirstError (content : Content) (e : EvaluationError) (conditions : List Condition) : Prop :=
  ∃ before cond after, conditions = before ++ cond :: after ∧
    (∀ earlier ∈ before, ∃ b, earlier.evaluate content = .ok b) ∧ cond.evaluate content = .error e

theorem firstError_cons_iff (content : Content) (e : EvaluationError) (cond : Condition)
    (rest : List Condition) :
    FirstError content e (cond :: rest) ↔
      cond.evaluate content = .error e ∨
        (∃ b, cond.evaluate content = .ok b) ∧ FirstError content e rest := by
  constructor
  · rintro ⟨before, failing, after, hsplit, hbefore, hfailing⟩
    cases before with
    | nil =>
        simp only [List.nil_append, List.cons.injEq] at hsplit
        rw [hsplit.1]
        exact .inl hfailing
    | cons first before =>
        simp only [List.cons_append, List.cons.injEq] at hsplit
        obtain ⟨rfl, rfl⟩ := hsplit
        refine .inr ⟨hbefore cond (by simp), before, failing, after, rfl, ?_, hfailing⟩
        intro earlier hearlier
        exact hbefore earlier (by simp [hearlier])
  · rintro (hfailing | ⟨hvalue, before, failing, after, rfl, hbefore, hfailing⟩)
    · exact ⟨[], cond, rest, rfl, by simp, hfailing⟩
    · refine ⟨cond :: before, failing, after, rfl, ?_, hfailing⟩
      intro earlier hearlier
      rcases List.mem_cons.mp hearlier with rfl | hmem
      · exact hvalue
      · exact hbefore earlier hmem

theorem evaluateFrom_eq_error_iff (content : Content) (result : Bool) (e : EvaluationError)
    (rest : List (Connective × Condition)) :
    evaluateFrom content result rest = .error e ↔ FirstError content e (rest.map (·.2)) := by
  induction rest generalizing result with
  | nil => simp [evaluateFrom, FirstError]
  | cons joined rest ih =>
      obtain ⟨connective, cond⟩ := joined
      rw [evaluateFrom, List.map_cons, firstError_cons_iff]
      cases hcond : cond.evaluate content with
      | error e' => simp [Bind.bind, Except.bind]
      | ok b => simpa [Bind.bind, Except.bind] using ih _

/-- All conditions are evaluated, in order, and the first error is the result. -/
theorem evaluate_eq_error_iff (query : Query) (content : Content) (e : EvaluationError) :
    query.evaluate content = .error e ↔ FirstError content e query.conditions := by
  obtain ⟨conditions, connectives, hbalanced⟩ := query
  cases conditions with
  | nil => simp [evaluate, FirstError]
  | cons first rest =>
      have hzip : (connectives.zip rest).map (·.2) = rest :=
        List.map_snd_zip (by simp [hbalanced])
      rw [firstError_cons_iff]
      change (first.evaluate content >>= fun result =>
        evaluateFrom content result (connectives.zip rest)) = _ ↔ _
      cases hfirst : first.evaluate content with
      | error e' => simp [Bind.bind, Except.bind]
      | ok b =>
          simp only [Bind.bind, Except.bind, reduceCtorEq, Except.ok.injEq, exists_eq', true_and,
            false_or]
          rw [evaluateFrom_eq_error_iff, hzip]

/-- A query breaks off on a payload that is unreadable, and on one in which the first condition
without a truth value asks an array for too long an index. -/
def BreaksOn [Limits] (query : Query) (payload : Payload) : Prop :=
  query.conditions ≠ [] ∧
    (payload.IsUnreadable ∨
      ∃ root before cond after, Content.ofPayload payload = .ok (.json root) ∧
        query.conditions = before ++ cond :: after ∧
        (∀ earlier ∈ before, ∃ b, earlier.evaluate (.json root) = .ok b) ∧
        Path.OverlongIndexAt root cond.path)

end Query

/-- An evaluation breaks off exactly where the query breaks off on the payload. -/
theorem matchesQuery_broken_iff [Limits] (payload : Payload) (query : Query) :
    (∃ cause, matchesQuery payload (some query) = .error (.broken cause)) ↔
      query.BreaksOn payload := by
  unfold matchesQuery Query.BreaksOn
  by_cases hempty : query.conditions = []
  · simp [Query.isEmpty, hempty]
  · simp only [Query.isEmpty, List.isEmpty_iff, hempty, if_false, ne_eq, not_false_eq_true,
      true_and, ← fails_ofPayload_iff]
    cases hcontent : Content.ofPayload payload with
    | error cause => simp
    | ok content =>
        simp only [not_fails_ok, false_or, Except.ok.injEq]
        simp only [Query.evaluate_eq_error_iff, Query.FirstError,
          Condition.evaluate_eq_broken_iff]
        constructor
        · rintro ⟨cause, before, cond, after, hsplit, hbefore, -, root, rfl, hpath⟩
          exact ⟨root, before, cond, after, rfl, hsplit, hbefore, hpath⟩
        · rintro ⟨root, before, cond, after, rfl, hsplit, hbefore, hpath⟩
          exact ⟨.longIndex, before, cond, after, hsplit, hbefore, rfl, root, rfl, hpath⟩

end ContentQuery
