import ContentQuery.Proofs.Breakdown
import ContentQuery.Proofs.Sample
import ContentQuery.Proofs.Steps
import Mathlib.Order.Bounds.Basic

/-!
# ContentQuery.Proofs.Joining

What the conditions of a query come to together. They are joined from left to right, with equal
weight, so that the last condition behind an "or" that is not taken back by a later "and" decides;
and all of them are evaluated, so that the first one that fails is reported, whatever the others
are.
-/

namespace ContentQuery

/-! ## Truth values in a chain -/

namespace Connective

/-- Joins truth values to a first one, from left to right. -/
def joinAll (first : Bool) (later : List (Connective × Bool)) : Bool :=
  later.foldl (fun b joined => joined.1.join b joined.2) first

/-- Whether the truth values behind a place that are added by "and" all hold. -/
def IsKept (connectives : List Connective) (values : List Bool) (place : Nat) : Prop :=
  ∀ later, place < later → connectives[later - 1]? = some .and → values[later]? = some true

/-- Whether the truth value at a place settles the chain: it holds, it does not hang on the ones
before it, and no later "and" takes it back. -/
structure Settles (connectives : List Connective) (values : List Bool) (place : Nat) : Prop where
  holds : values[place]? = some true
  starts : place = 0 ∨ connectives[place - 1]? = some .or
  kept : IsKept connectives values place

variable {connective : Connective} {connectives : List Connective} {first next : Bool}
  {values : List Bool}

theorem isKept_succ_iff (joined : Bool) (place : Nat) :
    IsKept (connective :: connectives) (first :: next :: values) (place + 1) ↔
      IsKept connectives (joined :: values) place := by
  constructor
  · intro h later hlater hand
    obtain ⟨later, rfl⟩ : ∃ n, later = n + 1 := ⟨later - 1, by omega⟩
    exact h (later + 2) (by omega) hand
  · intro h later hlater hand
    obtain ⟨later, rfl⟩ : ∃ n, later = n + 2 := ⟨later - 2, by omega⟩
    exact h (later + 1) (by omega) hand

theorem isKept_zero_iff :
    IsKept (connective :: connectives) (first :: next :: values) 0 ↔
      (connective = .and → next = true) ∧
        IsKept (connective :: connectives) (first :: next :: values) 1 := by
  constructor
  · intro h
    refine ⟨?_, fun later hlater => h later (by omega)⟩
    rintro rfl
    exact Option.some.inj (h 1 (by omega) rfl)
  · rintro ⟨hnext, h⟩ later hlater hand
    by_cases hone : later = 1
    · subst hone
      exact congrArg some (hnext (Option.some.inj hand))
    · exact h later (by omega) hand

/-- Behind the first two values nothing depends on what they have been joined to. -/
theorem settles_succ_iff (place : Nat) :
    Settles (connective :: connectives) (first :: next :: values) (place + 2) ↔
      Settles connectives (connective.join first next :: values) (place + 1) := by
  constructor
  · rintro ⟨hholds, hstarts, hkept⟩
    exact ⟨hholds, .inr (hstarts.resolve_left (by omega)), (isKept_succ_iff _ _).mp hkept⟩
  · rintro ⟨hholds, hstarts, hkept⟩
    exact ⟨hholds, .inr (hstarts.resolve_left (by omega)), (isKept_succ_iff _ _).mpr hkept⟩

/-- The first two values settle a chain exactly if their joint value does. -/
theorem settles_zero_or_one_iff :
    (Settles (connective :: connectives) (first :: next :: values) 0 ∨
      Settles (connective :: connectives) (first :: next :: values) 1) ↔
      Settles connectives (connective.join first next :: values) 0 := by
  have hkept : IsKept (connective :: connectives) (first :: next :: values) 1 ↔
      IsKept connectives (connective.join first next :: values) 0 := isKept_succ_iff _ 0
  constructor
  · rintro (⟨hholds, -, hall⟩ | ⟨hholds, hstarts, hlater⟩)
    · obtain ⟨hnext, hlater⟩ := isKept_zero_iff.mp hall
      obtain rfl : first = true := Option.some.inj hholds
      refine ⟨congrArg some ?_, .inl rfl, hkept.mp hlater⟩
      cases connective with
      | and => exact hnext rfl
      | or => rfl
    · obtain rfl : next = true := Option.some.inj hholds
      obtain rfl : connective = .or := Option.some.inj (hstarts.resolve_left (by omega))
      exact ⟨congrArg some (Bool.or_true first), .inl rfl, hkept.mp hlater⟩
  · rintro ⟨hholds, -, hlater⟩
    have hjoin : connective.join first next = true := Option.some.inj hholds
    have hlater := hkept.mpr hlater
    cases connective with
    | and =>
        obtain ⟨hfirst, hnext⟩ := (Bool.and_eq_true first next).mp hjoin
        exact .inl ⟨congrArg some hfirst, .inl rfl, isKept_zero_iff.mpr ⟨fun _ => hnext, hlater⟩⟩
    | or =>
        rcases (Bool.or_eq_true first next).mp hjoin with hfirst | hnext
        · exact .inl ⟨congrArg some hfirst, .inl rfl, isKept_zero_iff.mpr ⟨nofun, hlater⟩⟩
        · exact .inr ⟨congrArg some hnext, .inr rfl, hlater⟩

theorem exists_settles_cons_iff :
    (∃ place, Settles (connective :: connectives) (first :: next :: values) place) ↔
      ∃ place, Settles connectives (connective.join first next :: values) place := by
  constructor
  · rintro ⟨place, h⟩
    match place with
    | 0 => exact ⟨0, settles_zero_or_one_iff.mp (.inl h)⟩
    | 1 => exact ⟨0, settles_zero_or_one_iff.mp (.inr h)⟩
    | place + 2 => exact ⟨place + 1, (settles_succ_iff place).mp h⟩
  · rintro ⟨place, h⟩
    match place with
    | 0 =>
        rcases settles_zero_or_one_iff.mpr h with h | h
        · exact ⟨0, h⟩
        · exact ⟨1, h⟩
    | place + 1 => exact ⟨place + 2, (settles_succ_iff place).mpr h⟩

/-- A chain holds exactly if one of its values settles it. -/
theorem joinAll_eq_true_iff (hlength : connectives.length = values.length) :
    joinAll first (connectives.zip values) = true ↔
      ∃ place, Settles connectives (first :: values) place := by
  induction connectives generalizing first values with
  | nil =>
      obtain rfl := List.length_eq_zero_iff.mp hlength.symm
      constructor
      · exact fun h => ⟨0, congrArg some h, .inl rfl, fun _ _ hand => absurd hand nofun⟩
      · rintro ⟨place, hholds, hstarts, -⟩
        obtain rfl : place = 0 := hstarts.resolve_right nofun
        exact Option.some.inj hholds
  | cons connective connectives ih =>
      obtain ⟨next, values, rfl⟩ := List.exists_cons_of_length_eq_add_one hlength.symm
      rw [exists_settles_cons_iff]
      exact ih (Nat.succ.inj hlength)

end Connective

/-! ## Conditions in a chain -/

/-- Whether a condition cannot be compared with a content. -/
def Condition.FailsWith (cond : Condition) (content : Content) (cause : QueryError) : Prop :=
  ∃ source, cond.evaluate content = .error (.failed source cause)

/-- Conditions with their truth values for a content. -/
def Condition.HaveValues (content : Content) (conditions : List Condition) (values : List Bool) :
    Prop :=
  List.Forall₂ (fun cond b => cond.evaluate content = .ok b) conditions values

/-- A condition that cannot be compared is blamed by its text. -/
theorem Condition.source_eq_of_evaluate {cond : Condition} {content : Content} {source : Text}
    {cause : QueryError} (h : cond.evaluate content = .error (.failed source cause)) :
    source = cond.source := by
  have hblame {result : Except QueryError Bool}
      (hresult : cond.blame result = .error (.failed source cause)) : source = cond.source := by
    cases result with
    | ok b => contradiction
    | error e =>
        obtain ⟨hsource, -⟩ := EvaluationError.failed.inj (Except.error.inj hresult)
        exact hsource.symm
  cases content with
  | plain s => exact hblame h
  | json root =>
      unfold evaluate at h
      simp only at h
      split at h
      · exact absurd h nofun
      · exact hblame h
      · exact hblame h

namespace Query

variable {content : Content} {query : Query} {b : Bool}

/-- Truth values come out exactly if each condition has one, and they are joined. -/
theorem evaluateFrom_eq_ok_iff {first : Bool} {later : List (Connective × Condition)} :
    evaluateFrom content first later = .ok b ↔
      ∃ values, Condition.HaveValues content (later.map (·.2)) values ∧
        Connective.joinAll first ((later.map (·.1)).zip values) = b := by
  induction later generalizing first with
  | nil =>
      constructor
      · exact fun h => ⟨[], .nil, Except.ok.inj h⟩
      · rintro ⟨values, -, h⟩
        exact congrArg Except.ok h
  | cons joined later ih =>
      obtain ⟨connective, cond⟩ := joined
      rw [evaluateFrom, bind_eq_ok_iff]
      constructor
      · rintro ⟨next, hnext, h⟩
        obtain ⟨values, hvalues, hjoined⟩ := ih.mp h
        exact ⟨next :: values, .cons hnext hvalues, hjoined⟩
      · rintro ⟨values, hvalues, hjoined⟩
        cases hvalues with
        | cons hnext hvalues => exact ⟨_, hnext, ih.mpr ⟨_, hvalues, hjoined⟩⟩

/-- A query with a condition has a truth value exactly if each condition has one: the first one,
joined with the others. -/
theorem evaluate_eq_ok_iff (hne : query.conditions ≠ []) :
    query.evaluate content = .ok b ↔
      ∃ first values, Condition.HaveValues content query.conditions (first :: values) ∧
        Connective.joinAll first (query.connectives.zip values) = b := by
  obtain ⟨conditions, connectives, hbalanced⟩ := query
  cases conditions with
  | nil => contradiction
  | cons cond later =>
      have hlength : connectives.length = later.length := hbalanced
      have hconnectives : (connectives.zip later).map (·.1) = connectives :=
        List.map_fst_zip (Nat.le_of_eq hlength)
      have hlater : (connectives.zip later).map (·.2) = later :=
        List.map_snd_zip (Nat.le_of_eq hlength.symm)
      change (cond.evaluate content >>= fun first =>
        evaluateFrom content first (connectives.zip later)) = _ ↔ _
      rw [bind_eq_ok_iff]
      simp only [evaluateFrom_eq_ok_iff, hconnectives, hlater]
      constructor
      · rintro ⟨first, hfirst, values, hvalues, hjoined⟩
        exact ⟨first, values, .cons hfirst hvalues, hjoined⟩
      · rintro ⟨first, values, hvalues, hjoined⟩
        cases hvalues with
        | cons hfirst hvalues => exact ⟨first, hfirst, values, hvalues, hjoined⟩

/-- A query whose conditions have truth values has one: whether one of them settles the chain. -/
theorem evaluate_of_haveValues (hne : query.conditions ≠ []) {values : List Bool}
    (hvalues : Condition.HaveValues content query.conditions values) :
    ∃ b, query.evaluate content = .ok b ∧
      (b = true ↔ ∃ place, Connective.Settles query.connectives values place) := by
  have hlength := hvalues.length_eq
  cases values with
  | nil => exact absurd (List.length_eq_zero_iff.mp hlength) hne
  | cons first values =>
      have hconnectives : query.connectives.length = values.length := by
        rw [query.balanced, hlength, List.length_cons, Nat.add_sub_cancel]
      exact ⟨_, (evaluate_eq_ok_iff hne).mpr ⟨first, values, hvalues, rfl⟩,
        Connective.joinAll_eq_true_iff hconnectives⟩

/-- The places of the conditions that cannot be compared with a content. -/
def failures (query : Query) (content : Content) : Set Nat :=
  {place | ∃ cond cause, query.conditions[place]? = some cond ∧ cond.FailsWith content cause}

/-- A query that blames a condition blames the one at the first place of failure. -/
theorem isLeast_failures_of_evaluate {source : Text} {cause : QueryError}
    (h : query.evaluate content = .error (.failed source cause)) :
    ∃ place cond, IsLeast (query.failures content) place ∧
      query.conditions[place]? = some cond ∧ cond.FailsWith content cause ∧
      source = cond.source := by
  obtain ⟨before, cond, after, hsplit, hbefore, hfails⟩ := (evaluate_eq_error_iff _ _ _).mp h
  have hplace : query.conditions[before.length]? = some cond := by
    rw [hsplit, List.getElem?_append_right (Nat.le_refl _), Nat.sub_self]
    rfl
  have hblamed : cond.FailsWith content cause := ⟨source, hfails⟩
  refine ⟨before.length, cond, ⟨⟨cond, cause, hplace, hblamed⟩, ?_⟩, hplace, hblamed,
    Condition.source_eq_of_evaluate hfails⟩
  rintro earlier ⟨other, otherCause, hother, otherSource, hotherFails⟩
  apply Nat.le_of_not_lt
  intro hlt
  rw [hsplit, List.getElem?_append_left hlt] at hother
  obtain ⟨value, hvalue⟩ := hbefore other (List.mem_of_getElem? hother)
  rw [hvalue] at hotherFails
  contradiction

end Query

/-! ## Payloads -/

theorem matchesQuery_eq_evaluate [Limits] {payload : Payload} {query : Query} {content : Content}
    (hne : query.conditions ≠ []) (hcontent : Content.ofPayload payload = .ok content) :
    matchesQuery payload (some query) = query.evaluate content := by
  have hempty : query.isEmpty = false := List.isEmpty_eq_false_iff.mpr hne
  simp [matchesQuery, hempty, hcontent]

theorem exists_content_of_not_broken [Limits] {payload : Payload} {query : Query}
    (hne : query.conditions ≠ [])
    (hruns : ∀ cause, matchesQuery payload (some query) ≠ .error (.broken cause)) :
    ∃ content, Content.ofPayload payload = .ok content := by
  have hempty : query.isEmpty = false := List.isEmpty_eq_false_iff.mpr hne
  cases hcontent : Content.ofPayload payload with
  | ok content => exact ⟨content, rfl⟩
  | error cause =>
      exact absurd (by simp [matchesQuery, hempty, hcontent]) (hruns (.noContent cause))

/-- Wherever the evaluation of a query with conditions does not break off, the payload has a
content, and: if each condition has a truth value for it, the query has one, and it is true exactly
if a condition settles the chain of them; and if a condition fails, the first one that does is
reported, by its text and with the cause of its failure, whatever the truth values of the others
are. -/
theorem matchesQuery_leftFold [Limits] (payload : Payload) (query : Query)
    (hne : query.conditions ≠ [])
    (hruns : ∀ cause, matchesQuery payload (some query) ≠ .error (.broken cause)) :
    ∃ content, Content.ofPayload payload = .ok content ∧
      (∀ values, Condition.HaveValues content query.conditions values →
        ∃ b, matchesQuery payload (some query) = .ok b ∧
          (b = true ↔ ∃ place, Connective.Settles query.connectives values place)) ∧
      ((query.failures content).Nonempty →
        ∃ place cond cause, IsLeast (query.failures content) place ∧
          query.conditions[place]? = some cond ∧ cond.FailsWith content cause ∧
          matchesQuery payload (some query) = .error (.failed cond.source cause)) := by
  obtain ⟨content, hcontent⟩ := exists_content_of_not_broken hne hruns
  rw [matchesQuery_eq_evaluate hne hcontent] at hruns ⊢
  refine ⟨content, hcontent, fun values => Query.evaluate_of_haveValues hne, ?_⟩
  rintro ⟨place, cond, cause, hcond, source, hfails⟩
  cases hresult : query.evaluate content with
  | ok b =>
      obtain ⟨first, values, hvalues, -⟩ := (Query.evaluate_eq_ok_iff hne).mp hresult
      obtain ⟨value, -, hvalue⟩ := exists_mem_of_mapM (mapM_eq_ok_iff.mpr hvalues)
        (List.mem_of_getElem? hcond)
      rw [hvalue] at hfails
      contradiction
  | error e =>
      cases e with
      | broken cause => exact absurd hresult (hruns cause)
      | failed source cause =>
          obtain ⟨place, cond, hleast, hcond, hblamed, rfl⟩ :=
            Query.isLeast_failures_of_evaluate hresult
          exact ⟨place, cond, cause, hleast, hcond, hblamed, rfl⟩

/-! ### Two queries about a field -/

namespace Joining

/-- A condition that does not hold where the field has the value `x`. -/
def denied : Condition := ⟨"n", ⟨.equals, false⟩, .string "y", "n equals y"⟩

/-- A condition on a field that is not there. -/
def unknown : Condition := ⟨"m", ⟨.equals, false⟩, .string "x", "m equals x"⟩

/-- If "and" joined more closely than "or", this query would hold where the field is `x`. -/
def mixed : Query := Query.chain Sample.named [(.or, Sample.named), (.and, denied)]

/-- This query is decided by its first condition. -/
def decided : Query := Query.chain Sample.named [(.or, unknown)]

theorem not_settles_mixed (place : Nat) :
    ¬ Connective.Settles mixed.connectives [true, true, false] place := by
  rintro ⟨hholds, -, hkept⟩
  have hplace : place < 2 := by
    by_contra hge
    obtain ⟨place, rfl⟩ : ∃ n, place = n + 2 := ⟨place - 2, by omega⟩
    cases place with
    | zero => exact absurd (Option.some.inj hholds) Bool.false_ne_true
    | succ place => exact absurd hholds nofun
  exact absurd (Option.some.inj (hkept 2 hplace rfl)) Bool.false_ne_true

end Joining

open Joining in
/-- The chain of "or" and "and" is false, and the condition that fails is reported although the
query is decided by the one before it. -/
theorem matchesQuery_leftFold_of_mixed :
    let payload := Sample.object "n" "x"
    matchesQuery payload (some mixed) = .ok false ∧
      matchesQuery payload (some decided) = .error (.failed "m equals x" (.noSuchPath "m")) := by
  intro payload
  constructor
  · obtain ⟨content, hcontent, hvalue, -⟩ :=
      matchesQuery_leftFold payload mixed (List.cons_ne_nil _ _) fun _ => nofun
    obtain rfl := Except.ok.inj hcontent
    obtain ⟨b, hresult, hsettles⟩ :=
      hvalue [true, true, false] (.cons rfl (.cons rfl (.cons rfl .nil)))
    have hfalse : b = false := by
      rw [← Bool.not_eq_true, hsettles]
      exact not_exists.mpr not_settles_mixed
    rw [hresult, hfalse]
  · obtain ⟨content, hcontent, -, herror⟩ :=
      matchesQuery_leftFold payload decided (List.cons_ne_nil _ _) fun _ => nofun
    obtain rfl := Except.ok.inj hcontent
    obtain ⟨place, cond, cause, -, hcond, ⟨source, hfails⟩, hresult⟩ :=
      herror ⟨1, unknown, .noSuchPath "m", rfl, "m equals x", rfl⟩
    rw [hresult]
    match place with
    | 0 =>
        obtain rfl := Option.some.inj hcond
        exact absurd hfails nofun
    | 1 =>
        obtain rfl := Option.some.inj hcond
        obtain ⟨-, rfl⟩ := EvaluationError.failed.inj (Except.error.inj hfails)
        rfl
    | place + 2 => exact absurd hcond nofun

end ContentQuery
