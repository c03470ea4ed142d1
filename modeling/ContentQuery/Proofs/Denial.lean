import ContentQuery.Evaluation
import ContentQuery.Proofs.Comparability

/-!
# ContentQuery.Proofs.Denial

"Equals" and "not equals". Where one of them has a truth value, the other has the opposite one, but
for an object that is the whole content, which neither equals a literal nor is said to differ from
it. Where "equals" cannot be compared, "not equals" cannot either, unless the target is a scalar
and the literal is of another type: then it holds.
-/

namespace ContentQuery

/-- Whether a condition denies another one: it says "not equals" where the other says "equals", of
the same target and literal and with the same regard for letter case. -/
structure Condition.Denies (denial cond : Condition) : Prop where
  notEquals : denial.operation.operator = .notEquals
  equals : cond.operation.operator = .equals
  insensitive : denial.operation.insensitive = cond.operation.insensitive
  path : denial.path = cond.path
  literal : denial.literal = cond.literal

theorem Condition.Denies.seen {cond denial : Condition} (h : denial.Denies cond) (s : Text) :
    denial.operation.seen s = cond.operation.seen s := by
  rw [Operation.seen, Operation.seen, h.insensitive]

/-! ## Comparing a value -/

namespace Comparison

/-- The outcomes of a condition and its denial: opposite truth values, errors of the same kind, or,
if the two are told apart by their types, an error and the truth. -/
inductive Opposed (apart : Prop) : Except QueryError Bool → Except QueryError Bool → Prop
  | values (b : Bool) : Opposed apart (.ok b) (.ok !b)
  | failures {cause cause' : QueryError} : ¬ apart → cause'.kind = cause.kind →
      Opposed apart (.error cause) (.error cause')
  | told {cause : QueryError} : apart → Opposed apart (.error cause) (.ok true)

theorem Opposed.congr {p q : Prop} {outcome outcome' : Except QueryError Bool}
    (h : Opposed p outcome outcome') (hpq : p ↔ q) : Opposed q outcome outcome' :=
  propext hpq ▸ h

/-- Whether "not equals" tells a value from the literal of a condition by their types: a string
from a literal of another type, and a number or a truth value as well, unless letter case is
ignored. Null is compared with everything. -/
def TellsApart (cond : Condition) (target : Json) : Prop :=
  cond.literal ≠ .null ∧ cond.literal.type ≠ target.type ∧
    (target.type = .string ∨
      (target.type = .number ∨ target.type = .bool) ∧ cond.operation.insensitive = false)

variable {cond denial : Condition} (h : denial.Denies cond)

include h

theorem opposed_withText (kind s : Text) :
    Opposed (cond.literal.type ≠ .string) (withText cond kind s) (withText denial kind s) := by
  by_cases hliteral : cond.literal.type = .string
  · obtain ⟨value, hvalue⟩ := Literal.exists_of_type_string hliteral
    have hopposite : withText denial kind s =
        .ok (!Operator.equals.testStrings (cond.operation.seen s) (cond.operation.seen value)) := by
      rw [withText_string (h.literal.trans hvalue), h.notEquals, h.seen, h.seen]
      exact congrArg Except.ok (decide_not ..)
    rw [withText_string hvalue, h.equals, hopposite]
    exact .values _
  · have hunlike : denial.literal.type ≠ .string := by rwa [h.literal]
    rw [withText_unlike hliteral, withText_unlike hunlike, h.equals, h.notEquals]
    exact .told hliteral

theorem opposed_withPlainText (s : Text) :
    Opposed (cond.literal.type ≠ .string) (withPlainText cond s) (withPlainText denial s) := by
  unfold withPlainText
  rw [h.equals, h.notEquals]
  exact opposed_withText h "plain text" s

theorem opposed_withNumber (x : Binary64) :
    Opposed (cond.literal.type ≠ .number ∧ cond.operation.insensitive = false)
      (withNumber cond x) (withNumber denial x) := by
  have hop : cond.operation.operator.onNumbers = true := by rw [h.equals]; rfl
  have hop' : denial.operation.operator.onNumbers = true := by rw [h.notEquals]; rfl
  cases hcase : cond.operation.insensitive with
  | true =>
      have hcase' : denial.operation.insensitive = true := h.insensitive.trans hcase
      rw [withNumber_insensitive hop hcase, withNumber_insensitive hop' hcase']
      exact .failures (by simp) rfl
  | false =>
      have hcase' : denial.operation.insensitive = false := h.insensitive.trans hcase
      by_cases hliteral : cond.literal.type = .number
      · obtain ⟨y, hy⟩ := Literal.exists_of_type_number hliteral
        rw [withNumber_number hy hop hcase, withNumber_number (h.literal.trans hy) hop' hcase',
          h.equals, h.notEquals]
        exact .values _
      · have hliteral' : denial.literal.type ≠ .number := by rwa [h.literal]
        rw [withNumber_unlike hliteral hop hcase, withNumber_unlike hliteral' hop' hcase', h.equals,
          h.notEquals]
        exact .told ⟨hliteral, rfl⟩

theorem opposed_withBool (b : Bool) :
    Opposed (cond.literal.type ≠ .bool ∧ cond.operation.insensitive = false)
      (withBool cond b) (withBool denial b) := by
  have hop : cond.operation.operator.onBools = true := by rw [h.equals]; rfl
  have hop' : denial.operation.operator.onBools = true := by rw [h.notEquals]; rfl
  cases hcase : cond.operation.insensitive with
  | true =>
      have hcase' : denial.operation.insensitive = true := h.insensitive.trans hcase
      rw [withBool_insensitive hop hcase, withBool_insensitive hop' hcase']
      exact .failures (by simp) rfl
  | false =>
      have hcase' : denial.operation.insensitive = false := h.insensitive.trans hcase
      by_cases hliteral : cond.literal.type = .bool
      · obtain ⟨value, hvalue⟩ := Literal.exists_of_type_bool hliteral
        have hopposite : withBool denial b = .ok (!decide (b = value)) := by
          rw [withBool_bool (h.literal.trans hvalue) hop' hcase', h.notEquals]
          exact congrArg Except.ok (decide_not ..)
        rw [withBool_bool hvalue hop hcase, h.equals, hopposite]
        exact .values _
      · have hliteral' : denial.literal.type ≠ .bool := by rwa [h.literal]
        rw [withBool_unlike hliteral hop hcase, withBool_unlike hliteral' hop' hcase', h.equals,
          h.notEquals]
        exact .told ⟨hliteral, rfl⟩

theorem opposed_withString (s : Text) :
    Opposed (cond.literal.type ≠ .string) (withString cond s) (withString denial s) := by
  unfold withString
  rw [h.equals, h.notEquals]
  exact opposed_withText h "string" s

theorem opposed_withArray : Opposed False (withArray cond) (withArray denial) := by
  unfold withArray
  rw [h.equals, h.notEquals]
  exact .failures not_false rfl

theorem opposed_withObject (hpath : cond.path ≠ []) :
    Opposed False (withObject cond) (withObject denial) := by
  have hpath' : denial.path ≠ [] := by rwa [h.path]
  simp only [withObject, hpath, hpath', decide_false, Bool.false_and]
  exact .failures not_false rfl

theorem opposed_nullWithNull : Opposed False (nullWithNull cond) (nullWithNull denial) := by
  unfold nullWithNull
  rw [h.equals, h.notEquals]
  exact .values true

theorem opposed_nullWithOther : Opposed False (nullWithOther cond) (nullWithOther denial) := by
  unfold nullWithOther
  rw [h.equals, h.notEquals]
  exact .values false

/-- Values and a literal that is not null are compared to opposite ends, but for an object that is
the whole content. -/
theorem opposed_withType {target : Json} (hobject : target.type = .object → cond.path ≠ [])
    (hliteral : cond.literal ≠ .null) :
    Opposed (TellsApart cond target) (withType cond target) (withType denial target) := by
  cases target with
  | null => exact (opposed_nullWithOther h).congr (by simp [TellsApart, Json.type])
  | bool b => exact (opposed_withBool h b).congr (by simp [TellsApart, Json.type, hliteral])
  | int n =>
      exact (opposed_withNumber h (Binary64.ofInt n)).congr
        (by simp [TellsApart, Json.type, hliteral])
  | float x => exact (opposed_withNumber h x).congr (by simp [TellsApart, Json.type, hliteral])
  | string s => exact (opposed_withString h s).congr (by simp [TellsApart, Json.type, hliteral])
  | array items => exact (opposed_withArray h).congr (by simp [TellsApart, Json.type])
  | object fields =>
      exact (opposed_withObject h (hobject rfl)).congr (by simp [TellsApart, Json.type])

/-- So is any value, with null as well. -/
theorem opposed_withValue {target : Json}
    (hobject : target.type = .object → cond.literal ≠ .null → cond.path ≠ []) :
    Opposed (TellsApart cond target) (withValue cond target) (withValue denial target) := by
  rw [withValue_eq cond (by simp [h.equals, Operator.onStrings]) (by simp [h.equals]),
    withValue_eq denial (by simp [h.notEquals, Operator.onStrings]) (by simp [h.notEquals]),
    h.literal]
  split
  · next hnull =>
      have hnone : False ↔ TellsApart cond target := by simp [TellsApart, hnull]
      split
      · exact (opposed_nullWithNull h).congr hnone
      · exact (opposed_nullWithOther h).congr hnone
  · next hliteral => exact opposed_withType h (fun htype => hobject htype hliteral) hliteral

end Comparison

/-! ## Evaluating a condition -/

namespace Condition

/-- Whether the denial of a condition tells a content from the literal by their types: plain text
from any literal that is no string, and a JSON value as `Comparison.TellsApart` says. -/
inductive TellsApart (cond : Condition) : Content → Prop
  | plain {s : Text} : cond.literal.type ≠ .string → TellsApart cond (.plain s)
  | json {root target : Json} : Path.resolve? root cond.path = .ok (some target) →
      Comparison.TellsApart cond target → TellsApart cond (.json root)

/-- Whether a condition compares an object, as the whole content, with a literal that is not
null. -/
def IsAboutObject (cond : Condition) (content : Content) : Prop :=
  cond.path = [] ∧ cond.literal ≠ .null ∧ ∃ fields, content = .json (.object fields)

theorem tellsApart_iff_of_found {cond : Condition} {root target : Json}
    (h : Path.resolve? root cond.path = .ok (some target)) :
    cond.TellsApart (.json root) ↔ Comparison.TellsApart cond target := by
  constructor
  · rintro (_ | ⟨htarget, hapart⟩)
    rwa [Option.some.inj (Except.ok.inj (h.symm.trans htarget))]
  · exact .json h

theorem not_tellsApart_of_missing {cond : Condition} {root : Json}
    (h : Path.resolve? root cond.path = .ok none) : ¬ cond.TellsApart (.json root) := by
  rintro (_ | ⟨htarget, -⟩)
  exact absurd (Except.ok.inj (h.symm.trans htarget)) nofun

variable {cond denial : Condition}

/-- Unless the evaluation breaks off, a condition and its denial report opposed outcomes. -/
theorem exists_opposed (h : denial.Denies cond) {content : Content}
    (hcontent : ¬ cond.IsAboutObject content) :
    (∃ cause, cond.evaluate content = .error (.broken cause)) ∨
      ∃ outcome outcome', Comparison.Opposed (cond.TellsApart content) outcome outcome' ∧
        cond.evaluate content = cond.blame outcome ∧
        denial.evaluate content = denial.blame outcome' := by
  cases content with
  | plain s =>
      refine .inr ⟨_, _, (Comparison.opposed_withPlainText h s).congr ⟨.plain, ?_⟩, rfl, rfl⟩
      rintro ⟨hliteral⟩
      exact hliteral
  | json root =>
      cases hfound : Path.resolve? root cond.path with
      | error e => exact .inl ⟨.longIndex, by rw [evaluate, hfound]⟩
      | ok found =>
          have hfound' : Path.resolve? root denial.path = .ok found := by rw [h.path, hfound]
          right
          cases found with
          | none =>
              exact ⟨_, _, .failures (not_tellsApart_of_missing hfound) rfl,
                evaluate_of_missing hfound, (evaluate_of_missing hfound').trans (by rw [h.path])⟩
          | some target =>
              have hobject : target.type = .object → cond.literal ≠ .null → cond.path ≠ [] := by
                intro htype hliteral hpath
                rw [hpath] at hfound
                obtain rfl := Option.some.inj (Except.ok.inj hfound)
                obtain ⟨fields, rfl⟩ := Json.exists_of_type_object htype
                exact hcontent ⟨hpath, hliteral, fields, rfl⟩
              exact ⟨_, _, (Comparison.opposed_withValue h hobject).congr
                (tellsApart_iff_of_found hfound).symm, evaluate_of_found hfound,
                evaluate_of_found hfound'⟩

/-- An object that is the whole content neither equals a literal nor is said to differ from it. -/
theorem evaluate_of_isAboutObject {content : Content} (h : cond.IsAboutObject content)
    (hop : cond.operation.operator.onBools = true) : cond.evaluate content = .ok false := by
  obtain ⟨hpath, hliteral, fields, rfl⟩ := h
  have hfound : Path.resolve? (.object fields) cond.path = .ok (some (.object fields)) := by
    rw [hpath]
    rfl
  have hobject : Comparison.withObject cond = .ok false := by
    simp [Comparison.withObject, hpath, hop]
  rw [evaluate_of_found hfound, blame_eq_ok_iff,
    Comparison.withValue_eq cond (by simp [Json.isScalar, Json.type]) (by simp [Json.type]),
    if_neg hliteral]
  exact hobject

theorem isAboutObject_iff_of_denies (h : denial.Denies cond) {content : Content} :
    denial.IsAboutObject content ↔ cond.IsAboutObject content := by
  rw [IsAboutObject, IsAboutObject, h.path, h.literal]

/-- Whether a value equals null: it is null. -/
theorem evaluate_null (h : denial.Denies cond) (hliteral : cond.literal = .null)
    {root target : Json} (hfound : Path.resolve? root cond.path = .ok (some target)) :
    cond.evaluate (.json root) = .ok (target.type = .null) := by
  rw [evaluate_of_found hfound, blame_eq_ok_iff,
    Comparison.withValue_eq cond (by simp [h.equals, Operator.onStrings]) (by simp [h.equals]),
    if_pos hliteral, Comparison.nullWithNull, Comparison.nullWithOther, h.equals]
  by_cases htype : target.type = .null <;> simp [htype]

/-- "Equals" and "not equals" with the same path, literal and regard for letter case. If they are
about an object that is the whole content, and the literal is not null, both are false. Otherwise,
where "equals" has a truth value, "not equals" has the opposite one; and where "equals" fails, "not
equals" holds if the target and the literal are told apart by their types, and fails with an error
of the same kind if they are not. Null is told from every value that a path leads to, without an
error. -/
theorem evaluate_denial (h : denial.Denies cond) (content : Content) :
    (cond.IsAboutObject content →
      cond.evaluate content = .ok false ∧ denial.evaluate content = .ok false) ∧
    (¬ cond.IsAboutObject content → ∀ b, cond.evaluate content = .ok b →
      denial.evaluate content = .ok (!b)) ∧
    (∀ source cause, cond.evaluate content = .error (.failed source cause) →
      (cond.TellsApart content ∧ denial.evaluate content = .ok true) ∨
      (¬ cond.TellsApart content ∧ ∃ cause',
        denial.evaluate content = .error (.failed denial.source cause') ∧
          cause'.kind = cause.kind)) ∧
    (cond.literal = .null → ∀ root target, content = .json root →
      Path.resolve? root cond.path = .ok (some target) →
        cond.evaluate content = .ok (target.type = .null) ∧
        denial.evaluate content = .ok (target.type ≠ .null)) := by
  have hopposite (hcontent : ¬ cond.IsAboutObject content) (b : Bool)
      (hb : cond.evaluate content = .ok b) : denial.evaluate content = .ok (!b) := by
    rcases exists_opposed h hcontent with ⟨cause, hbroken⟩ | ⟨_, _, hopposed, heval, hdenial⟩
    · rw [hbroken] at hb
      contradiction
    · rw [heval, blame_eq_ok_iff] at hb
      rw [hdenial, blame_eq_ok_iff]
      subst hb
      cases hopposed
      rfl
  refine ⟨fun hobject => ?_, hopposite, fun source cause hfails => ?_, ?_⟩
  · exact ⟨evaluate_of_isAboutObject hobject (by rw [h.equals]; rfl),
      evaluate_of_isAboutObject ((isAboutObject_iff_of_denies h).mpr hobject)
        (by rw [h.notEquals]; rfl)⟩
  · have hcontent : ¬ cond.IsAboutObject content := by
      intro hobject
      rw [evaluate_of_isAboutObject hobject (by rw [h.equals]; rfl)] at hfails
      contradiction
    rcases exists_opposed h hcontent with ⟨cause, hbroken⟩ | ⟨_, _, hopposed, heval, hdenial⟩
    · rw [hbroken] at hfails
      exact absurd (Except.error.inj hfails) nofun
    · rw [heval, blame_eq_failed_iff] at hfails
      obtain ⟨-, rfl⟩ := hfails
      cases hopposed with
      | @failures _ cause' hapart hkind =>
          exact .inr ⟨hapart, cause', hdenial, hkind⟩
      | told hapart => exact .inl ⟨hapart, hdenial⟩
  · rintro hliteral root target rfl hfound
    have hvalue := evaluate_null h hliteral hfound
    refine ⟨hvalue, ?_⟩
    rw [hopposite (fun hobject => hobject.2.1 hliteral) _ hvalue]
    exact congrArg Except.ok (decide_not ..).symm

end Condition

namespace Denial

/-- A content with a number in a field. -/
def numbered : Content := .json (.object [("n", .int 5)])

/-- A condition that cannot be compared with the number. -/
def cond : Condition := ⟨"n", ⟨.equals, false⟩, .string "5", "n equals \"5\""⟩

/-- Its denial. -/
def denial : Condition := ⟨"n", ⟨.notEquals, false⟩, .string "5", "n notequals \"5\""⟩

/-- A number does not equal a string, and the error of saying so is no error of its denial. -/
theorem evaluate_denial_of_number :
    denial.Denies cond ∧
    cond.evaluate numbered =
      .error (.failed cond.source (.mismatch (.notNumber "5" "equals"))) ∧
    denial.evaluate numbered = .ok true := by
  have hdenies : denial.Denies cond := ⟨rfl, rfl, rfl, rfl, rfl⟩
  have hfails : cond.evaluate numbered =
      .error (.failed cond.source (.mismatch (.notNumber "5" "equals"))) := rfl
  have hfound : Path.resolve? (.object [("n", .int 5)]) cond.path = .ok (some (.int 5)) := rfl
  have hapart : cond.TellsApart numbered := .json hfound ⟨nofun, nofun, .inr ⟨.inl rfl, rfl⟩⟩
  obtain ⟨-, -, herror, -⟩ := Condition.evaluate_denial hdenies numbered
  refine ⟨hdenies, hfails, ?_⟩
  rcases herror _ _ hfails with ⟨-, htrue⟩ | ⟨hnot, -⟩
  · exact htrue
  · exact absurd hapart hnot

end Denial

end ContentQuery
