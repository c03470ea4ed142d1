import ContentQuery.Evaluation

/-!
# ContentQuery.Proofs.Comparability

What can be compared with what. Whether a comparison fails, and with an error of which kind, is
settled by the operation, by the types of the target and of the literal, and by whether the target
is the whole content. The values have no say in it, so no document escapes a comparison, or is lost
to one, because of what it holds at a place rather than what kind of thing it holds there.
-/

namespace ContentQuery

/-- The type of a literal, among the types of JSON values. -/
def Literal.type : Literal → JsonType
  | .string _ => .string
  | .number _ => .number
  | .bool _ => .bool
  | .null => .null

/-- Null is the only literal of its type. -/
@[simp] theorem Literal.type_eq_null_iff {literal : Literal} :
    literal.type = .null ↔ literal = .null := by
  cases literal <;> simp [type]

/-- A literal of the type of strings holds a string. -/
theorem Literal.exists_of_type_string {literal : Literal} (h : literal.type = .string) :
    ∃ value, literal = .string value := by
  cases literal with
  | string value => exact ⟨value, rfl⟩
  | _ => contradiction

/-- A literal of the type of numbers holds a number. -/
theorem Literal.exists_of_type_number {literal : Literal} (h : literal.type = .number) :
    ∃ value, literal = .number value := by
  cases literal with
  | number value => exact ⟨value, rfl⟩
  | _ => contradiction

/-- A literal of the type of truth values holds a truth value. -/
theorem Literal.exists_of_type_bool {literal : Literal} (h : literal.type = .bool) :
    ∃ value, literal = .bool value := by
  cases literal with
  | bool value => exact ⟨value, rfl⟩
  | _ => contradiction

theorem Literal.type_ne_array (literal : Literal) : literal.type ≠ .array := by
  cases literal <;> exact JsonType.noConfusion

theorem Literal.type_ne_object (literal : Literal) : literal.type ≠ .object := by
  cases literal <;> exact JsonType.noConfusion

/-- The types of scalars, as `Json.isScalar` has them. -/
def JsonType.isScalar : JsonType → Bool
  | .string | .number | .bool => true
  | _ => false

/-- Whether a value is a scalar is up to its type. -/
theorem Json.isScalar_eq (value : Json) : value.isScalar = value.type.isScalar := by
  cases value <;> rfl

/-- A value of the type of objects has fields. -/
theorem Json.exists_of_type_object {value : Json} (h : value.type = .object) :
    ∃ fields, value = .object fields := by
  cases value with
  | object fields => exact ⟨fields, rfl⟩
  | _ => contradiction

/-! ## Like and unlike types -/

/-- A text as an operation sees it: in lower case if letter case is ignored. -/
def Operation.seen (operation : Operation) (s : Text) : Text :=
  if operation.insensitive then s.lower else s

namespace Comparison

variable {cond : Condition}

/-- A text and a literal that is a string are compared as they are seen, with or without regard for
letter case. -/
theorem withText_string {value : Text} (hliteral : cond.literal = .string value) (kind s : Text) :
    withText cond kind s = .ok (cond.operation.operator.testStrings (cond.operation.seen s)
      (cond.operation.seen value)) := by
  unfold withText Operation.seen
  rw [hliteral]
  cases cond.operation.insensitive <;> rfl

/-- A text differs from a literal that is no string, and no other operation compares the two. -/
theorem withText_unlike (hliteral : cond.literal.type ≠ .string) (kind s : Text) :
    withText cond kind s =
      if cond.operation.operator = .notEquals then .ok true
      else mismatch cond (.notString kind cond.literal.typeName) := by
  unfold withText
  generalize cond.literal = literal at hliteral ⊢
  cases literal with
  | string value => exact absurd rfl hliteral
  | _ => rfl

/-- Numbers have no letter case: an operation that ignores it does not apply to them. -/
theorem withNumber_insensitive {x : Binary64} (hop : cond.operation.operator.onNumbers = true)
    (hcase : cond.operation.insensitive = true) :
    withNumber cond x = mismatch cond .insensitiveNumber := by
  unfold withNumber
  rw [hop, hcase]
  rfl

/-- Two numbers are compared. -/
theorem withNumber_number {x y : Binary64} (hliteral : cond.literal = .number y)
    (hop : cond.operation.operator.onNumbers = true) (hcase : cond.operation.insensitive = false) :
    withNumber cond x = .ok (cond.operation.operator.testNumbers x y) := by
  unfold withNumber
  rw [hop, hcase, hliteral]
  rfl

/-- A number differs from a literal that is none, and no other operation compares the two. -/
theorem withNumber_unlike {x : Binary64} (hliteral : cond.literal.type ≠ .number)
    (hop : cond.operation.operator.onNumbers = true) (hcase : cond.operation.insensitive = false) :
    withNumber cond x =
      if cond.operation.operator = .notEquals then .ok true
      else mismatch cond (.notNumber cond.literal.display) := by
  unfold withNumber
  rw [hop, hcase]
  generalize cond.literal = literal at hliteral ⊢
  cases literal with
  | number value => exact absurd rfl hliteral
  | _ => rfl

/-- Truth values have no letter case: an operation that ignores it does not apply to them. -/
theorem withBool_insensitive {b : Bool} (hop : cond.operation.operator.onBools = true)
    (hcase : cond.operation.insensitive = true) :
    withBool cond b = mismatch cond .insensitiveBool := by
  unfold withBool
  rw [hop, hcase]
  rfl

/-- Two truth values are equal or not. -/
theorem withBool_bool {b value : Bool} (hliteral : cond.literal = .bool value)
    (hop : cond.operation.operator.onBools = true) (hcase : cond.operation.insensitive = false) :
    withBool cond b =
      .ok (if cond.operation.operator = .equals then b = value else b ≠ value) := by
  unfold withBool
  rw [hop, hcase, hliteral]
  rfl

/-- A truth value differs from a literal that is none, and no other operation compares the two. -/
theorem withBool_unlike {b : Bool} (hliteral : cond.literal.type ≠ .bool)
    (hop : cond.operation.operator.onBools = true) (hcase : cond.operation.insensitive = false) :
    withBool cond b =
      if cond.operation.operator = .notEquals then .ok true
      else mismatch cond (.notBool cond.literal.display) := by
  unfold withBool
  rw [hop, hcase]
  generalize cond.literal = literal at hliteral ⊢
  cases literal with
  | bool value => exact absurd rfl hliteral
  | _ => rfl

end Comparison

/-! ## What the types allow -/

namespace Operation

variable (operation : Operation)

/-- Whether the operation says something of null and another value: it tells them apart, or says
that nothing is in null. -/
def onNulls : Bool := operation.operator.onBools || operation.operator = .contains

/-- Whether a literal has the type of the target, or need not have it because the operation is "not
equals". -/
def fits (target literal : JsonType) : Bool :=
  literal = target || operation.operator = .notEquals

/-- Whether the operation compares a target of a type with a literal of a type, of which the
literal is not null; `whole` says that the target is the whole content. -/
def comparesTypes (whole : Bool) (target literal : JsonType) : Bool :=
  match target with
  | .string => operation.operator.onStrings && operation.fits .string literal
  | .number =>
    operation.operator.onNumbers && !operation.insensitive && operation.fits .number literal
  | .bool => operation.operator.onBools && !operation.insensitive && operation.fits .bool literal
  | .null => operation.onNulls
  | .array => false
  | .object => whole && operation.operator.onBools

/-- Whether the operation compares a target of a type with a literal of a type: anything may be
sought in an array, and null has its own rule. -/
def compares (whole : Bool) (target literal : JsonType) : Bool :=
  if target = .array && operation.operator = .contains then true
  else if literal = .null then
    if target = .null then operation.operator.onBools else operation.onNulls
  else operation.comparesTypes whole target literal

/-- The kind of error by which the operation refuses a target of a type and a literal of a type. -/
def refusal? (whole : Bool) (target literal : JsonType) : Option ErrorKind :=
  if whole && target.isScalar && !operation.operator.onStrings then some .unsupported
  else if operation.compares whole target literal then none
  else some .typeMismatch

/-- The kind of error by which the operation refuses plain text and a literal of a type. -/
def plainRefusal? (literal : JsonType) : Option ErrorKind :=
  if operation.operator.onStrings then
    if operation.fits .string literal then none else some .typeMismatch
  else some .unsupported

end Operation

/-! ## What comparisons do -/

namespace Comparison

/-- The kind of error that a comparison ends with, if it ends with one. -/
def failure? : Except QueryError Bool → Option ErrorKind
  | .ok _ => none
  | .error cause => some cause.kind

@[simp] theorem failure?_ok (b : Bool) : failure? (.ok b) = none := rfl

variable (cond : Condition)

@[simp] theorem failure?_mismatch (cause : Text → Mismatch) :
    failure? (mismatch cond cause) = some .typeMismatch := rfl

/-- A literal of another type than the target: only "not equals" is no failure. -/
@[simp] theorem failure?_unlike (cause : Text → Mismatch) :
    failure? (if cond.operation.operator = .notEquals then .ok true else mismatch cond cause) =
      if cond.operation.operator = .notEquals then none else some .typeMismatch := by
  split <;> rfl

/-- A text fails to be compared exactly if the types do not fit. -/
theorem failure?_withText (kind target : Text) :
    failure? (withText cond kind target) =
      if cond.operation.fits .string cond.literal.type then none else some .typeMismatch := by
  by_cases hliteral : cond.literal.type = .string
  · obtain ⟨value, hvalue⟩ := Literal.exists_of_type_string hliteral
    simp [withText_string hvalue, Operation.fits, hliteral]
  · simp [withText_unlike hliteral, Operation.fits, hliteral]

/-- Plain text fails to be compared as the operation and the type of the literal say. -/
theorem failure?_withPlainText (s : Text) :
    failure? (withPlainText cond s) = cond.operation.plainRefusal? cond.literal.type := by
  unfold withPlainText Operation.plainRefusal?
  split
  · exact failure?_withText cond _ s
  · rfl

/-- A string fails to be compared if strings do not have the operation or the types do not fit. -/
theorem failure?_withString (s : Text) :
    failure? (withString cond s) =
      if cond.operation.operator.onStrings && cond.operation.fits .string cond.literal.type then
        none
      else some .typeMismatch := by
  unfold withString
  cases cond.operation.operator.onStrings with
  | false => rfl
  | true => exact failure?_withText cond _ s

/-- A number fails to be compared if numbers do not have the operation, letter case is to be
ignored, or the types do not fit. -/
theorem failure?_withNumber (x : Binary64) :
    failure? (withNumber cond x) =
      if cond.operation.operator.onNumbers && !cond.operation.insensitive &&
        cond.operation.fits .number cond.literal.type then none
      else some .typeMismatch := by
  cases hop : cond.operation.operator.onNumbers with
  | false => simp [withNumber, hop]
  | true =>
      cases hcase : cond.operation.insensitive with
      | true => simp [withNumber_insensitive hop hcase]
      | false =>
          by_cases hliteral : cond.literal.type = .number
          · obtain ⟨y, hy⟩ := Literal.exists_of_type_number hliteral
            simp [withNumber_number hy hop hcase, Operation.fits, hliteral]
          · simp [withNumber_unlike hliteral hop hcase, Operation.fits, hliteral]

/-- A truth value fails to be compared if truth values do not have the operation, letter case is to
be ignored, or the types do not fit. -/
theorem failure?_withBool (b : Bool) :
    failure? (withBool cond b) =
      if cond.operation.operator.onBools && !cond.operation.insensitive &&
        cond.operation.fits .bool cond.literal.type then none
      else some .typeMismatch := by
  cases hop : cond.operation.operator.onBools with
  | false => simp [withBool, hop]
  | true =>
      cases hcase : cond.operation.insensitive with
      | true => simp [withBool_insensitive hop hcase]
      | false =>
          by_cases hliteral : cond.literal.type = .bool
          · obtain ⟨value, hvalue⟩ := Literal.exists_of_type_bool hliteral
            simp [withBool_bool hvalue hop hcase, Operation.fits, hliteral]
          · simp [withBool_unlike hliteral hop hcase, Operation.fits, hliteral]

/-- Arrays are only searched, never compared. -/
theorem failure?_withArray : failure? (withArray cond) = some .typeMismatch := by
  unfold withArray
  split <;> rfl

/-- An object is compared only as the whole content, and only by "equals" and "not equals". -/
theorem failure?_withObject :
    failure? (withObject cond) =
      if cond.path = [] && cond.operation.operator.onBools then none else some .typeMismatch := by
  unfold withObject
  split <;> rfl

/-- Null is compared with null by "equals" and "not equals" alone. -/
theorem failure?_nullWithNull :
    failure? (nullWithNull cond) =
      if cond.operation.operator.onBools then none else some .typeMismatch := by
  unfold nullWithNull
  cases cond.operation.operator <;> rfl

/-- Null is compared with another value by the operations that say something of it. -/
theorem failure?_nullWithOther :
    failure? (nullWithOther cond) =
      if cond.operation.onNulls then none else some .typeMismatch := by
  unfold nullWithOther Operation.onNulls
  cases cond.operation.operator <;> rfl

/-- A comparison by type fails exactly if the types, and the place of the target, do not allow
it. -/
theorem failure?_withType (target : Json) :
    failure? (withType cond target) =
      if cond.operation.comparesTypes (cond.path = []) target.type cond.literal.type then none
      else some .typeMismatch := by
  cases target with
  | null => exact failure?_nullWithOther cond
  | bool b => exact failure?_withBool cond b
  | int n => exact failure?_withNumber cond (Binary64.ofInt n)
  | float x => exact failure?_withNumber cond x
  | string s => exact failure?_withString cond s
  | array items => exact failure?_withArray cond
  | object fields => exact failure?_withObject cond

/-- Seeking something in an array looks at each of its items. -/
theorem withValue_contains {items : List Json} (hop : cond.operation.operator = .contains) :
    withValue cond (.array items) = .ok (items.any (isItem cond)) := by
  unfold withValue
  rw [hop, if_neg (by simp [Operator.onStrings])]

/-- A value is compared by its type, unless the literal is null, the value is refused at the root,
or something is sought in it. -/
theorem withValue_eq {target : Json}
    (hroot : ¬ (cond.path = [] && target.isScalar && !cond.operation.operator.onStrings) = true)
    (hseek : ¬ (target.type = .array && cond.operation.operator = .contains) = true) :
    withValue cond target =
      if cond.literal = .null then
        if target.type = .null then nullWithNull cond else nullWithOther cond
      else withType cond target := by
  unfold withValue
  rw [if_neg hroot]
  cases target with
  | array items =>
      have hop : cond.operation.operator ≠ .contains := by simpa [Json.type] using hseek
      split
      · next h => exact absurd h hop
      · contradiction
      · rfl
  | _ => rfl

/-- Apart from an operation that is refused by a scalar at the root, a comparison fails exactly if
the types do not allow it. -/
theorem failure?_withValue (target : Json) :
    failure? (withValue cond target) =
      cond.operation.refusal? (cond.path = []) target.type cond.literal.type := by
  unfold Operation.refusal?
  rw [← Json.isScalar_eq]
  split
  · next hroot =>
      unfold withValue
      rw [if_pos hroot]
      rfl
  · next hroot =>
      unfold Operation.compares
      by_cases hseek : (target.type = .array && cond.operation.operator = .contains) = true
      · rw [if_pos hseek]
        obtain ⟨htype, hop⟩ : target.type = .array ∧ cond.operation.operator = .contains := by
          simpa using hseek
        cases target with
        | array items => rw [withValue_contains cond hop, failure?_ok, if_pos rfl]
        | _ => contradiction
      · rw [withValue_eq cond hroot hseek, if_neg hseek]
        simp only [Literal.type_eq_null_iff]
        split
        · split
          · exact failure?_nullWithNull cond
          · exact failure?_nullWithOther cond
        · exact failure?_withType cond target

/-- Whether a comparison fails, and with an error of which kind, depends on the operation, the
types of the target and of the literal, and whether the target is the whole content, never on the
values. For plain text it depends on the operation and the type of the literal alone. Targets are
values of JSON proper, in which no NaN occurs. -/
theorem failure?_eq_of_types_eq {cond cond' : Condition}
    (hoperation : cond.operation = cond'.operation)
    (hliteral : cond.literal.type = cond'.literal.type) :
    (∀ target target' : Json, target.hasNaN = false → target'.hasNaN = false →
      target.type = target'.type → (cond.path = [] ↔ cond'.path = []) →
      failure? (withValue cond target) = failure? (withValue cond' target')) ∧
    ∀ s s' : Text, failure? (withPlainText cond s) = failure? (withPlainText cond' s') := by
  constructor
  · intro target target' _ _ htarget hpath
    rw [failure?_withValue, failure?_withValue, hoperation, hliteral, htarget,
      decide_eq_decide.mpr hpath]
  · intro s s'
    rw [failure?_withPlainText, failure?_withPlainText, hoperation, hliteral]

/-- Seeking a number in an array does not fail, whatever is in the array, and seeking it in plain
text fails, whatever the text is. -/
theorem failure?_eq_of_numbers_sought :
    let cond : Condition := ⟨"a", ⟨.contains, false⟩, .number (.ofInt 1), []⟩
    let cond' : Condition := ⟨"b.c", ⟨.contains, false⟩, .number .nan, []⟩
    cond.operation = cond'.operation ∧ cond.literal.type = cond'.literal.type ∧
    failure? (withValue cond (.array [])) =
      failure? (withValue cond' (.array [.int (Int.pow 10 400), .null, .object [], .string "1"])) ∧
    failure? (withPlainText cond []) = failure? (withPlainText cond' "1") := by
  intro cond cond'
  have hoperation : cond.operation = cond'.operation := rfl
  have hliteral : cond.literal.type = cond'.literal.type := (rfl : JsonType.number = .number)
  have hpath : cond.path = [] ↔ cond'.path = [] := iff_of_false (by decide) (by decide)
  obtain ⟨hvalue, htext⟩ := failure?_eq_of_types_eq hoperation hliteral
  exact ⟨hoperation, hliteral, hvalue (.array []) _ rfl rfl rfl hpath, htext [] "1"⟩

end Comparison

/-! ## Conditions on a content -/

namespace Condition

variable {cond : Condition}

/-- Where a path leads to a value, a condition says what the comparison with it says. -/
theorem evaluate_of_found {root target : Json}
    (h : Path.resolve? root cond.path = .ok (some target)) :
    cond.evaluate (.json root) = cond.blame (Comparison.withValue cond target) := by
  rw [evaluate, h]

/-- Where a path leads to no value, a condition fails for that. -/
theorem evaluate_of_missing {root : Json} (h : Path.resolve? root cond.path = .ok none) :
    cond.evaluate (.json root) = cond.blame (.error (.noSuchPath cond.path)) := by
  rw [evaluate, h]

/-- Only failures are blamed on a condition, and truth values remain. -/
theorem blame_eq_ok_iff {outcome : Except QueryError Bool} {b : Bool} :
    cond.blame outcome = .ok b ↔ outcome = .ok b := by
  cases outcome <;> simp [blame]

/-- A condition on a JSON value has a truth value exactly if its path leads to a value of which the
comparison has one. -/
theorem evaluate_eq_ok_iff {root : Json} {b : Bool} :
    cond.evaluate (.json root) = .ok b ↔
      ∃ target, Path.resolve? root cond.path = .ok (some target) ∧
        Comparison.withValue cond target = .ok b := by
  cases hfound : Path.resolve? root cond.path with
  | error e =>
      rw [evaluate, hfound]
      exact ⟨nofun, fun ⟨_, htarget, _⟩ => nomatch htarget⟩
  | ok found =>
      cases found with
      | none =>
          rw [evaluate_of_missing hfound, blame_eq_ok_iff]
          exact ⟨nofun, fun ⟨_, htarget, _⟩ => nomatch htarget⟩
      | some target =>
          rw [evaluate_of_found hfound, blame_eq_ok_iff]
          constructor
          · exact fun h => ⟨target, rfl, h⟩
          · rintro ⟨_, ⟨⟩, h⟩
            exact h

/-- A failure that is blamed on a condition names it by its text and keeps the cause. -/
theorem blame_eq_failed_iff {outcome : Except QueryError Bool} {source : Text}
    {cause : QueryError} :
    cond.blame outcome = .error (.failed source cause) ↔
      cond.source = source ∧ outcome = .error cause := by
  cases outcome <;> simp [blame]

end Condition

end ContentQuery
