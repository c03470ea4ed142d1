import ContentQuery.Evaluation
import ContentQuery.Proofs.Spelling
import ContentQuery.Proofs.StandsFor
import ContentQuery.Proofs.Comparability
import ContentQuery.Proofs.ProperValues

/-!
# ContentQuery.Proofs.NumberOrder

A NaN would make every comparison fail without a word. None can be compared: no numeral denotes one,
the names of numbers that are not finite are refused in JSON text, and a payload that holds a NaN
stands for no JSON value. So every number is less than, equal to or greater than every numeral, and
the other operators follow from these three.
-/

namespace ContentQuery

namespace Binary64

/-! ## Places -/

/-- Every number but NaN has a place in the order of numbers. -/
theorem exists_place {x : Binary64} (h : x.isNaN = false) : ∃ a, x.place? = some a := by
  cases x with
  | finite negative exponent fraction => exact ⟨_, rfl⟩
  | infinite negative => exact ⟨_, place?_infinite negative⟩
  | nan => contradiction

/-- The number nearest to a value is no NaN. -/
theorem IsNearest.isNaN {x : Binary64} {q : ℚ} (h : x.IsNearest q) : x.isNaN = false := by
  cases x with
  | finite negative exponent fraction => rfl
  | infinite negative => rfl
  | nan => contradiction

/-- Two numbers of which none is a NaN stand in an order, by which all comparisons go. -/
theorem exists_ordering {x y : Binary64} (hx : x.isNaN = false) (hy : y.isNaN = false) :
    ∃ order : Ordering, x.lt y = order.isLT ∧ x.eq y = order.isEq ∧ y.lt x = order.isGT ∧
      x.le y = !order.isGT ∧ y.le x = !order.isLT := by
  obtain ⟨a, ha⟩ := exists_place hx
  obtain ⟨b, hb⟩ := exists_place hy
  have hlt : x.lt y = decide (a < b) := by rw [lt, related, ha, hb]
  have hgt : y.lt x = decide (b < a) := by rw [lt, related, ha, hb]
  have heq : x.eq y = decide (a = b) := by rw [eq, related, ha, hb]
  have hle : x.le y = decide (a ≤ b) := by rw [le, related, ha, hb]
  have hge : y.le x = decide (b ≤ a) := by rw [le, related, ha, hb]
  rw [hlt, hgt, heq, hle, hge]
  rcases lt_trichotomy a b with h | h | h
  · exact ⟨.lt, by simp [h, h.le, h.ne, h.not_gt, h.not_ge]⟩
  · exact ⟨.eq, by simp [h]⟩
  · exact ⟨.gt, by simp [h, h.le, h.ne', h.not_gt, h.not_ge]⟩

end Binary64

/-! ## Contents without NaN -/

namespace Json

theorem hasNaN_eq_isNaN {value : Json} {x : Binary64} (h : value.number? = some x) :
    value.hasNaN = x.isNaN := by
  cases value with
  | int n =>
      rw [← Option.some.inj h, (Binary64.isNearest_ofInt n).isNaN]
      rfl
  | float y =>
      rw [← Option.some.inj h]
      rfl
  | _ => contradiction

/-- A value of the type of numbers is one. -/
theorem exists_number?_of_type {value : Json} (h : value.type = .number) :
    ∃ x, value.number? = some x := by
  cases value with
  | int n => exact ⟨_, rfl⟩
  | float x => exact ⟨x, rfl⟩
  | _ => contradiction

/-- No numeral denotes NaN. -/
theorem Numeral.hasNaN_value (n : Numeral) : n.value.hasNaN = false := by
  obtain ⟨x, hx, hnearest⟩ := n.exists_isNearest
  rw [hasNaN_eq_isNaN hx, hnearest.isNaN]

namespace Spelling

mutual

/-- No text spells a NaN. -/
theorem hasNaN_value : (spelling : Spelling) → spelling.value.hasNaN = false
  | null => rfl
  | bool _ => rfl
  | number numeral => numeral.hasNaN_value
  | string _ => rfl
  | array items => itemsHaveNaN_value items
  | object fields => fieldsHaveNaN_value fields

theorem itemsHaveNaN_value : (items : List Spelling) → itemsHaveNaN (itemsValue items) = false
  | [] => rfl
  | item :: rest => by
      rw [itemsValue, itemsHaveNaN, hasNaN_value item, itemsHaveNaN_value rest]
      rfl

theorem fieldsHaveNaN_value :
    (fields : List (Text × Spelling)) → fieldsHaveNaN (fieldsValue fields) = false
  | [] => rfl
  | (_, field) :: rest => by
      rw [fieldsValue, fieldsHaveNaN, hasNaN_value field, fieldsHaveNaN_value rest]
      rfl

end

end Spelling

end Json

namespace Content

/-- The JSON value that conditions see holds no NaN, in whatever form the payload came. -/
theorem hasNaN_of_ofPayload [Limits] {payload : Payload} {root : Json}
    (h : ofPayload payload = .ok (json root)) : root.hasNaN = false := by
  unfold ofPayload at h
  split at h
  · next s =>
      rw [Except.ok.injEq, ofText, Json.read_eq_map_value] at h
      cases hread : Json.Spelling.read Limits.contentText s with
      | error e =>
          rw [hread] at h
          contradiction
      | ok spelling =>
          rw [hread] at h
          rw [← Content.json.inj h]
          exact spelling.hasNaN_value
  · split at h
    · next hroot =>
        rw [Payload.root?] at hroot
        split at hroot
        · rw [← Content.json.inj (Except.ok.inj h)]
          exact Payload.hasNaN_of_toJson? _ hroot
        · contradiction
    · obtain ⟨text, -, htext⟩ := map_eq_ok_iff.mp h
      contradiction

end Content

/-! ## Comparing -/

/-- A literal that is read as a number is not read as a NaN. -/
theorem Literal.isNaN_of_parse {source : Text} {y : Binary64} (h : parse source = .number y) :
    y.isNaN = false := by
  unfold parse at h
  simp only at h
  repeat' split at h
  case h_1 d _ =>
    rw [← Literal.number.inj h]
    exact d.isNearest_toBinary64.isNaN
  all_goals contradiction

/-- A number is compared by what the operator says of numbers. -/
theorem Comparison.withValue_number {cond : Condition} {target : Json} {x y : Binary64}
    (hpath : cond.path ≠ []) (htarget : target.number? = some x)
    (hliteral : cond.literal = .number y) (hcase : cond.operation.insensitive = false)
    (hop : cond.operation.operator.onNumbers = true) :
    withValue cond target = .ok (cond.operation.operator.testNumbers x y) := by
  have hnumber : withNumber cond x = .ok (cond.operation.operator.testNumbers x y) :=
    withNumber_number hliteral hop hcase
  have hnull : cond.literal ≠ .null := by
    rw [hliteral]
    exact nofun
  unfold withValue
  rw [if_neg (by simp [hpath])]
  cases target with
  | int n =>
      obtain rfl := Option.some.inj htarget
      exact (if_neg hnull).trans hnumber
  | float z =>
      obtain rfl := Option.some.inj htarget
      exact (if_neg hnull).trans hnumber
  | _ => contradiction

namespace Query

/-- The query of a single condition, which compares what a path leads to with a literal. -/
def comparing (path : Text) (op : Operator) (literal source : Text) : Query :=
  chain ⟨path, ⟨op, false⟩, Literal.parse literal, source⟩ []

end Query

/-- What a query of one condition says of a number. -/
theorem matchesQuery_comparing [Limits] {payload : Payload} {root target : Json}
    {path literal : Text} {x y : Binary64}
    (hcontent : Content.ofPayload payload = .ok (.json root)) (hpath : path ≠ [])
    (htarget : Path.resolve? root path = .ok (some target)) (hx : target.number? = some x)
    (hliteral : Literal.parse literal = .number y) {op : Operator} (hop : op.onNumbers = true)
    (source : Text) :
    matchesQuery payload (some (Query.comparing path op literal source)) =
      .ok (op.testNumbers x y) := by
  let cond : Condition := ⟨path, ⟨op, false⟩, Literal.parse literal, source⟩
  have hvalue : Comparison.withValue cond target = .ok (op.testNumbers x y) :=
    Comparison.withValue_number hpath hx hliteral rfl hop
  have hcond : cond.evaluate (.json root) = .ok (op.testNumbers x y) := by
    rw [Condition.evaluate_of_found htarget, hvalue]
    rfl
  have hquery : (Query.comparing path op literal source).evaluate (.json root) =
      .ok (op.testNumbers x y) := by
    change (cond.evaluate (.json root) >>= fun result => _) = _
    rw [hcond]
    rfl
  rw [matchesQuery, if_neg (by simp [Query.isEmpty, Query.comparing, Query.chain]), hcontent]
  exact hquery

/-- Wherever a path leads to a number, it and a numeral stand in an order: none of the six operators
on numbers fails, exactly one of "less than", "equals" and "greater than" holds, and the other three
deny one of these. No NaN is ever compared. -/
theorem exists_ordering_of_number [Limits] {payload : Payload} {root target : Json}
    {path literal : Text} {y : Binary64}
    (hcontent : Content.ofPayload payload = .ok (.json root)) (hpath : path ≠ [])
    (htarget : Path.resolve? root path = .ok (some target)) (hnumber : target.type = .number)
    (hliteral : Literal.parse literal = .number y) :
    ∃ x, target.number? = some x ∧ x.isNaN = false ∧ y.isNaN = false ∧
      ∃ order : Ordering, ∀ source,
        let outcome op := matchesQuery payload (some (Query.comparing path op literal source))
        outcome .lessThan = .ok order.isLT ∧ outcome .equals = .ok order.isEq ∧
          outcome .greaterThan = .ok order.isGT ∧
          outcome .lessThanOrEquals = .ok (!order.isGT) ∧
          outcome .greaterThanOrEquals = .ok (!order.isLT) ∧
          outcome .notEquals = .ok (!order.isEq) := by
  obtain ⟨x, hx⟩ := Json.exists_number?_of_type hnumber
  have hxNaN : x.isNaN = false := by
    rw [← Json.hasNaN_eq_isNaN hx]
    exact Path.hasNaN_of_resolve? (Content.hasNaN_of_ofPayload hcontent) htarget
  have hyNaN : y.isNaN = false := Literal.isNaN_of_parse hliteral
  obtain ⟨order, hlt, heq, hgt, hle, hge⟩ := Binary64.exists_ordering hxNaN hyNaN
  refine ⟨x, hx, hxNaN, hyNaN, order, fun source => ?_⟩
  have houtcome {op : Operator} (hop : op.onNumbers = true) :=
    matchesQuery_comparing hcontent hpath htarget hx hliteral hop source
  exact ⟨(houtcome rfl).trans (congrArg Except.ok hlt),
    (houtcome rfl).trans (congrArg Except.ok heq), (houtcome rfl).trans (congrArg Except.ok hgt),
    (houtcome rfl).trans (congrArg Except.ok hle),
    (houtcome rfl).trans (congrArg Except.ok hge),
    (houtcome rfl).trans (congrArg (fun equal => Except.ok (!equal)) heq)⟩

/-- The order of an infinity, which a numeral out of range is read as, and a number. -/
theorem exists_ordering_of_number_infinite :
    let payload : Payload := .json (.string (Text.ofString "[1e400]"))
    ∃ x, (Json.float (.infinite false)).number? = some x ∧ x.isNaN = false ∧
      (Decimal.toBinary64 ⟨true, 25, -1⟩).isNaN = false ∧
      ∃ order : Ordering, ∀ source,
        let outcome op := matchesQuery payload (some (Query.comparing "0" op "-2.5" source))
        outcome .lessThan = .ok order.isLT ∧ outcome .equals = .ok order.isEq ∧
          outcome .greaterThan = .ok order.isGT ∧
          outcome .lessThanOrEquals = .ok (!order.isGT) ∧
          outcome .greaterThanOrEquals = .ok (!order.isLT) ∧
          outcome .notEquals = .ok (!order.isEq) :=
  have hcontent : Content.ofPayload (.json (.string (Text.ofString "[1e400]"))) =
      .ok (.json (.array [.float (.infinite false)])) := rfl
  exists_ordering_of_number hcontent (by decide) rfl rfl rfl

end ContentQuery
