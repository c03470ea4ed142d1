import ContentQuery.Proofs.Addresses
import ContentQuery.Proofs.Comparability
import ContentQuery.Proofs.PathJoining
import ContentQuery.Proofs.ProperValues
import ContentQuery.Proofs.Steps

/-!
# ContentQuery.Proofs.Membership

What an array contains. Membership has a comparison of its own, which passes over what cannot be
compared, and it agrees with the comparison of each item by its path: an array contains a literal
exactly if "equals" holds for one of its items, where an error is as good as a denial.
-/

namespace ContentQuery

/-! ## Paths of items -/

namespace Path

/-- The path of an item of the array that a path leads to. -/
def item (path : Text) (index : Nat) : Text :=
  if path = [] then Text.ofNat index else path ++ ('.' : CodePoint) :: Text.ofNat index

theorem item_ne_nil (path : Text) (index : Nat) : item path index ≠ [] := by
  unfold item
  split
  · exact Text.ofNat_ne_nil index
  · simp

theorem components_ofNat (n : Nat) : components (Text.ofNat n) = [Text.ofNat n] := by
  have h : components (written [.item n]) = [.item n].map componentOf :=
    components_written (List.cons_ne_nil _ _)
  exact h

/-- The path of an item is resolved as an index of the array. -/
theorem resolve?_item {root : Json} {path : Text} {items : List Json} (hpath : ¬ EndsOpen path)
    (harray : resolve? root path = .ok (some (.array items))) (index : Nat) :
    resolve? root (item path index) = item? items (Text.ofNat index) := by
  have hindex : resolve? (.array items) (Text.ofNat index) = item? items (Text.ofNat index) := by
    rw [resolve?, if_neg (Text.ofNat_ne_nil index), components_ofNat, follow?_cons, child?]
    rcases item? items (Text.ofNat index) with _ | _ | _ <;> rfl
  rw [item]
  split
  · next hroot =>
      rw [resolve?, if_pos hroot, Except.ok.injEq, Option.some.injEq] at harray
      rw [harray, hindex]
  · next hne =>
      rw [resolve?_append_point hne (Text.ofNat_ne_nil index) hpath, harray]
      exact hindex

/-- An index finds the item at it and nothing else, unless it has too many digits. -/
theorem item?_ofNat_eq_some_iff {items : List Json} {index : Nat} {value : Json} :
    item? items (Text.ofNat index) = .ok (some value) ↔
      IsShort (.item index) ∧ items[index]? = some value := by
  by_cases hshort : IsShort (.item index)
  · rw [item?_ofNat items hshort, Except.ok.injEq]
    exact (and_iff_right hshort).symm
  · have hlong : ¬ (Text.ofNat index).length ≤ maxIndexDigits := hshort
    rw [item?, if_neg (ofNat_ne_lengthSign index), if_pos (isDigits_ofNat index), if_neg hlong]
    exact iff_of_false (by simp) fun h => hshort h.1

end Path

/-! ## Items and literals -/

namespace Comparison

variable {cond equating : Condition}

/-- A condition that compares an item of an array where another one seeks a literal in the array:
it says "equals" of the same literal, with the same regard for letter case, which no literal but a
string leaves out. -/
structure Checks (equating cond : Condition) : Prop where
  operator : equating.operation.operator = .equals
  insensitive : equating.operation.insensitive = cond.operation.insensitive
  literal : equating.literal = cond.literal
  path : equating.path ≠ []
  isString : cond.operation.insensitive = true → cond.literal.type = .string

/-- "Equals" does not compare types that differ, null aside. -/
theorem comparesTypes_unlike {operation : Operation} (hop : operation.operator = .equals)
    {target literal : JsonType} (hnull : target ≠ .null) (h : literal ≠ target) :
    operation.comparesTypes false target literal = false := by
  cases target with
  | null => contradiction
  | array => rfl
  | object => rfl
  | _ => simp [Operation.comparesTypes, Operation.fits, hop, h]

/-- A literal of another type than an item is not the item. -/
theorem isItem_unlike {item : Json} (h : cond.literal.type ≠ item.type) :
    isItem cond item = false := by
  unfold isItem
  generalize cond.literal = literal at h ⊢
  cases item <;> cases literal <;> first | rfl | exact absurd rfl h

variable (h : Checks equating cond)

include h

theorem Checks.insensitive_eq_false (htype : cond.literal.type ≠ .string) :
    equating.operation.insensitive = false := by
  rw [h.insensitive, Bool.eq_false_iff]
  exact fun hcase => htype (h.isString hcase)

theorem Checks.withValue_eq (item : Json) :
    withValue equating item =
      if cond.literal = .null then
        if item.type = .null then nullWithNull equating else nullWithOther equating
      else withType equating item := by
  rw [Comparison.withValue_eq equating (by simp [h.path]) (by simp [h.operator]), h.literal]

theorem Checks.nullWithOther_eq : nullWithOther equating = .ok false := by
  rw [nullWithOther, h.operator]

/-- Nor does it equal the item: it differs from null, and anything else is not compared with it. -/
theorem withValue_unlike {item : Json} (htype : cond.literal.type ≠ item.type) :
    withValue equating item ≠ .ok true := by
  rw [h.withValue_eq]
  split
  · next hnull =>
      have hitem : item.type ≠ .null := by
        rw [hnull] at htype
        exact htype.symm
      rw [if_neg hitem, h.nullWithOther_eq]
      exact nofun
  · by_cases hitem : item.type = .null
    · cases item with
      | null =>
          have hfalse : withType equating .null = .ok false := h.nullWithOther_eq
          rw [hfalse]
          exact nofun
      | _ => contradiction
    · intro htrue
      have hfails := failure?_withType equating item
      rw [htrue, h.literal, decide_eq_false h.path,
        comparesTypes_unlike h.operator hitem htype] at hfails
      contradiction

theorem Checks.withString_eq {value : Text} (hliteral : cond.literal = .string value) (s : Text) :
    withString equating s = .ok (cond.operation.seen s = cond.operation.seen value) := by
  unfold withString
  rw [withText_string (h.literal.trans hliteral), h.operator, Operation.seen, Operation.seen,
    h.insensitive]
  rfl

theorem Checks.withNumber_eq {y : Binary64} (hliteral : cond.literal = .number y) (x : Binary64) :
    withNumber equating x = .ok (x.eq y) := by
  have hcase : equating.operation.insensitive = false :=
    h.insensitive_eq_false (by rw [hliteral]; exact nofun)
  rw [withNumber_number (h.literal.trans hliteral) (by rw [h.operator]; rfl) hcase, h.operator]
  rfl

theorem Checks.withBool_eq {value : Bool} (hliteral : cond.literal = .bool value) (b : Bool) :
    withBool equating b = .ok (b = value) := by
  have hcase : equating.operation.insensitive = false :=
    h.insensitive_eq_false (by rw [hliteral]; exact nofun)
  rw [withBool_bool (h.literal.trans hliteral) (by rw [h.operator]; rfl) hcase, h.operator]
  rfl

omit h in
theorem isItem_string {value : Text} (hliteral : cond.literal = .string value) (s : Text) :
    isItem cond (.string s) = decide (cond.operation.seen s = cond.operation.seen value) := by
  rw [isItem, hliteral, Operation.seen, Operation.seen]
  cases cond.operation.insensitive <;> rfl

/-- An item is the literal exactly if it equals it. -/
theorem isItem_eq_true_iff (item : Json) :
    isItem cond item = true ↔ withValue equating item = .ok true := by
  by_cases htype : cond.literal.type = item.type
  · rw [h.withValue_eq]
    cases item with
    | null =>
        have hnull : cond.literal = .null := Literal.type_eq_null_iff.mp htype
        have hboth : nullWithNull equating = .ok true := by rw [nullWithNull, h.operator]
        simp [hnull, Json.type, hboth, isItem]
    | string s =>
        obtain ⟨value, hvalue⟩ := Literal.exists_of_type_string htype
        simp [hvalue, withType, h.withString_eq hvalue, isItem_string hvalue]
    | bool b =>
        obtain ⟨value, hvalue⟩ := Literal.exists_of_type_bool htype
        simp [hvalue, withType, h.withBool_eq hvalue, isItem]
    | int n =>
        obtain ⟨value, hvalue⟩ := Literal.exists_of_type_number htype
        simp [hvalue, withType, h.withNumber_eq hvalue, isItem]
    | float x =>
        obtain ⟨value, hvalue⟩ := Literal.exists_of_type_number htype
        simp [hvalue, withType, h.withNumber_eq hvalue, isItem]
    | array items => exact absurd htype cond.literal.type_ne_array
    | object fields => exact absurd htype cond.literal.type_ne_object
  · simp [isItem_unlike htype, withValue_unlike h htype]

end Comparison

/-! ## Arrays -/

namespace Condition

/-- The condition that a path leads to an array with a literal in it. -/
def seeking (path : Text) (insensitive : Bool) (literal : Literal) (source : Text) : Condition :=
  ⟨path, ⟨.contains, insensitive⟩, literal, source⟩

/-- The condition that a path leads to a value that equals a literal. -/
def equating (path : Text) (insensitive : Bool) (literal : Literal) (source : Text) : Condition :=
  ⟨path, ⟨.equals, insensitive⟩, literal, source⟩

/-- What an array contains is what one of its items equals: "contains" about the path of an array
has a truth value, and it is true exactly if "equals" is true about the path of an item. Letter
case is ignored by both or by none, and only where a string is sought. The content is a value of
JSON proper, and so are the items. An index in a path has 4300 digits at most, so that an item
beyond could be sought but not compared; no array is that long. -/
theorem contains_iff_exists_item {root : Json} {path : Text} {items : List Json}
    (hroot : root.hasNaN = false) (hpath : ¬ Path.EndsOpen path)
    (harray : Path.resolve? root path = .ok (some (.array items))) (insensitive : Bool)
    (literal : Literal) (hcase : insensitive = true → literal.type = .string) (source : Text)
    (sources : Nat → Text) :
    let equals (index : Nat) :=
      (equating (Path.item path index) insensitive literal (sources index)).evaluate (.json root)
    (∀ item ∈ items, item.hasNaN = false) ∧
    ∃ b, (seeking path insensitive literal source).evaluate (.json root) = .ok b ∧
      ((∃ index < items.length, equals index = .ok true) → b = true) ∧
      (items.length ≤ 10 ^ Path.maxIndexDigits → b = true →
        ∃ index < items.length, equals index = .ok true) := by
  intro equals
  have hchecks (index : Nat) : Comparison.Checks
      (equating (Path.item path index) insensitive literal (sources index))
      (seeking path insensitive literal source) :=
    ⟨rfl, rfl, rfl, Path.item_ne_nil path index, hcase⟩
  have hequals {index : Nat} (hindex : index < items.length) : equals index = .ok true ↔
      Path.IsShort (.item index) ∧
        Comparison.isItem (seeking path insensitive literal source) items[index] = true := by
    have hresolve := Path.resolve?_item hpath harray index
    rw [evaluate_eq_ok_iff, Comparison.isItem_eq_true_iff (hchecks index)]
    constructor
    · rintro ⟨value, hfound, htrue⟩
      obtain ⟨hshort, hvalue⟩ := Path.item?_ofNat_eq_some_iff.mp (hresolve.symm.trans hfound)
      rw [List.getElem?_eq_getElem hindex, Option.some.injEq] at hvalue
      exact ⟨hshort, hvalue ▸ htrue⟩
    · rintro ⟨hshort, htrue⟩
      have hitem := Path.item?_ofNat_eq_some_iff.mpr ⟨hshort, List.getElem?_eq_getElem hindex⟩
      exact ⟨items[index], hresolve.trans hitem, htrue⟩
  refine ⟨fun item => Json.hasNaN_of_mem (Path.hasNaN_of_resolve? hroot harray),
    items.any (Comparison.isItem (seeking path insensitive literal source)), ?_, ?_, ?_⟩
  · rw [evaluate_of_found harray, blame_eq_ok_iff, Comparison.withValue_contains _ rfl]
  · rintro ⟨index, hindex, htrue⟩
    exact List.any_eq_true.mpr
      ⟨items[index], List.getElem_mem hindex, ((hequals hindex).mp htrue).2⟩
  · intro hlength hany
    obtain ⟨value, hmem, hvalue⟩ := List.any_eq_true.mp hany
    obtain ⟨index, hindex, rfl⟩ := List.mem_iff_getElem.mp hmem
    have hshort : Path.IsShort (.item index) :=
      (Text.length_ofNat_le_iff (by decide)).mpr (Nat.lt_of_lt_of_le hindex hlength)
    exact ⟨index, hindex, (hequals hindex).mpr ⟨hshort, hvalue⟩⟩

end Condition

namespace Membership

/-- Items of every type. -/
def items : List Json := [.null, .bool true, .int 10, .array [.string "x"], .object [], .string "X"]

/-- An object with the items below a name that holds a point. -/
def root : Json := .object [("a.b", .array items)]

/-- Letter case aside, the last of the items is sought and found. -/
theorem contains_iff_exists_item_mixed :
    root.hasNaN = false ∧ ¬ Path.EndsOpen "a\\.b" ∧
    Path.resolve? root "a\\.b" = .ok (some (.array items)) ∧
    (Condition.seeking "a\\.b" true (.string "x") []).evaluate (.json root) = .ok true := by
  have hroot : root.hasNaN = false := rfl
  have hpath : ¬ Path.EndsOpen "a\\.b" := by decide
  have harray : Path.resolve? root "a\\.b" = .ok (some (.array items)) := rfl
  obtain ⟨-, b, hvalue, hb, -⟩ := Condition.contains_iff_exists_item hroot hpath harray true
    (.string "x") (fun _ => rfl) [] (fun _ => [])
  refine ⟨hroot, hpath, harray, ?_⟩
  rw [hvalue, hb ⟨5, by decide, rfl⟩]

end Membership

end ContentQuery
