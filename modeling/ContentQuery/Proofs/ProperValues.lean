import ContentQuery.Path
import ContentQuery.Payload
import ContentQuery.Proofs.Fields
import ContentQuery.Proofs.Steps

/-!
# ContentQuery.Proofs.ProperValues

Values of JSON proper, in which no NaN occurs. Whatever a path leads to in such a value is one again,
so whoever starts with one never meets a NaN.
-/

namespace ContentQuery

namespace Json

/-- Items have no NaN exactly if none of them has. -/
theorem itemsHaveNaN_eq_false_iff {items : List Json} :
    itemsHaveNaN items = false ↔ ∀ item ∈ items, item.hasNaN = false := by
  induction items with
  | nil => simp [itemsHaveNaN]
  | cons item rest ih => simp [itemsHaveNaN, ih]

/-- Fields have no NaN exactly if no value has. -/
theorem fieldsHaveNaN_eq_false_iff {fields : List (Text × Json)} :
    fieldsHaveNaN fields = false ↔ ∀ field ∈ fields, field.2.hasNaN = false := by
  induction fields with
  | nil => simp [fieldsHaveNaN]
  | cons field rest ih => simp [fieldsHaveNaN, ih]

/-- The items of an array without NaN have none. -/
theorem hasNaN_of_mem {items : List Json} {item : Json} (h : (array items).hasNaN = false)
    (hitem : item ∈ items) : item.hasNaN = false :=
  itemsHaveNaN_eq_false_iff.mp h item hitem

end Json

namespace Path

/-- What a component leads to has no NaN if the value has none. -/
theorem hasNaN_of_child? {value child : Json} {component : Text} (hvalue : value.hasNaN = false)
    (h : child? value component = .ok (some child)) : child.hasNaN = false := by
  have hnone : Except.ok none ≠ (Except.ok (some child) : Except StepError (Option Json)) :=
    fun h => by cases Except.ok.inj h
  cases value with
  | object fields =>
      have hfield := mem_of_fieldOf?_eq_some (Except.ok.inj h)
      exact Json.fieldsHaveNaN_eq_false_iff.mp hvalue _ hfield
  | array items =>
      rw [child?, item?] at h
      split at h
      · -- A length is an integer.
        rw [← Option.some.inj (Except.ok.inj h)]
        rfl
      · split at h
        · split at h
          · exact Json.hasNaN_of_mem hvalue (List.mem_of_getElem? (Except.ok.inj h))
          · contradiction
        · exact absurd h hnone
  | _ => exact absurd h hnone

/-- What components lead to has no NaN if the value has none. -/
theorem hasNaN_of_follow? {value target : Json} {components : List Text}
    (hvalue : value.hasNaN = false) (h : follow? value components = .ok (some target)) :
    target.hasNaN = false := by
  induction components generalizing value with
  | nil =>
      rw [← Option.some.inj (Except.ok.inj h)]
      exact hvalue
  | cons component rest ih =>
      obtain ⟨found, hchild, hrest⟩ := bind_eq_ok_iff.mp h
      cases found with
      | none => cases Except.ok.inj hrest
      | some child => exact ih (hasNaN_of_child? hvalue hchild) hrest

/-- A path leads from a value without NaN to one without NaN. -/
theorem hasNaN_of_resolve? {root target : Json} {path : Text} (hroot : root.hasNaN = false)
    (h : resolve? root path = .ok (some target)) : target.hasNaN = false := by
  rw [resolve?] at h
  split at h
  · rw [← Option.some.inj (Except.ok.inj h)]
    exact hroot
  · exact hasNaN_of_follow? hroot h

end Path

end ContentQuery
