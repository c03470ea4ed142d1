import ContentQuery.Json
import Mathlib.Data.List.Induction
import Mathlib.Data.List.Nodup
import Mathlib.Order.Fin.Basic

/-!
# ContentQuery.Proofs.Fields

Lists of named values in which a repeated name keeps its first place and its last value: which names
such a list has, what it gives for a name, and that these two determine it.
-/

namespace ContentQuery

variable {α : Type}

/-! ## Lists without repetitions -/

theorem nodup_eraseDups (names : List Text) : names.eraseDups.Nodup := by
  induction names using List.reverseRecOn with
  | nil => simp
  | append_singleton names name ih =>
      rw [List.eraseDups_append]
      by_cases h : name ∈ names
      · simpa [List.removeAll, h] using ih
      · simp only [List.removeAll, List.elem_eq_contains, List.filter_cons, List.filter_nil,
          List.contains_eq_mem, h, decide_false, Bool.not_false, if_true]
        rw [List.eraseDups_cons, List.filter_nil, List.eraseDups_nil]
        refine ih.append (List.nodup_singleton name) ?_
        rw [List.disjoint_singleton, List.mem_eraseDups]
        exact h

/-- Setting a field keeps the names, and adds the name at the end if it is new. -/
theorem names_setField (fields : List (Text × α)) (name : Text) (value : α) :
    (setField fields name value).map (·.1) =
      if name ∈ fields.map (·.1) then fields.map (·.1) else fields.map (·.1) ++ [name] := by
  induction fields with
  | nil => simp [setField]
  | cons field rest ih =>
      obtain ⟨other, old⟩ := field
      by_cases h : other = name
      · simp [setField, h]
      · have hne : name ≠ other := fun heq => h heq.symm
        rw [setField, if_neg h, List.map_cons, ih]
        by_cases hrest : name ∈ rest.map (·.1) <;> simp [hne, hrest]

/-- A new name stands behind the others. -/
theorem setField_eq_append {fields : List (Text × α)} {name : Text} {value : α}
    (h : name ∉ fields.map (·.1)) : setField fields name value = fields ++ [(name, value)] := by
  induction fields with
  | nil => rfl
  | cons field rest ih =>
      simp only [List.map_cons, List.mem_cons, not_or] at h
      rw [setField, if_neg (fun heq => h.1 heq.symm), ih h.2, List.cons_append]

theorem fieldOf?_cons (name other : Text) (value : α) (rest : List (Text × α)) :
    fieldOf? ((name, value) :: rest) other =
      if name = other then some value else fieldOf? rest other := by
  by_cases h : name = other <;> simp [fieldOf?, h]

/-- There is no value under a name exactly if no field has it. -/
theorem fieldOf?_eq_none_iff {fields : List (Text × α)} {name : Text} :
    fieldOf? fields name = none ↔ name ∉ fields.map (·.1) := by
  induction fields with
  | nil => simp [fieldOf?]
  | cons field rest ih =>
      obtain ⟨other, value⟩ := field
      rw [fieldOf?_cons]
      by_cases h : other = name
      · simp [h]
      · have hne : name ≠ other := fun heq => h heq.symm
        simp [h, hne, ih]

/-- A list in which no name repeats gives for each of its names the value beside it. -/
theorem fieldOf?_eq_some_iff {fields : List (Text × α)} (h : (fields.map (·.1)).Nodup)
    {name : Text} {value : α} : fieldOf? fields name = some value ↔ (name, value) ∈ fields := by
  induction fields with
  | nil => simp [fieldOf?]
  | cons field rest ih =>
      obtain ⟨other, old⟩ := field
      obtain ⟨hother, hrest⟩ := List.nodup_cons.mp h
      rw [fieldOf?_cons]
      by_cases heq : other = name
      · subst heq
        have hnot : (other, value) ∉ rest := fun hmem => hother (List.mem_map.mpr ⟨_, hmem, rfl⟩)
        simp [hnot, eq_comm]
      · have hne : name ≠ other := fun heq' => heq heq'.symm
        simp [heq, hne, ih hrest]

/-- A value under a name is that of a field. -/
theorem mem_of_fieldOf?_eq_some {fields : List (Text × α)} {name : Text} {value : α}
    (h : fieldOf? fields name = some value) : (name, value) ∈ fields := by
  rw [fieldOf?, Option.map_eq_some_iff] at h
  obtain ⟨field, hfield, rfl⟩ := h
  have hname : field.1 = name := by simpa using List.find?_some hfield
  rw [← hname]
  exact List.mem_of_find?_eq_some hfield

/-! ## The last name -/

/-- A field with a new name, at the end, is found. -/
theorem fieldOf?_concat {fields : List (Text × α)} {name : Text} (h : name ∉ fields.map (·.1))
    (value : α) : fieldOf? (fields ++ [(name, value)]) name = some value := by
  rw [← setField_eq_append h]
  exact fieldOf?_setField_self fields name value

/-- The last field is set in its place. -/
theorem setField_concat {fields : List (Text × α)} {name : Text} (h : name ∉ fields.map (·.1))
    (old value : α) :
    setField (fields ++ [(name, old)]) name value = fields ++ [(name, value)] := by
  induction fields with
  | nil => exact if_pos rfl
  | cons field rest ih =>
      simp only [List.map_cons, List.mem_cons, not_or] at h
      rw [List.cons_append, setField, if_neg (fun heq => h.1 heq.symm), ih h.2, List.cons_append]

/-! ## All names -/

/-- A field that comes last replaces the value of an earlier one of this name. -/
theorem distinctFields_concat (fields : List (Text × α)) (field : Text × α) :
    distinctFields (fields ++ [field]) = setField (distinctFields fields) field.1 field.2 := by
  simp [distinctFields]

/-- Each name stands where it was first given. -/
theorem names_distinctFields (fields : List (Text × α)) :
    (distinctFields fields).map (·.1) = (fields.map (·.1)).eraseDups := by
  induction fields using List.reverseRecOn with
  | nil => simp [distinctFields]
  | append_singleton fields field ih =>
      rw [distinctFields_concat, names_setField, ih, List.map_append, List.eraseDups_append]
      simp only [List.mem_eraseDups]
      by_cases h : field.1 ∈ fields.map (·.1)
      · rw [if_pos h]
        simp [List.removeAll, h]
      · rw [if_neg h]
        simp [List.removeAll, h, List.eraseDups_cons]

/-- Fields that have been read have different names. -/
theorem nodup_names_distinctFields (fields : List (Text × α)) :
    ((distinctFields fields).map (·.1)).Nodup := by
  rw [names_distinctFields]
  exact nodup_eraseDups _

/-- Each name has the value that it was given last. -/
theorem fieldOf?_distinctFields (fields : List (Text × α)) (name : Text) :
    fieldOf? (distinctFields fields) name = fieldOf? fields.reverse name := by
  induction fields using List.reverseRecOn with
  | nil => rfl
  | append_singleton fields field ih =>
      obtain ⟨last, value⟩ := field
      rw [distinctFields_concat, List.reverse_concat, fieldOf?_cons, ← ih]
      by_cases h : last = name
      · rw [if_pos h, h]
        exact fieldOf?_setField_self _ _ _
      · rw [if_neg h]
        exact fieldOf?_setField_of_ne _ _ (fun heq => h heq.symm)

/-- Fields that are kept are among those that were given. -/
theorem mem_of_mem_distinctFields {fields : List (Text × α)} {field : Text × α}
    (h : field ∈ distinctFields fields) : field ∈ fields := by
  have hvalue := (fieldOf?_eq_some_iff (nodup_names_distinctFields fields)).mpr h
  rw [fieldOf?_distinctFields] at hvalue
  exact List.mem_reverse.mp (mem_of_fieldOf?_eq_some hvalue)

/-- A list in which no name repeats is its names, each with the value that the list gives for it. -/
theorem eq_filterMap_names {fields : List (Text × α)} (h : (fields.map (·.1)).Nodup) :
    fields = (fields.map (·.1)).filterMap fun name =>
      (fieldOf? fields name).map fun value => (name, value) := by
  rw [List.filterMap_map]
  have hself : ∀ field ∈ fields, ((fun name => (fieldOf? fields name).map fun value =>
      (name, value)) ∘ (·.1)) field = some field := by
    intro field hfield
    have hvalue : fieldOf? fields field.1 = some field.2 := (fieldOf?_eq_some_iff h).mpr hfield
    simp [hvalue]
  rw [List.filterMap_congr hself, List.filterMap_some]

/-- A list in which no name repeats loses nothing. -/
theorem distinctFields_eq_self {fields : List (Text × α)} (h : (fields.map (·.1)).Nodup) :
    distinctFields fields = fields := by
  induction fields using List.reverseRecOn with
  | nil => rfl
  | append_singleton fields field ih =>
      rw [List.map_append, List.nodup_append] at h
      obtain ⟨hinit, -, hdisjoint⟩ := h
      have hnew : field.1 ∉ fields.map (·.1) := fun hmem => hdisjoint _ hmem _ (by simp) rfl
      rw [distinctFields_concat, ih hinit]
      exact setField_eq_append hnew

/-! ## Converted values -/

section Map

variable {β : Type} (f : α → β)

/-- Values may be changed before or after one of them is set. -/
theorem setField_map (fields : List (Text × α)) (name : Text) (value : α) :
    setField (fields.map (Prod.map id f)) name (f value) =
      (setField fields name value).map (Prod.map id f) := by
  induction fields with
  | nil => rfl
  | cons field rest ih =>
      obtain ⟨other, old⟩ := field
      rw [List.map_cons, Prod.map_apply, id_eq, setField, setField, ih]
      split <;> rfl

/-- Values may be changed before or after fields of the same name are merged. -/
theorem distinctFields_map (fields : List (Text × α)) :
    distinctFields (fields.map (Prod.map id f)) = (distinctFields fields).map (Prod.map id f) := by
  induction fields using List.reverseRecOn with
  | nil => rfl
  | append_singleton fields field ih =>
      rw [List.map_append, List.map_singleton, distinctFields_concat, distinctFields_concat, ih]
      exact setField_map f _ _ _

/-- Values may be changed before or after one of them is looked up. -/
theorem fieldOf?_map (fields : List (Text × α)) (name : Text) :
    fieldOf? (fields.map (Prod.map id f)) name = (fieldOf? fields name).map f := by
  induction fields with
  | nil => rfl
  | cons field rest ih =>
      obtain ⟨other, value⟩ := field
      rw [List.map_cons, Prod.map_apply, id_eq, fieldOf?_cons, fieldOf?_cons, ih]
      split <;> rfl

end Map

end ContentQuery
