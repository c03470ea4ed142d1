import ContentQuery.Payload
import ContentQuery.Proofs.Steps

/-!
# ContentQuery.Proofs.StandsFor

The JSON value that a payload stands for. The two are built alike, so one induction over both gives
what is known of the value: it holds no NaN, it is nested as deep as the payload, and it is what is
written for the payload.
-/

namespace ContentQuery.Payload

/-! ## Induction -/

/-- The cases of an induction over a payload and the JSON value that it stands for. -/
structure Cases (motive : Payload → Json → Prop) : Prop where
  /-- A JSON value. -/
  json : ∀ value : Json, value.hasNaN = false → motive (.json value) value
  /-- A list and an array whose items have the property one by one. -/
  list : ∀ items values, List.Forall₂ motive items values → motive (.list items) (.array values)
  /-- A list of fixed length and an array. -/
  tuple : ∀ items values, List.Forall₂ motive items values → motive (.tuple items) (.array values)
  /-- A mapping and an object with the same names whose values have the property one by one. -/
  mapping : ∀ fields values,
    List.Forall₂ (fun field value => field.1 = .text value.1 ∧ motive field.2 value.2)
      fields values → motive (.mapping fields) (.object values)

variable {motive : Payload → Json → Prop}

mutual

/-- Induction over a payload and the value that it stands for. -/
theorem Cases.toJson? (cases : Cases motive) :
    (payload : Payload) → {value : Json} → payload.toJson? = some value → motive payload value
  | .json value, _, h => by
      rw [Payload.toJson?] at h
      split at h
      · contradiction
      · next hnan =>
          rw [← Option.some.inj h]
          exact cases.json value (Bool.eq_false_iff.mpr hnan)
  | .list items, _, h => by
      obtain ⟨values, hvalues, rfl⟩ := Option.map_eq_some_iff.mp h
      exact cases.list items values (cases.itemsToJson? items hvalues)
  | .tuple items, _, h => by
      obtain ⟨values, hvalues, rfl⟩ := Option.map_eq_some_iff.mp h
      exact cases.tuple items values (cases.itemsToJson? items hvalues)
  | .mapping fields, _, h => by
      obtain ⟨values, hvalues, rfl⟩ := Option.map_eq_some_iff.mp h
      exact cases.mapping fields values (cases.fieldsToJson? fields hvalues)
  | .octets _, _, h => by contradiction
  | .set _, _, h => by contradiction
  | .loop _, _, h => by contradiction

/-- The property for items and their values. -/
theorem Cases.itemsToJson? (cases : Cases motive) :
    (items : List Payload) → {values : List Json} → Payload.itemsToJson? items = some values →
      List.Forall₂ motive items values
  | [], _, h => by
      rw [← Option.some.inj h]
      exact .nil
  | item :: rest, _, h => by
      obtain ⟨value, hvalue, h⟩ := Option.bind_eq_some_iff.mp h
      obtain ⟨values, hvalues, h⟩ := Option.bind_eq_some_iff.mp h
      obtain rfl := Option.some.inj h
      exact .cons (cases.toJson? item hvalue) (cases.itemsToJson? rest hvalues)

/-- The property for fields and their values, which have the same names. -/
theorem Cases.fieldsToJson? (cases : Cases motive) :
    (fields : List (Key × Payload)) → {values : List (Text × Json)} →
      Payload.fieldsToJson? fields = some values →
      List.Forall₂ (fun field value => field.1 = .text value.1 ∧ motive field.2 value.2)
        fields values
  | [], _, h => by
      rw [← Option.some.inj h]
      exact .nil
  | (.text name, field) :: rest, _, h => by
      obtain ⟨value, hvalue, h⟩ := Option.bind_eq_some_iff.mp h
      obtain ⟨values, hvalues, h⟩ := Option.bind_eq_some_iff.mp h
      obtain rfl := Option.some.inj h
      exact .cons ⟨rfl, cases.toJson? field hvalue⟩ (cases.fieldsToJson? rest hvalues)
  | (.int _, _) :: _, _, h => by contradiction
  | (.null, _) :: _, _, h => by contradiction

end

/-! ## The value of a payload -/

/-- The value that a payload stands for holds no NaN. -/
theorem hasNaN_of_toJson? (payload : Payload) {value : Json} (h : payload.toJson? = some value) :
    value.hasNaN = false := by
  have hitems (items : List Payload) (values : List Json)
      (h : List.Forall₂ (fun _ value => value.hasNaN = false) items values) :
      Json.itemsHaveNaN values = false := by
    induction h with
    | nil => rfl
    | cons hvalue _ ih =>
        rw [Json.itemsHaveNaN, hvalue, ih]
        rfl
  have cases : Cases fun _ value => value.hasNaN = false := {
    json := fun _ hnan => hnan
    list := hitems
    tuple := hitems
    mapping := by
      intro fields values h
      change Json.fieldsHaveNaN values = false
      induction h with
      | nil => rfl
      | cons hvalue _ ih =>
          rw [Json.fieldsHaveNaN, hvalue.2, ih]
          rfl }
  exact cases.toJson? payload h

/-- The value that a payload stands for is nested as deep as the payload. -/
theorem depth_of_toJson? (payload : Payload) {value : Json} (h : payload.toJson? = some value) :
    value.depth = payload.depth := by
  have hitems (items : List Payload) (values : List Json)
      (h : List.Forall₂ (fun payload value => value.depth = payload.depth) items values) :
      Json.itemsDepth values + 1 = itemsDepth items + 1 := by
    congr 1
    induction h with
    | nil => rfl
    | cons hvalue _ ih => rw [Json.itemsDepth, itemsDepth, hvalue, ih]
  have cases : Cases fun payload value => value.depth = payload.depth := {
    json := fun _ _ => rfl
    list := hitems
    tuple := hitems
    mapping := by
      intro fields values h
      change Json.fieldsDepth values + 1 = fieldsDepth fields + 1
      congr 1
      induction h with
      | nil => rfl
      | cons hvalue _ ih => rw [Json.fieldsDepth, fieldsDepth, hvalue.2, ih] }
  exact cases.toJson? payload h

/-- The value that a payload stands for is what is written for it. -/
theorem written_of_toJson? (payload : Payload) {value : Json} (h : payload.toJson? = some value) :
    payload.written = .ok value := by
  have hitems (items : List Payload) (values : List Json)
      (h : List.Forall₂ (fun payload value => payload.written = .ok value) items values) :
      (do return Json.array (← itemsWritten items)) = Except.ok (.array values) := by
    refine bind_eq_ok_iff.mpr ⟨values, ?_, rfl⟩
    induction h with
    | nil => rfl
    | cons hvalue _ ih => exact bind_eq_ok_iff.mpr ⟨_, hvalue, bind_eq_ok_iff.mpr ⟨_, ih, rfl⟩⟩
  have cases : Cases fun payload value => payload.written = .ok value := {
    json := fun _ _ => rfl
    list := hitems
    tuple := hitems
    mapping := by
      intro fields values h
      refine bind_eq_ok_iff.mpr ⟨values, ?_, rfl⟩
      induction h with
      | nil => rfl
      | @cons field value _ _ hfield _ ih =>
          obtain ⟨key, field⟩ := field
          obtain ⟨rfl, hvalue⟩ := hfield
          exact bind_eq_ok_iff.mpr ⟨_, hvalue, bind_eq_ok_iff.mpr ⟨_, ih, rfl⟩⟩ }
  exact cases.toJson? payload h

end ContentQuery.Payload
