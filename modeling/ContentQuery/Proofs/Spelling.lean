import ContentQuery.Path
import ContentQuery.Proofs.JsonNumeral

/-!
# ContentQuery.Proofs.Spelling

JSON text with its numerals as they are written. Reading a text is reading what it spells and
converting the numerals, so that it can be said which numeral stands at a path.
-/

namespace ContentQuery.Json

/-! ## Spellings -/

/-- What a JSON text spells: a value with its numerals as they are written. -/
inductive Spelling where
  | null
  | bool (value : Bool)
  | number (numeral : Numeral)
  | string (value : Text)
  | array (items : List Spelling)
  | object (fields : List (Text × Spelling))

namespace Spelling

mutual

/-- The value that is spelled, all numerals being converted. -/
def value : Spelling → Json
  | null => .null
  | bool value => .bool value
  | number numeral => numeral.value
  | string value => .string value
  | array items => .array (itemsValue items)
  | object fields => .object (fieldsValue fields)

/-- The values of items. -/
def itemsValue : List Spelling → List Json
  | [] => []
  | item :: rest => value item :: itemsValue rest

/-- The names and values of fields. -/
def fieldsValue : List (Text × Spelling) → List (Text × Json)
  | [] => []
  | (name, field) :: rest => (name, value field) :: fieldsValue rest

end

theorem itemsValue_eq_map (items : List Spelling) : itemsValue items = items.map value := by
  induction items with
  | nil => rfl
  | cons item rest ih => rw [itemsValue, ih, List.map_cons]

theorem fieldsValue_eq_map (fields : List (Text × Spelling)) :
    fieldsValue fields = fields.map (Prod.map id value) := by
  induction fields with
  | nil => rfl
  | cons field rest ih =>
      rw [fieldsValue, ih, List.map_cons]
      rfl

/-! ## Reading spellings -/

/-- The values that are written as a name, each with its name. -/
def names : List (Text × Spelling) :=
  [("null", null), ("true", bool true), ("false", bool false)]

/-- Reads what is neither an array nor an object. -/
def readScalar : Read Spelling := fun s =>
  match s with
  | [] => .error .malformed
  | c :: rest =>
    if c = '"' then (readString rest).map (Prod.map string id)
    else match names.find? fun name => name.1.isPrefixOf s with
      | some (name, spelling) => .ok (spelling, s.drop name.length)
      | none => (readNumeral s).map (Prod.map number id)

/-- Reads with at most `depth` arrays and objects around each other. -/
def readValue : (depth : Nat) → Read Spelling
  | 0, s =>
    match s with
    | c :: _ => if c = '[' || c = '{' then .error .tooDeep else readScalar s
    | [] => .error .malformed
  | depth + 1, s =>
    match s with
    | c :: rest =>
      if c = '[' then (readEnclosed (readValue depth) ']' rest).map (Prod.map array id)
      else if c = '{' then
        (readEnclosed (readField (readValue depth)) '}' rest).map fun (fields, rest) =>
          (object (distinctFields fields), rest)
      else readScalar s
    | [] => .error .malformed

/-- Reads what a whole text spells, with room for a number of arrays and objects around each
other. -/
def read (room : Nat) (s : Text) : Except ReadError Spelling := do
  let (spelling, rest) ← readValue room (skipSpace s)
  match skipSpace rest with
  | [] => .ok spelling
  | _ :: _ => .error .malformed

end Spelling

/-! ## Converting what is read -/

section Convert

variable {α β : Type}

/-- A step of reading whose results are converted. -/
def convert (f : α → β) (item : Read α) : Read β := fun s => (item s).map (Prod.map f id)

theorem convert_of_error {f : α → β} {item : Read α} {s : Text} {e : ReadError}
    (h : item s = .error e) : convert f item s = .error e := by
  rw [convert, h]
  rfl

/-- Where something is read, what it is converted to is read. -/
theorem convert_of_ok {f : α → β} {item : Read α} {s rest : Text} {a : α}
    (h : item s = .ok (a, rest)) : convert f item s = .ok (f a, rest) := by
  rw [convert, h]
  rfl

/-- Items are converted one by one or all together. -/
theorem readItems_convert (f : α → β) (item : Read α) (close : CodePoint) (limit : Nat) :
    readItems (convert f item) close limit = convert (List.map f) (readItems item close limit) := by
  induction limit with
  | zero => rfl
  | succ limit ih =>
      funext s
      cases hitem : item s with
      | error e =>
          rw [convert, readItems, readItems, convert_of_error hitem, hitem]
          rfl
      | ok found =>
          obtain ⟨a, rest⟩ := found
          rw [convert, readItems, readItems, convert_of_ok hitem, hitem, ih]
          simp only [bind, Except.bind]
          cases skipSpace rest with
          | nil => rfl
          | cons c later =>
              simp only
              split
              · rfl
              · split
                · rw [convert]
                  cases readItems item close limit (skipSpace later) <;> rfl
                · rfl

/-- Items between two marks are converted one by one or all together. -/
theorem readEnclosed_convert (f : α → β) (item : Read α) (close : CodePoint) :
    readEnclosed (convert f item) close = convert (List.map f) (readEnclosed item close) := by
  funext s
  rw [convert, readEnclosed, readEnclosed]
  split
  · rfl
  · split
    · rfl
    · exact congrFun (readItems_convert f item close _) _

/-- A field is converted in its value. -/
theorem readField_convert (f : α → β) (item : Read α) :
    readField (convert f item) = convert (Prod.map id f) (readField item) := by
  funext s
  cases s with
  | nil => rfl
  | cons c rest =>
      rw [convert, readField, readField]
      split
      · cases readString rest with
        | error e => rfl
        | ok found =>
            simp only [bind, Except.bind]
            cases skipSpace found.2 with
            | nil => rfl
            | cons d later =>
                simp only
                split
                · rw [convert]
                  cases item (skipSpace later) <;> rfl
                · rfl
      · rfl

end Convert

/-- The values that have names are those that the spellings with these names have. -/
theorem find?_names (s : Text) :
    (names .content).find? (fun name => name.1.isPrefixOf s) =
      (Spelling.names.find? fun name => name.1.isPrefixOf s).map (Prod.map id Spelling.value) := by
  have hnames : names .content = Spelling.names.map (Prod.map id Spelling.value) := rfl
  rw [hnames, List.find?_map]
  rfl

/-- A value that is no array and no object is that of its spelling. -/
theorem readScalar_eq_convert :
    readScalar .content = convert Spelling.value Spelling.readScalar := by
  funext s
  cases s with
  | nil => rfl
  | cons c rest =>
      rw [convert, readScalar, Spelling.readScalar]
      split
      · cases readString rest <;> rfl
      · rw [find?_names]
        cases Spelling.names.find? fun name => name.1.isPrefixOf (c :: rest) with
        | some found => rfl
        | none =>
            simp only [Option.map_none, readNumber_eq_map]
            cases readNumeral (c :: rest) <;> rfl

/-- A value is that of its spelling. -/
theorem readValue_eq_convert (depth : Nat) :
    readValue .content depth = convert Spelling.value (Spelling.readValue depth) := by
  induction depth with
  | zero =>
      funext s
      cases s with
      | nil => rfl
      | cons c rest =>
          rw [convert, readValue, Spelling.readValue]
          split
          · rfl
          · exact congrFun readScalar_eq_convert _
  | succ depth ih =>
      funext s
      cases s with
      | nil => rfl
      | cons c rest =>
          rw [convert, readValue, Spelling.readValue, ih, readField_convert, readEnclosed_convert,
            readEnclosed_convert]
          split
          · rw [convert]
            cases readEnclosed (Spelling.readValue depth) ']' rest with
            | error e => rfl
            | ok found =>
                simp only [Except.map, Prod.map, Spelling.value, Spelling.itemsValue_eq_map]
                rfl
          · split
            · rw [convert]
              cases readEnclosed (readField (Spelling.readValue depth)) '}' rest with
              | error e => rfl
              | ok found =>
                  simp only [Except.map, Prod.map, Spelling.value, Spelling.fieldsValue_eq_map,
                    distinctFields_map]
            · exact congrFun readScalar_eq_convert _

/-- Reading a text is reading what it spells and converting the numerals. -/
theorem read_eq_map_value (room : Nat) (s : Text) :
    read .content room s = (Spelling.read room s).map Spelling.value := by
  rw [read, Spelling.read, readValue_eq_convert, convert]
  cases Spelling.readValue room (skipSpace s) with
  | error e => rfl
  | ok found =>
      simp only [Except.map, bind, Except.bind, Prod.map, id_eq]
      cases skipSpace found.2 <;> rfl

/-! ## Where numerals stand -/

namespace Spelling

mutual

/-- Whether every numeral of a spelling stands somewhere in a text. -/
def IsWrittenIn (s : Text) : Spelling → Prop
  | null => True
  | bool _ => True
  | number numeral => numeral.text <:+: s
  | string _ => True
  | array items => ItemsWrittenIn s items
  | object fields => FieldsWrittenIn s fields

/-- Whether every numeral of all items stands in a text. -/
def ItemsWrittenIn (s : Text) : List Spelling → Prop
  | [] => True
  | item :: rest => IsWrittenIn s item ∧ ItemsWrittenIn s rest

/-- Whether every numeral of all fields stands in a text. -/
def FieldsWrittenIn (s : Text) : List (Text × Spelling) → Prop
  | [] => True
  | (_, field) :: rest => IsWrittenIn s field ∧ FieldsWrittenIn s rest

end

variable {s : Text}

/-- Items are spelled in a text exactly if each of them is. -/
theorem itemsWrittenIn_iff {items : List Spelling} :
    ItemsWrittenIn s items ↔ ∀ item ∈ items, item.IsWrittenIn s := by
  induction items with
  | nil => simp [ItemsWrittenIn]
  | cons item rest ih => simp [ItemsWrittenIn, ih]

/-- Fields are spelled in a text exactly if each value is. -/
theorem fieldsWrittenIn_iff {fields : List (Text × Spelling)} :
    FieldsWrittenIn s fields ↔ ∀ field ∈ fields, field.2.IsWrittenIn s := by
  induction fields with
  | nil => simp [FieldsWrittenIn]
  | cons field rest ih => simp [FieldsWrittenIn, ih]

theorem isKept_suffix (s : Text) : IsKept (· <:+ s) := fun _ _ hlater hrest => hrest.trans hlater

/-- A numeral that is read from an end of a text stands in this text. -/
theorem readNumeral_yields (s : Text) :
    Yields (· <:+ s) readNumeral fun numeral => numeral.text <:+: s := by
  intro later numeral rest hlater h
  have htext := readNumeral_eq_ok h
  have hprefix : numeral.text <+: later := ⟨rest, htext⟩
  exact ⟨⟨numeral.text, htext⟩, hprefix.isInfix.trans hlater.isInfix⟩

/-- A value that has a name has no numeral that would have to be written. -/
theorem isWrittenIn_of_mem_names {name : Text} {spelling : Spelling}
    (h : (name, spelling) ∈ names) :
    spelling.IsWrittenIn s := by
  simp only [names, List.mem_cons, List.not_mem_nil, or_false, Prod.mk.injEq] at h
  rcases h with ⟨-, rfl⟩ | ⟨-, rfl⟩ | ⟨-, rfl⟩ <;> trivial

/-- A spelling that is no array and no object is written in the text that it is read from. -/
theorem readScalar_yields (s : Text) : Yields (· <:+ s) readScalar (IsWrittenIn s) := by
  intro later spelling rest hlater h
  cases later with
  | nil => contradiction
  | cons c later =>
      rw [readScalar] at h
      split at h
      · obtain ⟨⟨text, rest'⟩, hstring, heq⟩ := map_eq_ok_iff.mp h
        obtain ⟨rfl, rfl⟩ := Prod.mk.inj heq
        exact ⟨(readString_suffix hstring).trans (List.suffix_cons c later), trivial⟩
      · split at h
        · next name spelling' hfind =>
            obtain ⟨rfl, rfl⟩ := Prod.mk.inj (Except.ok.inj h)
            exact ⟨List.drop_suffix _ _, isWrittenIn_of_mem_names (List.mem_of_find?_eq_some hfind)⟩
        · obtain ⟨⟨numeral, rest'⟩, hnumeral, heq⟩ := map_eq_ok_iff.mp h
          obtain ⟨rfl, rfl⟩ := Prod.mk.inj heq
          exact readNumeral_yields s _ numeral rest' hlater hnumeral

/-- A spelling is written in the text that it is read from. -/
theorem readValue_yields (s : Text) (depth : Nat) :
    Yields (· <:+ s) (readValue depth) (IsWrittenIn s) := by
  have hstring : Yields (· <:+ s) readString fun _ => True :=
    fun _ _ _ _ h => ⟨readString_suffix h, trivial⟩
  induction depth with
  | zero =>
      intro later spelling rest hlater h
      cases later with
      | nil => contradiction
      | cons c later =>
          rw [readValue] at h
          split at h
          · contradiction
          · exact readScalar_yields s _ spelling rest hlater h
  | succ depth ih =>
      intro later spelling rest hlater h
      cases later with
      | nil => contradiction
      | cons c later =>
          have hsuffix := List.suffix_cons c later
          rw [readValue] at h
          split at h
          · obtain ⟨⟨items, rest'⟩, hitems, heq⟩ := map_eq_ok_iff.mp h
            obtain ⟨rfl, rfl⟩ := Prod.mk.inj heq
            obtain ⟨hrest, hall⟩ := (readEnclosed_yields (isKept_suffix s) ih ']').of_suffix
              (isKept_suffix s) hlater hsuffix hitems
            exact ⟨hrest, itemsWrittenIn_iff.mpr hall⟩
          · split at h
            · obtain ⟨⟨fields, rest'⟩, hfields, heq⟩ := map_eq_ok_iff.mp h
              obtain ⟨rfl, rfl⟩ := Prod.mk.inj heq
              obtain ⟨hrest, hall⟩ := (readEnclosed_yields (isKept_suffix s)
                (readField_yields (isKept_suffix s) hstring ih) '}').of_suffix
                (isKept_suffix s) hlater hsuffix hfields
              refine ⟨hrest, fieldsWrittenIn_iff.mpr fun field hfield => ?_⟩
              exact (hall field (mem_of_mem_distinctFields hfield)).2
            · exact readScalar_yields s _ spelling rest hlater h

/-- Every numeral that a text spells stands in the text. -/
theorem isWrittenIn_of_read {room : Nat} {spelling : Spelling} (h : read room s = .ok spelling) :
    spelling.IsWrittenIn s := by
  rw [read, bind_eq_ok_iff] at h
  obtain ⟨⟨found, rest⟩, hvalue, h⟩ := h
  have hwritten := (readValue_yields s room _ found rest (skipSpace_suffix s) hvalue).2
  simp only at h
  split at h
  · rwa [← Except.ok.inj h]
  · contradiction

/-! ## Parts of a spelling -/

/-- The part one component below. The length of an array is not spelled anywhere. -/
def child? (spelling : Spelling) (component : Text) : Option Spelling :=
  match spelling with
  | object fields => fieldOf? fields component
  | array items =>
    if Decimal.isDigits component && component.length ≤ Path.maxIndexDigits then
      items[Text.digitsValue component]?
    else none
  | _ => none

/-- The part that components lead to, one after the other. -/
def follow? (spelling : Spelling) : List Text → Option Spelling
  | [] => some spelling
  | component :: rest => do
    let part ← spelling.child? component
    part.follow? rest

/-- The part that a path leads to. -/
def at? (spelling : Spelling) (path : Text) : Option Spelling :=
  if path = [] then some spelling else spelling.follow? (Path.components path)

/-- A component leads to the same place in a spelling and in its value. -/
theorem child?_value {spelling part : Spelling} {component : Text}
    (h : spelling.child? component = some part) :
    Path.child? spelling.value component = .ok (some part.value) := by
  cases spelling with
  | object fields =>
      rw [value, fieldsValue_eq_map, Path.child?, fieldOf?_map]
      rw [child?] at h
      rw [h]
      rfl
  | array items =>
      rw [child?] at h
      split at h
      · next hindex =>
          rw [Bool.and_eq_true, decide_eq_true_eq] at hindex
          have hsign : component ≠ Path.lengthSign := by
            rintro rfl
            exact absurd hindex.1 (by decide)
          rw [value, itemsValue_eq_map, Path.child?, Path.item?, if_neg hsign, if_pos hindex.1,
            if_pos hindex.2, List.getElem?_map, h]
          rfl
      · contradiction
  | _ => contradiction

/-- Components lead to the same place in a spelling and in its value. -/
theorem follow?_value {spelling part : Spelling} {components : List Text}
    (h : spelling.follow? components = some part) :
    Path.follow? spelling.value components = .ok (some part.value) := by
  induction components generalizing spelling with
  | nil =>
      obtain rfl := Option.some.inj h
      rfl
  | cons component rest ih =>
      obtain ⟨child, hchild, hrest⟩ := Option.bind_eq_some_iff.mp h
      rw [Path.follow?, child?_value hchild]
      exact ih hrest

/-- What a component leads to is written in the text. -/
theorem IsWrittenIn.child? {s : Text} {spelling part : Spelling} {component : Text}
    (hspelling : spelling.IsWrittenIn s) (h : spelling.child? component = some part) :
    part.IsWrittenIn s := by
  cases spelling with
  | object fields =>
      exact fieldsWrittenIn_iff.mp hspelling _ (mem_of_fieldOf?_eq_some h)
  | array items =>
      rw [Spelling.child?] at h
      split at h
      · exact itemsWrittenIn_iff.mp hspelling _ (List.mem_of_getElem? h)
      · contradiction
  | _ => contradiction

/-- What components lead to is written in the text. -/
theorem IsWrittenIn.follow? {s : Text} {spelling part : Spelling} {components : List Text}
    (hspelling : spelling.IsWrittenIn s) (h : spelling.follow? components = some part) :
    part.IsWrittenIn s := by
  induction components generalizing spelling with
  | nil => exact Option.some.inj h ▸ hspelling
  | cons component rest ih =>
      obtain ⟨child, hchild, hrest⟩ := Option.bind_eq_some_iff.mp h
      exact ih (hspelling.child? hchild) hrest

/-- The numeral that a path leads to stands in the text. -/
theorem infix_of_at? {room : Nat} {s : Text} {spelling : Spelling} {path : Text} {numeral : Numeral}
    (hread : read room s = .ok spelling) (h : spelling.at? path = some (number numeral)) :
    numeral.text <:+: s := by
  have hwritten := isWrittenIn_of_read hread
  rw [at?] at h
  split at h
  · rw [Option.some.inj h] at hwritten
    exact hwritten
  · exact hwritten.follow? h

/-- Where a path leads to in what a text spells, it leads to in the value. -/
theorem resolve?_value {spelling part : Spelling} {path : Text}
    (h : spelling.at? path = some part) :
    Path.resolve? spelling.value path = .ok (some part.value) := by
  rw [at?] at h
  rw [Path.resolve?]
  split at h
  · next hempty =>
      rw [if_pos hempty, Option.some.inj h]
  · next hpath =>
      rw [if_neg hpath]
      exact follow?_value h

end Spelling

end ContentQuery.Json
