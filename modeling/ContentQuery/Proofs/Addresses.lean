import ContentQuery.Proofs.Breakdown
import ContentQuery.Proofs.Digits
import ContentQuery.Proofs.ProperValues

/-!
# ContentQuery.Proofs.Addresses

Paths as addresses. A node of a value is what steps into fields and to items lead to, whatever they
are written as. Each node has a path, which is resolved to it: the names of fields with a backslash
before every point and backslash, and the indices of items in decimal, with points between them. And
whatever a path is resolved to is the node that its components denote, or the length of an array;
the only paths that are neither resolved nor found to lead nowhere are those that ask an array for
an item at an index of too many digits.
-/

namespace ContentQuery

/-! ## Nodes -/

namespace Json

/-- A step from a value to one inside it. -/
inductive Step where
  | field (name : Text)
  | item (index : Nat)
  deriving DecidableEq

/-- What a step leads to. -/
def step? : Json → Step → Option Json
  | object fields, .field name => fieldOf? fields name
  | array items, .item index => items[index]?
  | _, _ => none

/-- The node that steps lead to, one after the other. -/
def node? (root : Json) : List Step → Option Json
  | [] => some root
  | step :: steps => (root.step? step).bind fun child => child.node? steps

theorem node?_cons_eq_some_iff {root node : Json} {step : Step} {steps : List Step} :
    root.node? (step :: steps) = some node ↔
      ∃ child, root.step? step = some child ∧ child.node? steps = some node := by
  rw [node?, Option.bind_eq_some_iff]

end Json

namespace Path

open Json (Step)

/-! ## Written paths -/

/-- A character of a name as it stands in a path. -/
def escape (c : CodePoint) : Text := if c = '\\' || c = '.' then ['\\', c] else [c]

/-- The name of a field as it stands in a path. -/
def escaped (name : Text) : Text := name.flatMap escape

/-- The component that a step is looked up by. -/
def componentOf : Step → Text
  | .field name => name
  | .item index => Text.ofNat index

/-- A step as it stands in a path. -/
def stepText : Step → Text
  | .field name => escaped name
  | .item index => Text.ofNat index

/-- The path of the node that steps lead to. -/
def written (steps : List Step) : Text := Text.joinWith ['.'] (steps.map stepText)

@[simp] theorem components_escape_append (c : CodePoint) (rest : Text) :
    components (escape c ++ rest) = consFirst c (components rest) := by
  by_cases hmark : (c = '\\' || c = '.') = true
  · rw [escape, if_pos hmark, List.cons_append, List.singleton_append, components.eq_def]
    rfl
  · have hne : c ≠ '\\' ∧ c ≠ '.' := by simpa using hmark
    rw [escape, if_neg hmark, List.singleton_append, components.eq_def]
    simp only [if_neg hne.1, if_neg hne.2]

/-- A written name is one component. -/
theorem components_escaped (name : Text) : components (escaped name) = [name] := by
  induction name with
  | nil => rfl
  | cons c name ih =>
      rw [escaped, List.flatMap_cons, components_escape_append, ← escaped, ih, consFirst]

/-- A point behind a written name ends the component. -/
theorem components_escaped_append (name rest : Text) :
    components (escaped name ++ ('.' : CodePoint) :: rest) = name :: components rest := by
  induction name with
  | nil =>
      rw [escaped, List.flatMap_nil, List.nil_append, components.eq_def]
      rfl
  | cons c name ih =>
      rw [escaped, List.flatMap_cons, ← escaped, List.append_assoc, components_escape_append, ih,
        consFirst]

/-- Cutting a path undoes joining written names. -/
theorem components_joinWith {names : List Text} (hne : names ≠ []) :
    components (Text.joinWith ['.'] (names.map escaped)) = names := by
  induction names with
  | nil => contradiction
  | cons name names ih =>
      cases names with
      | nil => exact components_escaped name
      | cons next names =>
          rw [List.map_cons, List.map_cons, Text.joinWith, ← List.map_cons, List.append_assoc,
            List.singleton_append, components_escaped_append, ih (List.cons_ne_nil _ _)]

theorem escaped_eq_self {s : Text} (h : ∀ c ∈ s, c ≠ '\\' ∧ c ≠ '.') : escaped s = s := by
  induction s with
  | nil => rfl
  | cons c s ih =>
      obtain ⟨hc, hs⟩ := List.forall_mem_cons.mp h
      rw [escaped, List.flatMap_cons, ← escaped, ih hs]
      simp [escape, hc]

/-- A step is written as the component that it is looked up by. -/
theorem stepText_eq (step : Step) : stepText step = escaped (componentOf step) := by
  cases step with
  | field name => rfl
  | item index =>
      symm
      apply escaped_eq_self
      intro c hc
      have hdigit := Text.isDigit_of_mem_ofNat hc
      constructor <;> rintro rfl <;> contradiction

theorem components_written {steps : List Step} (hne : steps ≠ []) :
    components (written steps) = steps.map componentOf := by
  have htexts : steps.map stepText = (steps.map componentOf).map escaped := by
    rw [List.map_map]
    exact List.map_congr_left fun step _ => stepText_eq step
  rw [written, htexts, components_joinWith (by simpa using hne)]

/-! ## From nodes to values -/

/-- Whether the index of a step has no more digits than are converted. -/
def IsShort : Step → Prop
  | .field _ => True
  | .item index => (Text.ofNat index).length ≤ maxIndexDigits

theorem isDigits_ofNat (n : Nat) : Decimal.isDigits (Text.ofNat n) = true := by
  rw [Decimal.isDigits, Bool.and_eq_true, List.all_eq_true]
  exact ⟨by simp [Text.ofNat_ne_nil], fun c hc => Text.isDigit_of_mem_ofNat hc⟩

theorem ofNat_ne_lengthSign (n : Nat) : Text.ofNat n ≠ lengthSign := by
  intro heq
  have hdigits := isDigits_ofNat n
  rw [heq] at hdigits
  contradiction

theorem item?_ofNat (items : List Json) {index : Nat} (h : IsShort (.item index)) :
    item? items (Text.ofNat index) = .ok items[index]? := by
  have hlength : (Text.ofNat index).length ≤ maxIndexDigits := h
  rw [item?, if_neg (ofNat_ne_lengthSign index), if_pos (isDigits_ofNat index), if_pos hlength,
    Text.digitsValue_ofNat]

/-- What a step leads to is found by the component of the step. -/
theorem child?_componentOf {value child : Json} {step : Step} (hshort : IsShort step)
    (h : value.step? step = some child) : child? value (componentOf step) = .ok (some child) := by
  cases value with
  | object fields =>
      cases step with
      | field name => exact congrArg Except.ok h
      | item index => contradiction
  | array items =>
      cases step with
      | field name => contradiction
      | item index => exact (item?_ofNat items hshort).trans (congrArg Except.ok h)
  | _ => contradiction

/-- Every node is found by the components of the steps that lead to it. -/
theorem follow?_componentOf {root node : Json} {steps : List Step}
    (hshort : ∀ step ∈ steps, IsShort step) (h : root.node? steps = some node) :
    follow? root (steps.map componentOf) = .ok (some node) := by
  induction steps generalizing root with
  | nil => exact congrArg Except.ok h
  | cons step steps ih =>
      obtain ⟨hfirst, hrest⟩ := List.forall_mem_cons.mp hshort
      obtain ⟨child, hchild, hnode⟩ := Json.node?_cons_eq_some_iff.mp h
      rw [List.map_cons, follow?_cons, child?_componentOf hfirst hchild]
      exact ih hrest hnode

/-! ## From values to nodes -/

/-- The steps that a component can denote: to the field of this name, and to an item if the
component is a run of digits. -/
inductive Denotes : Text → Step → Prop
  | field (name : Text) : Denotes name (.field name)
  | item {component : Text} : Decimal.isDigits component = true →
      Denotes component (.item (Text.digitsValue component))

/-- What components lead to, told from the nodes alone: to a node, or, if the last of them is the
sign for it, to the length of an array. -/
inductive LeadTo (root : Json) (components : List Text) : Json → Prop
  | node {steps : List Step} {node : Json} : List.Forall₂ Denotes components steps →
      root.node? steps = some node → LeadTo root components node
  | length {before : List Text} {steps : List Step} {items : List Json} :
      components = before ++ [lengthSign] → List.Forall₂ Denotes before steps →
      root.node? steps = some (.array items) → LeadTo root components (.int items.length)

/-- Whether components lead to an array and go on with an index of too many digits. -/
def AskOverlong (root : Json) (components : List Text) : Prop :=
  ∃ before component after steps items, components = before ++ component :: after ∧
    List.Forall₂ Denotes before steps ∧ root.node? steps = some (.array items) ∧
    IsOverlong component

/-! ### One component at a time -/

theorem leadTo_nil_iff {root value : Json} : LeadTo root [] value ↔ value = root := by
  constructor
  · intro h
    cases h with
    | node hsteps hnode =>
        cases hsteps
        exact (Option.some.inj hnode).symm
    | length hlast => simp at hlast
  · rintro rfl
    exact .node .nil rfl

/-- The child that a component denotes, whatever its length. -/
def childAt? : Json → Text → Option Json
  | .object fields, component => fieldOf? fields component
  | .array items, component =>
    if Decimal.isDigits component then items[Text.digitsValue component]? else none
  | _, _ => none

theorem childAt?_eq_some_iff {root child : Json} {component : Text} :
    childAt? root component = some child ↔
      ∃ step, Denotes component step ∧ root.step? step = some child := by
  constructor
  · intro h
    cases root with
    | object fields => exact ⟨_, .field component, h⟩
    | array items =>
        rw [childAt?] at h
        split at h
        · next hdigits => exact ⟨_, .item hdigits, h⟩
        · contradiction
    | _ => contradiction
  · rintro ⟨step, hdenotes, hstep⟩
    cases hdenotes with
    | field =>
        cases root with
        | object fields => exact hstep
        | _ => contradiction
    | item hdigits =>
        cases root with
        | array items => exact (if_pos hdigits).trans hstep
        | _ => contradiction

theorem leadTo_cons_iff {root value : Json} {component : Text} {rest : List Text} :
    LeadTo root (component :: rest) value ↔
      (∃ child, childAt? root component = some child ∧ LeadTo child rest value) ∨
      (component = lengthSign ∧ rest = [] ∧
        ∃ items, root = .array items ∧ value = .int items.length) := by
  constructor
  · intro h
    cases h with
    | node hsteps hnode =>
        cases hsteps with
        | @cons _ step _ steps hdenotes hsteps =>
            obtain ⟨child, hchild, hnode⟩ := Json.node?_cons_eq_some_iff.mp hnode
            exact .inl ⟨child, childAt?_eq_some_iff.mpr ⟨step, hdenotes, hchild⟩,
              .node hsteps hnode⟩
    | @length before steps items hlast hsteps hnode =>
        cases hsteps with
        | nil =>
            obtain ⟨rfl, rfl⟩ := List.cons.inj hlast
            exact .inr ⟨rfl, rfl, items, Option.some.inj hnode, rfl⟩
        | @cons first step before steps hdenotes hsteps =>
            obtain ⟨rfl, rfl⟩ := List.cons.inj hlast
            obtain ⟨child, hchild, hnode⟩ := Json.node?_cons_eq_some_iff.mp hnode
            exact .inl ⟨child, childAt?_eq_some_iff.mpr ⟨step, hdenotes, hchild⟩,
              .length rfl hsteps hnode⟩
  · rintro (⟨child, hchild, h⟩ | ⟨rfl, rfl, items, rfl, rfl⟩)
    · obtain ⟨step, hdenotes, hstep⟩ := childAt?_eq_some_iff.mp hchild
      cases h with
      | node hsteps hnode =>
          exact .node (.cons hdenotes hsteps)
            (Json.node?_cons_eq_some_iff.mpr ⟨child, hstep, hnode⟩)
      | length hlast hsteps hnode =>
          rw [hlast]
          exact .length (List.cons_append ..).symm (.cons hdenotes hsteps)
            (Json.node?_cons_eq_some_iff.mpr ⟨child, hstep, hnode⟩)
    · exact .length (List.nil_append _).symm .nil rfl

theorem not_askOverlong_nil (root : Json) : ¬ AskOverlong root [] := by
  rintro ⟨before, component, after, steps, items, hcomponents, -⟩
  simp at hcomponents

theorem askOverlong_cons_iff {root : Json} {component : Text} {rest : List Text} :
    AskOverlong root (component :: rest) ↔
      ((∃ items, root = .array items) ∧ IsOverlong component) ∨
      ∃ child, childAt? root component = some child ∧ AskOverlong child rest := by
  constructor
  · rintro ⟨before, overlong, after, steps, items, hcomponents, hsteps, hnode, hlong⟩
    cases hsteps with
    | nil =>
        obtain ⟨rfl, rfl⟩ := List.cons.inj hcomponents
        exact .inl ⟨⟨items, Option.some.inj hnode⟩, hlong⟩
    | @cons first step before steps hdenotes hsteps =>
        obtain ⟨rfl, rfl⟩ := List.cons.inj hcomponents
        obtain ⟨child, hchild, hnode⟩ := Json.node?_cons_eq_some_iff.mp hnode
        exact .inr ⟨child, childAt?_eq_some_iff.mpr ⟨step, hdenotes, hchild⟩,
          before, overlong, after, steps, items, rfl, hsteps, hnode, hlong⟩
  · rintro (⟨⟨items, rfl⟩, hlong⟩ |
      ⟨child, hchild, before, overlong, after, steps, items, rfl, hsteps, hnode, hlong⟩)
    · exact ⟨[], component, rest, [], items, rfl, .nil, rfl, hlong⟩
    · obtain ⟨step, hdenotes, hstep⟩ := childAt?_eq_some_iff.mp hchild
      exact ⟨component :: before, overlong, after, step :: steps, items, rfl, .cons hdenotes hsteps,
        Json.node?_cons_eq_some_iff.mpr ⟨child, hstep, hnode⟩, hlong⟩

/-- What the value one component below is: the length of an array, nothing that can be told because
of an index of too many digits, or the child that the component denotes. -/
inductive Child (root : Json) (component : Text) : Except StepError (Option Json) → Prop
  | length {items : List Json} : root = .array items → component = lengthSign →
      Child root component (.ok (some (.int items.length)))
  | overlong {items : List Json} : root = .array items → IsOverlong component →
      Child root component (.error .longIndex)
  | found : (∀ items, root = .array items → component ≠ lengthSign ∧ ¬ IsOverlong component) →
      Child root component (.ok (childAt? root component))

theorem child_child? (root : Json) (component : Text) :
    Child root component (child? root component) := by
  cases root with
  | array items =>
      rw [child?, item?]
      split
      · next hsign => exact .length rfl hsign
      · next hsign =>
          have hfound (hshort : ¬ IsOverlong component) :
              Child (.array items) component (.ok (childAt? (.array items) component)) :=
            .found fun _ _ => ⟨hsign, hshort⟩
          split
          · next hdigits =>
              split
              · next hlength =>
                  rw [childAt?, if_pos hdigits] at hfound
                  exact hfound fun hlong => absurd hlength (Nat.not_le.mpr hlong.2)
              · next hlength => exact .overlong rfl ⟨hdigits, Nat.not_le.mp hlength⟩
          · next hdigits =>
              rw [childAt?, if_neg hdigits] at hfound
              exact hfound fun hlong => absurd hlong.1 hdigits
  | _ => exact .found fun _ harray => Json.noConfusion harray

/-! ### All components -/

theorem follow?_int (n : Int) (rest : List Text) (value : Json) :
    follow? (.int n) rest = .ok (some value) ↔ rest = [] ∧ value = .int n := by
  cases rest with
  | nil => simp [follow?, eq_comm]
  | cons component rest => simp [follow?_cons, child?]

/-- Components are followed to what they lead to, unless they ask for too long an index. -/
theorem follow?_eq_some_iff {root value : Json} {components : List Text} :
    follow? root components = .ok (some value) ↔
      LeadTo root components value ∧ ¬ AskOverlong root components := by
  induction components generalizing root with
  | nil => simp [follow?, leadTo_nil_iff, not_askOverlong_nil, eq_comm]
  | cons component rest ih =>
      rw [follow?_cons, leadTo_cons_iff, askOverlong_cons_iff]
      have hchild := child_child? root component
      generalize child? root component = found at hchild
      cases hchild with
      | @length items harray hsign =>
          subst harray hsign
          have hnone : childAt? (.array items) lengthSign = none := rfl
          have hshort : ¬ IsOverlong lengthSign := fun hlong => absurd hlong.1 (by decide)
          simp [follow?_int, hnone, hshort]
      | overlong harray hlong => simp [harray, hlong]
      | found hplain =>
          have hshort : ¬ ((∃ items, root = .array items) ∧ IsOverlong component) := by
            rintro ⟨⟨items, harray⟩, hlong⟩
            exact (hplain items harray).2 hlong
          have hsign : ¬ (component = lengthSign ∧ rest = [] ∧
              ∃ items, root = .array items ∧ value = .int items.length) := by
            rintro ⟨hsign, -, items, harray, -⟩
            exact (hplain items harray).1 hsign
          simp only [hshort, hsign, or_false, false_or]
          cases childAt? root component with
          | none => simp
          | some child => simp [ih]

theorem follow?_of_askOverlong {root : Json} {components : List Text}
    (h : AskOverlong root components) : follow? root components = .error .longIndex := by
  obtain ⟨before, component, after, steps, items, hcomponents, hsteps, hnode, hlong⟩ := h
  have hshorter : before.length < components.length := by simp [hcomponents]
  rw [follow?_eq_error_iff, hcomponents]
  by_cases hearlier : AskOverlong root before
  · -- An index before this one is too long as well, and the first of them ends the search.
    obtain ⟨first, overlong, later, items, rfl, hfirst, hlong⟩ :=
      (follow?_eq_error_iff root before).mp (follow?_of_askOverlong hearlier)
    exact ⟨first, overlong, later ++ component :: after, items, List.append_assoc .., hfirst, hlong⟩
  · exact ⟨before, component, after, items, rfl,
      follow?_eq_some_iff.mpr ⟨.node hsteps hnode, hearlier⟩, hlong⟩
termination_by components.length

/-- The search for what components lead to breaks off exactly if they ask for too long an index. -/
theorem follow?_eq_longIndex_iff {root : Json} {components : List Text} :
    follow? root components = .error .longIndex ↔ AskOverlong root components := by
  refine ⟨fun h => ?_, follow?_of_askOverlong⟩
  obtain ⟨before, component, after, items, rfl, hbefore, hlong⟩ :=
    (follow?_eq_error_iff root components).mp h
  obtain ⟨hlead, -⟩ := follow?_eq_some_iff.mp hbefore
  cases hlead with
  | node hsteps hnode => exact ⟨before, component, after, _, items, rfl, hsteps, hnode, hlong⟩

/-! ## Paths -/

/-- What a path leads to, told from the nodes alone: the empty path to the value itself, any other
path to what its components lead to. -/
def Addresses (root : Json) (path : Text) (value : Json) : Prop :=
  (path = [] ∧ value = root) ∨ (path ≠ [] ∧ LeadTo root (components path) value)

/-- Whether a path leads to an array and goes on with an index of too many digits. -/
def AsksOverlong (root : Json) (path : Text) : Prop := AskOverlong root (components path)

theorem not_asksOverlong_nil (root : Json) : ¬ AsksOverlong root [] := by
  have hcomponents : components [] = [[]] := rfl
  have hshort : ¬ IsOverlong [] := fun hlong => absurd hlong.1 (by decide)
  rw [AsksOverlong, hcomponents, askOverlong_cons_iff]
  simp [hshort, not_askOverlong_nil]

theorem not_asksOverlong_of_short (root : Json) {path : Text}
    (h : ∀ component ∈ components path, component.length ≤ maxIndexDigits) :
    ¬ AsksOverlong root path := by
  rintro ⟨before, component, after, steps, items, hcomponents, -, -, hlong⟩
  have hmem : component ∈ components path := by simp [hcomponents]
  exact absurd (h component hmem) (Nat.not_le.mpr hlong.2)

theorem resolve?_eq_some_iff {root value : Json} {path : Text} :
    resolve? root path = .ok (some value) ↔
      Addresses root path value ∧ ¬ AsksOverlong root path := by
  rw [resolve?, Addresses]
  split
  · next hpath =>
      subst hpath
      simp [not_asksOverlong_nil, eq_comm]
  · next hpath => simp [hpath, follow?_eq_some_iff, AsksOverlong]

theorem resolve?_eq_longIndex_iff {root : Json} {path : Text} :
    resolve? root path = .error .longIndex ↔ AsksOverlong root path := by
  rw [resolve?]
  split
  · next hpath =>
      subst hpath
      simp [not_asksOverlong_nil]
  · exact follow?_eq_longIndex_iff

/-- A path that asks for no index of too many digits and leads to no value is found to lead
nowhere. -/
theorem resolve?_eq_none_iff {root : Json} {path : Text} :
    resolve? root path = .ok none ↔
      (∀ value, ¬ Addresses root path value) ∧ ¬ AsksOverlong root path := by
  rw [← resolve?_eq_longIndex_iff]
  constructor
  · intro hnone
    refine ⟨fun value haddress => ?_, by simp [hnone]⟩
    have hshort : ¬ AsksOverlong root path := by
      rw [← resolve?_eq_longIndex_iff]
      simp [hnone]
    have hvalue := resolve?_eq_some_iff.mpr ⟨haddress, hshort⟩
    simp [hnone] at hvalue
  · rintro ⟨hnowhere, hshort⟩
    cases hresult : resolve? root path with
    | error e =>
        cases e
        exact absurd hresult hshort
    | ok found =>
        cases found with
        | none => rfl
        | some value => exact absurd (resolve?_eq_some_iff.mp hresult).1 (hnowhere value)

/-- Every node of a value has a path, unless its only step is into the field without a name, and the
path is resolved to it. And a path is resolved to a value exactly if it leads there, the steps being
read off its components or the last component being the sign for a length, and asks for no index of
too many digits; if it asks for one, it is not resolved, and in all other cases it is found to lead
nowhere. The root is a value of JSON proper, and so is all that a path is resolved to. -/
theorem resolve_iff_addresses (root : Json) (hroot : root.hasNaN = false) :
    (∀ (steps : List Step) (node : Json), (∀ step ∈ steps, IsShort step) →
      root.node? steps = some node → written steps ≠ [] →
        resolve? root (written steps) = .ok (some node)) ∧
    ∀ path,
      (∀ value, resolve? root path = .ok (some value) ↔
        Addresses root path value ∧ ¬ AsksOverlong root path) ∧
      (∀ value, resolve? root path = .ok (some value) → value.hasNaN = false) ∧
      (resolve? root path = .ok none ↔
        (∀ value, ¬ Addresses root path value) ∧ ¬ AsksOverlong root path) ∧
      (resolve? root path = .error .longIndex ↔ AsksOverlong root path) := by
  refine ⟨fun steps node hshort hnode hpath => ?_, fun path =>
    ⟨fun _ => resolve?_eq_some_iff, fun _ => hasNaN_of_resolve? hroot, resolve?_eq_none_iff,
      resolve?_eq_longIndex_iff⟩⟩
  have hsteps : steps ≠ [] := by
    rintro rfl
    exact hpath rfl
  rw [resolve?, if_neg hpath, components_written hsteps]
  exact follow?_componentOf hshort hnode

namespace Marked

/-- Two items, of which the second holds names that look like a sign and an index. -/
def items : List Json := [.null, .object [("#", .object [("07", .string "x")])]]

/-- An object with an array of them below a name that holds the marks of paths. -/
def root : Json := .object [("a.b\\", .array items)]

/-- The steps to the text in it. -/
def steps : List Step := [.field "a.b\\", .item 1, .field "#", .field "07"]

end Marked

open Marked in
/-- The text below such names has a path, and so has the length of the array above it. -/
theorem resolve_iff_addresses_of_marked :
    root.hasNaN = false ∧ (∀ step ∈ steps, IsShort step) ∧
    root.node? steps = some (.string "x") ∧
    written steps = "a\\.b\\\\.1.#.07" ∧
    resolve? root (written steps) = .ok (some (.string "x")) ∧
    resolve? root "a\\.b\\\\.#" = .ok (some (.int 2)) := by
  obtain ⟨hnodes, hpaths⟩ := resolve_iff_addresses root rfl
  have hshort : ∀ step ∈ steps, IsShort step := by
    have hindex : (Text.ofNat 1).length ≤ maxIndexDigits := by decide
    simp [steps, IsShort, hindex]
  have hpath : Text.ofString "a\\.b\\\\.#" = written [.field "a.b\\", .field "#"] := rfl
  have hcomponents : components "a\\.b\\\\.#" = [Text.ofString "a.b\\", lengthSign] := by
    rw [hpath, components_written (List.cons_ne_nil _ _)]
    rfl
  have hlength : Addresses root "a\\.b\\\\.#" (.int 2) := by
    have hnode : root.node? [.field "a.b\\"] = some (.array items) := rfl
    refine .inr ⟨List.cons_ne_nil _ _, ?_⟩
    rw [hcomponents]
    exact .length List.singleton_append.symm (.cons (.field _) .nil) hnode
  have hoverlong : ¬ AsksOverlong root "a\\.b\\\\.#" := by
    apply not_asksOverlong_of_short
    rw [hcomponents]
    decide
  exact ⟨rfl, hshort, rfl, rfl, hnodes steps _ hshort rfl (List.cons_ne_nil _ _),
    ((hpaths _).1 _).mpr ⟨hlength, hoverlong⟩⟩

theorem exists_not_isShort : ∃ index, ¬ IsShort (.item index) := by
  refine ⟨10 ^ maxIndexDigits, fun hshort => ?_⟩
  exact Nat.lt_irrefl _ ((Text.length_ofNat_le_iff (by decide)).mp hshort)

/-- A path that leads nowhere need not be found to do so: the one to an item at an index of too many
digits is neither resolved nor found to lead nowhere, even in an array without any items. -/
theorem exists_path_without_answer :
    ¬ ∀ (root : Json) (path : Text), (∀ value, ¬ Addresses root path value) →
      resolve? root path = .ok none := by
  intro h
  obtain ⟨index, hindex⟩ := exists_not_isShort
  have hcomponents : components (written [.item index]) = [Text.ofNat index] :=
    components_written (List.cons_ne_nil _ _)
  have hasks : AsksOverlong (.array []) (written [.item index]) := by
    rw [AsksOverlong, hcomponents]
    exact ⟨[], _, [], [], [], rfl, .nil, rfl, isDigits_ofNat index, Nat.not_le.mp hindex⟩
  have hnone := h (.array []) (written [.item index]) ?_
  · rw [resolve?_eq_longIndex_iff.mpr hasks] at hnone
    contradiction
  · rintro value (⟨hpath, -⟩ | ⟨-, hlead⟩)
    · exact absurd hpath (Text.ofNat_ne_nil index)
    · rw [hcomponents, leadTo_cons_iff] at hlead
      rcases hlead with ⟨child, hchild, -⟩ | ⟨hsign, -⟩
      · simp [childAt?] at hchild
      · exact absurd hsign (ofNat_ne_lengthSign index)

end Path

end ContentQuery
