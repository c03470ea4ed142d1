import Mathlib.Data.List.Forall2
import Mathlib.Data.List.Nodup
import Mathlib.Logic.Relation

/-!
# ContentQuery.Proofs.Steps

Steps that may fail: when one step after another succeeds, when a step for every item of a list
does, and what is reached by any number of steps.
-/

namespace ContentQuery

variable {ε α β γ : Type}

theorem bind_eq_ok_iff {first : Except ε α} {next : α → Except ε β} {b : β} :
    (first >>= next) = .ok b ↔ ∃ a, first = .ok a ∧ next a = .ok b := by
  cases first with
  | error e => simp [Bind.bind, Except.bind]
  | ok a => simp [Bind.bind, Except.bind]

theorem bind_eq_error_iff {first : Except ε α} {next : α → Except ε β} {e : ε} :
    (first >>= next) = .error e ↔ first = .error e ∨ ∃ a, first = .ok a ∧ next a = .error e := by
  cases first with
  | error e => simp [Bind.bind, Except.bind]
  | ok a => simp [Bind.bind, Except.bind]

theorem map_eq_ok_iff {first : Except ε α} {f : α → β} {b : β} :
    first.map f = .ok b ↔ ∃ a, first = .ok a ∧ f a = b := by
  cases first with
  | error e => simp [Except.map]
  | ok a => simp [Except.map]

theorem map_eq_error_iff {first : Except ε α} {f : α → β} {e : ε} :
    first.map f = .error e ↔ first = .error e := by
  cases first with
  | error e => simp [Except.map]
  | ok a => simp [Except.map]

/-- A renamed error changes no success. -/
theorem mapError_eq_ok_iff {first : Except ε α} {f : ε → β} {a : α} :
    first.mapError f = .ok a ↔ first = .ok a := by
  cases first with
  | error e => simp [Except.mapError]
  | ok b => simp [Except.mapError]

theorem toOption_eq_some_iff {first : Except ε α} {a : α} :
    first.toOption = some a ↔ first = .ok a := by
  cases first with
  | error e => simp [Except.toOption]
  | ok b => simp [Except.toOption]

/-- Items are read as items exactly if each one is read as the one in its place. -/
theorem mapM_eq_ok_iff {f : α → Except ε β} {xs : List α} {ys : List β} :
    xs.mapM f = .ok ys ↔ List.Forall₂ (fun x y => f x = .ok y) xs ys := by
  induction xs generalizing ys with
  | nil =>
      rw [List.mapM_nil, List.forall₂_nil_left_iff]
      exact ⟨fun h => (Except.ok.inj h).symm, fun h => congrArg Except.ok h.symm⟩
  | cons x xs ih =>
      rw [List.mapM_cons, bind_eq_ok_iff, List.forall₂_cons_left_iff]
      constructor
      · rintro ⟨y, hy, h⟩
        obtain ⟨rest, hrest, h⟩ := bind_eq_ok_iff.mp h
        exact ⟨y, rest, hy, ih.mp hrest, (Except.ok.inj h).symm⟩
      · rintro ⟨y, rest, hy, hrest, rfl⟩
        exact ⟨y, hy, bind_eq_ok_iff.mpr ⟨rest, ih.mpr hrest, rfl⟩⟩

theorem eq_map_of_mapM {f : α → Except ε β} {g : α → β} (hread : ∀ x y, f x = .ok y → y = g x)
    {xs : List α} {ys : List β} (h : xs.mapM f = .ok ys) : ys = xs.map g := by
  rw [← List.forall₂_eq_eq_eq, List.forall₂_map_right_iff]
  exact (mapM_eq_ok_iff.mp h).flip.imp fun y x => hread x y

/-- Each of the items that come out is what one of those that went in is read as. -/
theorem exists_of_mem_of_mapM {f : α → Except ε β} {xs : List α} {ys : List β}
    (h : xs.mapM f = .ok ys) {y : β} (hy : y ∈ ys) : ∃ x ∈ xs, f x = .ok y := by
  rw [mapM_eq_ok_iff] at h
  induction h with
  | nil => exact absurd hy List.not_mem_nil
  | cons hfirst _ ih =>
      rcases List.mem_cons.mp hy with rfl | hy
      · exact ⟨_, List.mem_cons_self, hfirst⟩
      · obtain ⟨x, hx, hread⟩ := ih hy
        exact ⟨x, List.mem_cons_of_mem _ hx, hread⟩

/-- Each of the items that went in is read as one of those that come out. -/
theorem exists_mem_of_mapM {f : α → Except ε β} {xs : List α} {ys : List β}
    (h : xs.mapM f = .ok ys) {x : α} (hx : x ∈ xs) : ∃ y ∈ ys, f x = .ok y := by
  rw [mapM_eq_ok_iff] at h
  induction h with
  | nil => exact absurd hx List.not_mem_nil
  | cons hfirst _ ih =>
      rcases List.mem_cons.mp hx with rfl | hx
      · exact ⟨_, List.mem_cons_self, hfirst⟩
      · obtain ⟨y, hy, hread⟩ := ih hx
        exact ⟨y, List.mem_cons_of_mem _ hy, hread⟩

theorem exists_mapM_eq_ok {f : α → Except ε β} {xs : List α} (h : ∀ x ∈ xs, ∃ y, f x = .ok y) :
    ∃ ys, xs.mapM f = .ok ys := by
  induction xs with
  | nil => exact ⟨[], rfl⟩
  | cons x xs ih =>
      obtain ⟨⟨y, hy⟩, hxs⟩ := List.forall_mem_cons.mp h
      obtain ⟨ys, hys⟩ := ih hxs
      exact ⟨y :: ys, mapM_eq_ok_iff.mpr (.cons hy (mapM_eq_ok_iff.mp hys))⟩

/-- Items are not read at all because of the first of them that is not read. -/
theorem mapM_eq_error_iff {f : α → Except ε β} {xs : List α} {e : ε} :
    xs.mapM f = .error e ↔ ∃ before x after, xs = before ++ x :: after ∧
      (∀ y ∈ before, ∃ z, f y = .ok z) ∧ f x = .error e := by
  induction xs with
  | nil =>
      constructor
      · intro h
        rw [List.mapM_nil] at h
        contradiction
      · rintro ⟨before, x, after, hxs, -⟩
        simp at hxs
  | cons x xs ih =>
      rw [List.mapM_cons, bind_eq_error_iff]
      constructor
      · rintro (h | ⟨y, hy, h⟩)
        · exact ⟨[], x, xs, rfl, fun _ hy => absurd hy List.not_mem_nil, h⟩
        · rcases bind_eq_error_iff.mp h with h | ⟨_, _, h⟩
          · obtain ⟨before, x', after, rfl, hbefore, hx'⟩ := ih.mp h
            exact ⟨x :: before, x', after, rfl, List.forall_mem_cons.mpr ⟨⟨y, hy⟩, hbefore⟩, hx'⟩
          · contradiction
      · rintro ⟨before, x', after, hxs, hbefore, hx'⟩
        cases before with
        | nil =>
            obtain ⟨rfl, rfl⟩ := List.cons.inj hxs
            exact .inl hx'
        | cons first before =>
            obtain ⟨rfl, rfl⟩ := List.cons.inj hxs
            obtain ⟨⟨y, hy⟩, hbefore⟩ := List.forall_mem_cons.mp hbefore
            exact .inr ⟨y, hy, bind_eq_error_iff.mpr
              (.inl (ih.mpr ⟨before, x', after, rfl, hbefore, hx'⟩))⟩

/-- Items of which each one is read as the one that it was made of are read as all of these. -/
theorem mapM_map_eq_ok {f : α → Except ε β} {g : γ → α} {h : γ → β} {items : List γ}
    (hitems : ∀ item ∈ items, f (g item) = .ok (h item)) :
    (items.map g).mapM f = .ok (items.map h) := by
  rw [mapM_eq_ok_iff, List.forall₂_map_left_iff, List.forall₂_map_right_iff, List.forall₂_same]
  exact hitems

/-- The items of a kind are read as those of what all items are read as that are of a kind with
it. -/
theorem mapM_filter_eq_ok {f : α → Except ε β} {p : α → Bool} {q : β → Bool}
    (hkind : ∀ x y, f x = .ok y → p x = q y) {xs : List α} {ys : List β}
    (h : xs.mapM f = .ok ys) : (xs.filter p).mapM f = .ok (ys.filter q) := by
  rw [mapM_eq_ok_iff] at h ⊢
  induction h with
  | nil => exact .nil
  | cons hx _ ih =>
      rw [List.filter_cons, List.filter_cons, hkind _ _ hx]
      split
      · exact .cons hx ih
      · exact ih

/-- Steps that each put the row of an item behind the rows that are there, and fail where there is a
row of its key already, bring the rows of all items exactly if each item has a row and no key
repeats. -/
theorem foldlM_append_eq_ok_iff {σ κ : Type} {step : σ → α → Except ε σ} (state : List β → σ)
    (row : α → β) (key : β → κ) {hasRow : α → Prop}
    (hstep : ∀ item rows next, step (state rows) item = .ok next ↔
      hasRow item ∧ key (row item) ∉ rows.map key ∧ next = state (rows ++ [row item]))
    {items : List α} {known : List β} {last : σ} (hknown : (known.map key).Nodup) :
    items.foldlM step (state known) = .ok last ↔ (∀ item ∈ items, hasRow item) ∧
      ((known ++ items.map row).map key).Nodup ∧ last = state (known ++ items.map row) := by
  induction items generalizing known with
  | nil =>
      rw [List.foldlM_nil, List.map_nil, List.append_nil]
      simp [pure, Except.pure, hknown, eq_comm]
  | cons item items ih =>
      have hmoved : known ++ (item :: items).map row = (known ++ [row item]) ++ items.map row := by
        rw [List.map_cons, List.append_cons]
      have hlonger : ((known ++ [row item]).map key).Nodup ↔ key (row item) ∉ known.map key := by
        rw [List.map_append, List.nodup_append_comm]
        exact List.nodup_cons.trans (and_iff_left hknown)
      rw [List.foldlM_cons, bind_eq_ok_iff, hmoved, List.forall_mem_cons]
      constructor
      · rintro ⟨next, hfirst, hrest⟩
        obtain ⟨hitem, hnew, rfl⟩ := (hstep item known next).mp hfirst
        obtain ⟨hitems, hkeys, hlast⟩ := (ih (hlonger.mpr hnew)).mp hrest
        exact ⟨⟨hitem, hitems⟩, hkeys, hlast⟩
      · rintro ⟨⟨hitem, hitems⟩, hkeys, hlast⟩
        have hsome : ((known ++ [row item]).map key).Nodup :=
          hkeys.sublist ((List.sublist_append_left _ _).map key)
        exact ⟨_, (hstep item known _).mpr ⟨hitem, hlonger.mp hsome, rfl⟩,
          (ih hsome).mpr ⟨hitems, hkeys, hlast⟩⟩

/-- Something is reached at once, or after a first step. -/
theorem exists_reflTransGen_iff {r : α → α → Prop} {p : α → Prop} {a : α} :
    (∃ c, Relation.ReflTransGen r a c ∧ p c) ↔
      p a ∨ ∃ b, r a b ∧ ∃ c, Relation.ReflTransGen r b c ∧ p c := by
  constructor
  · rintro ⟨c, hac, hc⟩
    rcases hac.cases_head with rfl | ⟨b, hab, hbc⟩
    · exact .inl hc
    · exact .inr ⟨b, hab, c, hbc, hc⟩
  · rintro (ha | ⟨b, hab, c, hbc, hc⟩)
    · exact ⟨a, .refl, ha⟩
    · exact ⟨c, .head hab hbc, hc⟩

end ContentQuery
