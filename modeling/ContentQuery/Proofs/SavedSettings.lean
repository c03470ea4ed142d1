import ContentQuery.Proofs.ConnectiveWord
import ContentQuery.Proofs.Directories
import ContentQuery.Proofs.TomlDocument
import ContentQuery.Proofs.Utf8Form
import ContentQuery.Settings.Loading
import ContentQuery.Settings.Saving

/-!
# ContentQuery.Proofs.SavedSettings

Settings saved to a file and loaded again: whatever code points the path of the store has, and in
whatever letter case words are given, what is loaded is what was saved.
-/

namespace ContentQuery

/-! ## Paths of locations -/

namespace FilePath

/-- Steps by proper names go down along them. -/
theorem foldl_step {names : List Text} (h : Location.IsProper names) (place : Location) :
    names.foldl step place = place ++ names := by
  induction names generalizing place with
  | nil => exact (List.append_nil place).symm
  | cons name names ih =>
      obtain ⟨⟨-, hdown, -⟩, hnames⟩ := List.forall_mem_cons.mp h
      rw [List.foldl_cons, step, if_neg hdown, ih hnames, List.append_assoc]
      rfl

/-- The text of a location begins at the root. -/
theorem anchorOf_text {place : Location} (h : place.IsProper) : anchorOf place.text = .root := by
  cases place with
  | nil => rfl
  | cons name names =>
      obtain ⟨⟨hname, -, hslash⟩, -⟩ := List.forall_mem_cons.mp h
      cases name with
      | nil => contradiction
      | cons c name =>
          have hc : c ≠ '/' := (List.ne_of_not_mem_cons hslash).symm
          obtain ⟨later, hlater⟩ : ∃ later, Text.joinWith [('/' : CodePoint)]
              ((c :: name) :: names) = c :: later := by
            cases names <;> exact ⟨_, rfl⟩
          rw [anchorOf, Location.text_eq, hlater]
          simp [hc]

/-- A location is read from its path. -/
theorem parse_text {place : Location} (h : place.IsProper) :
    parse place.text = .ofLocation place := by
  have hnames : (Text.splitOn '/' place.text).filter isName = place := by
    cases place with
    | nil => rfl
    | cons name names =>
        rw [Location.splitOn_text h (List.cons_ne_nil _ _), List.filter_cons_of_neg (by decide)]
        exact List.filter_eq_self.mpr fun name hname => (h name hname).1
  rw [parse, anchorOf_text h, hnames]
  rfl

/-- A text of a path: no null character and no surrogate stands in it. -/
def IsPathText (s : Text) : Prop := ∀ c ∈ s, c.val ≠ 0 ∧ c.isSurrogate = false

/-- A text that a path can have is accepted. -/
theorem check_eq_ok {s : Text} (h : IsPathText s) : check s = .ok () := by
  have hsurrogate : (s.any fun (c : CodePoint) => c.isSurrogate && !isRawOctet c) = false := by
    rw [List.any_eq_false]
    intro c hc
    simp [(h c hc).2]
  have hnull : (s.any fun (c : CodePoint) => c.val = 0) = false := by
    rw [List.any_eq_false]
    intro c hc
    simpa using (h c hc).1
  rw [check, hsurrogate, hnull]
  rfl

/-- The path of a proper location leads to this location, wherever it is resolved. -/
theorem resolve_ofLocation (around : Surroundings) {place : Location} (h : place.IsProper)
    (htext : IsPathText place.text) : (ofLocation place).resolve around = .ok place := by
  have hexpand : (ofLocation place).expandHome around = .ok (ofLocation place) := rfl
  have hcheck : check (ofLocation place).text = .ok () := check_eq_ok htext
  have hlocate : (ofLocation place).locate around = place := foldl_step h []
  rw [resolve, hexpand]
  simp only [bind, Except.bind, follow, hcheck, hlocate]
  rfl

end FilePath

/-! ## Words -/

namespace Case

/-- No code point with another form in lower case is half of a character. -/
theorem not_isSurrogate_of_mem_lowerRuns :
    ∀ run ∈ lowerRuns, run.last < 0xD800 ∨ 0xDFFF < run.first := by
  decide +kernel

/-- Half of a character has no other form in lower case. -/
theorem lowerOne_of_isSurrogate {c : CodePoint} (h : c.isSurrogate = true) : lowerOne c = [c] := by
  have hbounds : 0xD800 ≤ c.val ∧ c.val ≤ 0xDFFF := by simpa [CodePoint.isSurrogate] using h
  have himage : image? lowerRuns c.val = none := by
    rw [Option.eq_none_iff_forall_ne_some]
    intro n hn
    obtain ⟨run, hrun, hfirst, hlast, -⟩ := exists_run_of_image? hn
    rcases not_isSurrogate_of_mem_lowerRuns run hrun with hbelow | habove
    · omega
    · omega
  rw [lowerOne, if_neg (by omega), if_neg (by omega), himage]

/-- Lower-casing leaves surrogates where they are. -/
theorem mem_lowerFrom_of_isSurrogate {c : CodePoint} (h : c.isSurrogate = true) {s : Text}
    (hc : c ∈ s) (before : Bool) : c ∈ lowerFrom before s := by
  induction s generalizing before with
  | nil => exact absurd hc List.not_mem_nil
  | cons d s ih =>
      rw [lowerFrom]
      rcases List.mem_cons.mp hc with rfl | hc
      · have hsigma : c.val ≠ 0x3A3 := by
          intro heq
          rw [CodePoint.isSurrogate, heq] at h
          contradiction
        rw [if_neg hsigma, lowerOne_of_isSurrogate h]
        exact List.mem_append_left _ List.mem_cons_self
      · split
        · exact List.mem_cons_of_mem _ (ih hc _)
        · exact List.mem_append_right _ (ih hc _)

end Case

/-- What stands for a word in any letter case has no surrogates, if no word has. -/
theorem isSurrogate_of_isSome_find? {α : Type} {every : List α} {word : α → Text}
    (hwords : (every.all fun a => (word a).all fun c => !c.isSurrogate) = true) {s : Text}
    (h : (every.find? fun a => word a = s.lower).isSome = true) :
    ∀ c ∈ s, c.isSurrogate = false := by
  obtain ⟨a, ha, hword⟩ := List.find?_isSome.mp h
  have hword : word a = s.lower := by simpa using hword
  intro c hc
  rw [← Bool.not_eq_true]
  intro hsurrogate
  have hlower : c ∈ s.lower := Case.mem_lowerFrom_of_isSurrogate hsurrogate hc false
  rw [← hword] at hlower
  have hplain := List.all_eq_true.mp (List.all_eq_true.mp hwords a ha) c hlower
  rw [hsurrogate] at hplain
  contradiction

namespace Settings

variable {around : Surroundings} {tree : FileTree} {settings : Settings} {place store : Location}

/-! ## Settings that can be saved -/

/-- Whether settings can be saved and loaded again: the store is at a location that a file can have
and whose path is a text, and the other values are words and a number that are allowed. -/
structure IsSavable (settings : Settings) (store : Location) : Prop where
  store_eq : settings.store = .ofLocation store
  accepted : store.IsAccepted
  path : FilePath.IsPathText store.text
  scope : (Scope.ofWord? settings.scope).isSome = true
  sortField : (SortField.ofWord? settings.sortField).isSome = true
  direction : (Direction.ofWord? settings.direction).isSome = true
  limit : settings.limit.natAbs < 10 ^ maxLimitDigits

/-- The table of a key is written without quotes. -/
theorem isBareName_table (key : Key) : Toml.IsBareName key.table where
  nonempty := by cases key <;> exact List.cons_ne_nil _ _
  bare := List.all_eq_true.mp (by cases key <;> rfl)

/-- A key is written without quotes. -/
theorem isBareName_name (key : Key) : Toml.IsBareName key.name where
  nonempty := by cases key <;> exact List.cons_ne_nil _ _
  bare := List.all_eq_true.mp (by cases key <;> rfl)

theorem maxLimitDigits_eq : maxLimitDigits = Toml.maxDigits := rfl

/-- The tables that are written for settings can be read. -/
theorem areReadable_sections (h : settings.limit.natAbs < 10 ^ maxLimitDigits) :
    Toml.AreReadable settings.sections where
  each := by
    rw [maxLimitDigits_eq] at h
    have hpair (key : Key) {v : Toml.Plain} (hv : v.IsReadable) :
        Toml.IsReadablePair (key.name, v) := ⟨isBareName_name key, hv⟩
    simp only [sections, List.forall_mem_cons, List.not_mem_nil, false_imp_iff, implies_true,
      and_true]
    refine ⟨⟨isBareName_table .store, ?_, ?_⟩, ⟨isBareName_table .scope, ?_, ?_⟩,
      ⟨isBareName_table .colored, ?_, ?_⟩⟩
    · exact List.forall_mem_singleton.mpr (hpair .store trivial)
    · exact List.nodup_singleton _
    · simp only [List.forall_mem_cons, List.not_mem_nil, false_imp_iff, implies_true, and_true]
      exact ⟨hpair .scope trivial, hpair .sortField trivial, hpair .direction trivial,
        hpair .limit h⟩
    · change [Key.scope.name, Key.sortField.name, Key.direction.name, Key.limit.name].Nodup
      decide
    · exact List.forall_mem_singleton.mpr (hpair .colored trivial)
    · exact List.nodup_singleton _
  distinct := by
    change [Key.store.table, Key.scope.table, Key.colored.table].Nodup
    decide

theorem IsSavable.store_text (h : settings.IsSavable store) :
    settings.store.text = store.text := by
  rw [h.store_eq]
  rfl

/-- What is written for settings that can be saved has octets. -/
theorem exists_octets [Toml.Writer] [Toml.Writer.Lawful] (h : settings.IsSavable store) :
    ∃ octets, settings.octets = .ok octets ∧ Utf8.decode octets = some settings.text := by
  have hstore : ∀ c ∈ settings.store.text, c.isSurrogate = false := by
    rw [h.store_text]
    exact fun c hc => (h.path c hc).2
  have hscope := isSurrogate_of_isSome_find? rfl h.scope
  have hsortField := isSurrogate_of_isSome_find? rfl h.sortField
  have hdirection := isSurrogate_of_isSome_find? rfl h.direction
  have htext : ∀ c ∈ settings.text, c.isSurrogate = false := by
    refine Toml.Writer.Lawful.not_isSurrogate (areReadable_sections h.limit) ?_
    simp only [sections, List.forall_mem_cons, List.not_mem_nil, false_imp_iff, implies_true,
      and_true, Toml.Plain.HasOnly]
    exact ⟨fun c hc _ => hstore c hc, fun c hc _ => hscope c hc, fun c hc _ => hsortField c hc,
      fun c hc _ => hdirection c hc⟩
  have hencode := Utf8.encode_eq_some_iff.mpr ⟨htext, rfl⟩
  refine ⟨_, ?_, Utf8.decode_eq_some_iff.mpr hencode⟩
  rw [octets, Nat.pow_eq, if_neg (Nat.not_le.mpr h.limit), hencode]

/-- The values that settings are read from when they have been saved. -/
theorem ofTables_sections (initial settings : Settings) :
    ofTables initial (Toml.tablesOf settings.sections) =
      .ok { settings with store := .parse settings.store.text, source := initial.source } :=
  rfl

/-- A value that can be made out of a text is not complained about. -/
theorem require_of_isSome {α : Type} {a : Option α} (key : Key) (words : List Text)
    (h : a.isSome = true) : require key words a = .ok () := by
  obtain ⟨a, rfl⟩ := Option.isSome_iff_exists.mp h
  rfl

/-- A limit of not too many digits is read, whatever it is warned of. -/
theorem exists_limitWarnings {limit : Int} (h : limit.natAbs < 10 ^ maxLimitDigits) :
    ∃ warnings, limitWarnings limit = .ok warnings := by
  rw [maxLimitDigits_eq] at h
  rw [limitWarnings, Nat.pow_eq, if_neg (Nat.not_le.mpr h)]
  split
  · exact ⟨[], rfl⟩
  · exact ⟨_, rfl⟩

/-- Settings that can be saved pass the check, and it changes nothing about them. -/
theorem exists_check (h : settings.IsSavable store) :
    ∃ warnings, settings.check around (tree.access around) = .ok (settings, warnings) := by
  obtain ⟨found, hfound⟩ : ∃ found, (tree.access around).has store = .ok found :=
    FileTree.exists_has h.accepted
  obtain ⟨warnings, hwarnings⟩ := exists_limitWarnings h.limit
  have hresolve : (tree.access around).resolve around settings.store = .ok store := by
    rw [h.store_eq]
    exact FilePath.resolve_ofLocation around h.accepted.proper h.path
  refine ⟨(if found then [] else [.noStore store]) ++ warnings, ?_⟩
  rw [check, hresolve]
  simp only [Except.mapError, bind, Except.bind, hfound, require_of_isSome _ _ h.scope,
    require_of_isSome _ _ h.sortField, require_of_isSome _ _ h.direction, hwarnings]
  rw [← h.store_eq]
  rfl

/-- Settings that can be saved are saved to any path at which a file can be written, and from this
path they are loaded again with all their values. -/
theorem load_save [Limits] [Toml.Writer] [Toml.Writer.Lawful] {path : FilePath}
    (h : settings.IsSavable store) (hpath : path.resolve around = .ok place)
    (hplace : tree.Offers place) :
    ∃ saved warnings, settings.save around tree (some path) = .ok saved ∧
      load around (saved.access around) (some path) =
        .ok ({ settings with source := some (.ofLocation place) }, warnings) := by
  obtain ⟨octets, hoctets, hdecode⟩ := exists_octets h
  obtain ⟨made, saved, hmade, hwrite, hfound⟩ := hplace.exists_write octets
  -- The check is made on the settings with their new source, which it does not look at.
  have hsaved : IsSavable { settings with source := some (.ofLocation place) } store :=
    ⟨h.store_eq, h.accepted, h.path, h.scope, h.sortField, h.direction, h.limit⟩
  obtain ⟨warnings, hcheck⟩ : ∃ warnings,
      check around (saved.access around) { settings with source := some (.ofLocation place) } =
        .ok ({ settings with source := some (.ofLocation place) }, warnings) :=
    exists_check hsaved
  refine ⟨saved, warnings, ?_, ?_⟩
  · have htarget : (some path <|> settings.source).getD (defaultSource around) = path := rfl
    rw [save]
    simp only [htarget, hpath, Except.mapError, bind, Except.bind, hmade, hoctets, hwrite]
  · have hresolve : (saved.access around).resolve around path = .ok place := hpath
    have hhas : (saved.access around).has place = .ok true := by
      change saved.has place = .ok true
      rw [FileTree.has, hfound]
    have hread : (saved.access around).read place = .ok octets := by
      change saved.read [] place.text = .ok octets
      rw [FileTree.read, hfound]
    have htables : readTables place octets = .ok (Toml.tablesOf settings.sections) := by
      rw [readTables, hdecode]
      simp only [text, Toml.Writer.Lawful.read_write _ (areReadable_sections h.limit)]
      rfl
    have hstore : FilePath.parse settings.store.text = settings.store := by
      rw [h.store_text, FilePath.parse_text h.accepted.proper, h.store_eq]
    rw [load]
    simp only [Option.getD_some, hresolve, Except.mapError, bind, Except.bind, hhas, hread, htables,
      ofTables_sections, hstore]
    exact hcheck

/-- A location whose name has quotes, a backslash, controls, a line end and a letter beyond
ASCII. -/
def awkwardStore : Location := ["a \"b\"\\\t\n\r\x7f\x01é"]

/-- Settings with this store, with words in various letter cases and with a limit below all
limits. -/
def awkward : Settings where
  store := .ofLocation awkwardStore
  scope := "ALL"
  sortField := "Creation_Date"
  direction := "dEsC"
  limit := -7
  colored := false
  source := none

theorem isSavable_awkward : awkward.IsSavable awkwardStore where
  store_eq := rfl
  accepted := by
    refine ⟨?_, by decide, by decide⟩
    unfold Location.IsProper FilePath.IsProper
    decide
  path := by
    have hall : (awkwardStore.text.all fun c => c.val ≠ 0 && !c.isSurrogate) = true := rfl
    simpa [FilePath.IsPathText, List.all_eq_true] using hall
  scope := rfl
  sortField := rfl
  direction := rfl
  limit :=
    Nat.lt_of_lt_of_le (by decide : 7 < 10 ^ 1) (Nat.pow_le_pow_right (by decide) (by decide))

/-- They are saved to a new directory below the working directory. -/
theorem load_save_awkward :
    let around : Surroundings := ⟨["w"], .ofLocation ["h"], []⟩
    ∃ saved warnings, awkward.save around ⟨[]⟩ (some (.parse "c/t.toml")) = .ok saved ∧
      load around (saved.access around) (some (.parse "c/t.toml")) =
        .ok ({ awkward with source := some (.ofLocation ["w", "c", "t.toml"]) }, warnings) := by
  intro around
  have haccepted : Location.IsAccepted ["w", "c", "t.toml"] := by
    refine ⟨?_, by decide, by decide⟩
    unfold Location.IsProper FilePath.IsProper
    decide
  have hoffers : FileTree.Offers ⟨[]⟩ ["w", "c", "t.toml"] := by
    refine ⟨haccepted, ?_, nofun⟩
    intro parent _ node hnode
    unfold FileTree.node? at hnode
    split at hnode
    · exact (Option.some.inj hnode).symm
    · contradiction
  exact load_save isSavable_awkward rfl hoffers

end Settings

end ContentQuery
