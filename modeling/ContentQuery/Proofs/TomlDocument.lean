import ContentQuery.Proofs.Fields
import ContentQuery.Proofs.TomlText

/-!
# ContentQuery.Proofs.TomlDocument

Documents written section by section and read again, statement by statement: if no name repeats, the
tables and values of the sections come back.
-/

namespace ContentQuery.Toml

variable {name rest s : Text} {c : CodePoint} {entries : Entries} {progress next : Progress}
  {room : Nat}

/-! ## Names -/

/-- Whether a name can stand without quotes. -/
structure IsBareName (name : Text) : Prop where
  nonempty : name ≠ []
  bare : ∀ c ∈ name, isBare c = true

theorem IsBareName.exists_cons (h : IsBareName name) :
    ∃ c later, name = c :: later ∧ isBare c = true := by
  obtain ⟨c, later, rfl⟩ := List.exists_cons_of_ne_nil h.nonempty
  exact ⟨c, later, rfl, h.bare c List.mem_cons_self⟩

theorem skipSpace_cons (hc : isSpace c = false) : skipSpace (c :: rest) = c :: rest :=
  List.dropWhile_cons_of_neg (by rw [hc]; decide)

theorem isSpace_of_isBare (hc : isBare c = true) : isSpace c = false := by
  have hblank : c ≠ ' ' := ne_of_kind hc rfl
  have htab : c ≠ '\t' := ne_of_kind hc rfl
  simp [isSpace, hblank, htab]

/-- No white space is at the front of a bare name. -/
theorem IsBareName.skipSpace_append (h : IsBareName name) :
    skipSpace (name ++ rest) = name ++ rest := by
  obtain ⟨c, later, rfl, hc⟩ := h.exists_cons
  exact skipSpace_cons (isSpace_of_isBare hc)

/-- A bare name is read up to its end. -/
theorem readName_bare (h : IsBareName name) (hrest : ∀ c ∈ rest.head?, isBare c = false) :
    readName (name ++ rest) = .ok (name, skipSpace rest) := by
  have htake := Text.takeWhile_append_of_stop h.bare hrest
  have hdrop := Text.dropWhile_append_of_stop h.bare hrest
  obtain ⟨c, later, rfl, hc⟩ := h.exists_cons
  rw [List.cons_append] at htake hdrop ⊢
  rw [readName, if_neg (ne_of_kind hc rfl), if_neg (ne_of_kind hc rfl), if_pos hc, htake, hdrop]
  rfl

/-- A key of one name. -/
theorem readKey_bare (h : IsBareName name) (hrest : ∀ c ∈ rest.head?, isBare c = false)
    (hpoint : ∀ c ∈ (skipSpace rest).head?, c ≠ '.') :
    readKey (name ++ rest) = .ok ((name, []), skipSpace rest) := by
  have hnames (limit : Nat) : readNames limit (skipSpace rest) = .ok ([], skipSpace rest) := by
    cases limit with
    | zero => rfl
    | succ limit => rw [readNames, after?_eq_none hpoint]
  rw [readKey, readName_bare h hrest]
  simp only [bind, Except.bind, hnames]
  rfl

/-! ## Lines -/

/-- Whether the rest of a document is read, up to given entries; the number of lines that is allowed
is no restriction. -/
def ReadsAs (room : Nat) (progress : Progress) (s : Text) (entries : Entries) : Prop :=
  ∀ limit, s.length < limit → readLines room progress limit s = .ok entries

/-- At the end of a document there are the entries that there are. -/
theorem readsAs_nil (room : Nat) (progress : Progress) :
    ReadsAs room progress [] progress.entries := by
  intro limit hlimit
  cases limit with
  | zero => exact absurd hlimit (Nat.not_lt_zero _)
  | succ limit => rfl

/-- A line with a statement is read, and then the lines after it. -/
theorem readsAs_line (hlonger : rest.length < s.length) (hspace : skipSpace s = s)
    (hstatement : readStatement room progress s = .ok (next, ('\n' : CodePoint) :: rest))
    (h : ReadsAs room next rest entries) : ReadsAs room progress s entries := by
  intro limit hlimit
  cases limit with
  | zero => exact absurd hlimit (Nat.not_lt_zero _)
  | succ limit =>
      rw [readLines, hspace, hstatement]
      exact h limit (by omega)

/-- A blank line changes nothing. -/
theorem readsAs_blank (h : ReadsAs room progress rest entries) :
    ReadsAs room progress (('\n' : CodePoint) :: rest) entries :=
  readsAs_line (Nat.lt_succ_self _) rfl rfl h

/-! ## Pairs -/

/-- The entries of a section with given pairs. -/
def nodesOf (pairs : List (Text × Plain)) : Entries :=
  pairs.map fun pair => (pair.1, .value pair.2.value)

/-- Whether a pair can be read after it has been written. -/
structure IsReadablePair (pair : Text × Plain) : Prop where
  name : IsBareName pair.1
  value : pair.2.IsReadable

/-- A pair as it is written is read up to the end of its line. -/
theorem readPair_writePair {pair : Text × Plain} (h : IsReadablePair pair) (nesting : Nat)
    (rest : Text) : readPair (readValue nesting) (writePair pair ++ rest) =
      .ok (((pair.1, []), pair.2.value), ('\n' : CodePoint) :: rest) := by
  let written : Text := ('\x20' : CodePoint) :: (pair.2.text ++ ('\n' : CodePoint) :: rest)
  let equals : Text := ('\x20' : CodePoint) :: ('=' : CodePoint) :: written
  have hsplit : writePair pair ++ rest = pair.1 ++ equals := by
    simp [writePair, Text.ofString, equals, written]
  have hkey : readKey (pair.1 ++ equals) = .ok ((pair.1, []), skipSpace equals) :=
    readKey_bare h.name (by rintro c ⟨⟩; rfl) (by rintro c ⟨⟩; decide)
  have hequals : after? '=' (skipSpace equals) = some written := rfl
  have hvalue : readValue nesting (skipSpace written) =
      .ok (pair.2.value, ('\n' : CodePoint) :: rest) := readValue_plain h.value nesting rest
  rw [hsplit, readPair, hkey]
  simp only [bind, Except.bind, hequals, orMalformed, hvalue]
  rfl

/-- A pair whose name is new to the section that is being read comes to the end of the section. -/
theorem readEntry_writePair {before : Entries} {pair : Text × Plain} {done : List (Text × Plain)}
    (h : IsReadablePair pair) (hsection : name ∉ before.map (·.1))
    (hkey : pair.1 ∉ done.map (·.1)) (rest : Text) :
    readEntry room ⟨before ++ [(name, .table .declared (nodesOf done))], [name]⟩
        (writePair pair ++ rest) =
      .ok (⟨before ++ [(name, .table .declared (nodesOf (done ++ [pair])))], [name]⟩,
        ('\n' : CodePoint) :: rest) := by
  have hnew : pair.1 ∉ (nodesOf done).map (·.1) := by
    rwa [nodesOf, List.map_map]
  have hinsert : insert pair.1 [] pair.2.value (nodesOf done) =
      some (nodesOf (done ++ [pair])) := by
    rw [insert, fieldOf?_eq_none_iff.mpr hnew]
    simp only [setField_eq_append hnew]
    rw [nodesOf, nodesOf, List.map_append]
    rfl
  rw [readEntry, readPair_writePair h]
  simp only [bind, Except.bind, modifyAt, fieldOf?_concat hsection, hinsert, Option.bind,
    setField_concat hsection, pure, orMalformed]
  rfl

/-- What begins like a name is read as a pair. -/
theorem readStatement_of_isBare (hc : isBare c = true) (room : Nat) (progress : Progress)
    (s : Text) : readStatement room progress (c :: s) = readEntry room progress (c :: s) := by
  have hbegins : beginsKey c = true := by simp [beginsKey, hc]
  rw [readStatement]
  simp only [if_neg (ne_of_kind hc (show isBare '[' = false from rfl)), if_pos hbegins]

/-- The line of a pair. -/
theorem readsAs_pair {before : Entries} {pair : Text × Plain} {done : List (Text × Plain)}
    (hpair : IsReadablePair pair) (hsection : name ∉ before.map (·.1))
    (hkey : pair.1 ∉ done.map (·.1))
    (h : ReadsAs room ⟨before ++ [(name, .table .declared (nodesOf (done ++ [pair])))], [name]⟩ rest
      entries) :
    ReadsAs room ⟨before ++ [(name, .table .declared (nodesOf done))], [name]⟩
      (writePair pair ++ rest) entries := by
  have hread : readEntry room _ (writePair pair ++ rest) = .ok (_, ('\n' : CodePoint) :: rest) :=
    readEntry_writePair hpair hsection hkey rest
  obtain ⟨c, later, hname, hc⟩ := hpair.name.exists_cons
  obtain ⟨line, hline⟩ : ∃ line, writePair pair = c :: line := by
    rw [writePair, hname]
    exact ⟨_, rfl⟩
  rw [hline, List.cons_append] at hread ⊢
  refine readsAs_line ?_ (skipSpace_cons (isSpace_of_isBare hc)) ?_ h
  · rw [List.length_cons, List.length_append]
    omega
  · rw [readStatement_of_isBare hc, hread]

/-- Where no key repeats, the key of an item is none of those before it. -/
theorem not_mem_map_of_nodup {α : Type} {key : α → Text} {before after : List α} {item : α}
    (h : ((before ++ item :: after).map key).Nodup) : key item ∉ before.map key := by
  rw [List.map_append, List.map_cons, List.nodup_append] at h
  exact fun hmem => h.2.2 _ hmem _ List.mem_cons_self rfl

/-- The pairs of a section, if their names are all different. -/
theorem readsAs_pairs {before : Entries} {done pairs : List (Text × Plain)}
    (hsection : name ∉ before.map (·.1)) (hkeys : ((done ++ pairs).map (·.1)).Nodup)
    (hpairs : ∀ pair ∈ pairs, IsReadablePair pair)
    (h : ReadsAs room ⟨before ++ [(name, .table .declared (nodesOf (done ++ pairs)))], [name]⟩ rest
      entries) :
    ReadsAs room ⟨before ++ [(name, .table .declared (nodesOf done))], [name]⟩
      (pairs.flatMap writePair ++ rest) entries := by
  induction pairs generalizing done with
  | nil => rwa [List.append_nil] at h
  | cons pair pairs ih =>
      obtain ⟨hpair, hpairs⟩ := List.forall_mem_cons.mp hpairs
      have hkey : pair.1 ∉ done.map (·.1) := not_mem_map_of_nodup hkeys
      rw [List.append_cons done] at hkeys h
      rw [List.flatMap_cons, List.append_assoc]
      exact readsAs_pair hpair hsection hkey (ih hkeys hpairs h)

/-! ## Sections -/

/-- The entries of a document of sections. -/
def entriesOf (sections : List Section) : Entries :=
  sections.map fun s => (s.name, .table .declared (nodesOf s.pairs))

/-- Whether a section can be read after it has been written. -/
structure Section.IsReadable (s : Section) : Prop where
  name : IsBareName s.name
  pairs : ∀ pair ∈ s.pairs, IsReadablePair pair
  distinct : (s.pairs.map (·.1)).Nodup

/-- Plain values have nothing to close. -/
theorem closedEntries_nodesOf (pairs : List (Text × Plain)) :
    closedEntries (nodesOf pairs) = nodesOf pairs := by
  induction pairs with
  | nil => rfl
  | cons pair pairs ih =>
      rw [nodesOf, List.map_cons, closedEntries, Node.closed]
      exact congrArg _ ih

/-- Tables of plain values have nothing to close. -/
theorem closedEntries_entriesOf (sections : List Section) :
    closedEntries (entriesOf sections) = entriesOf sections := by
  induction sections with
  | nil => rfl
  | cons s sections ih =>
      rw [entriesOf, List.map_cons, closedEntries, Node.closed, closedEntries_nodesOf]
      exact congrArg _ ih

theorem names_entriesOf (sections : List Section) :
    (entriesOf sections).map (·.1) = sections.map (·.name) := List.map_map

/-- The header of a section whose name is new. -/
theorem readStatement_header {done : List Section} (hname : IsBareName name)
    (hnew : name ∉ done.map (·.name)) (header : List Text) (rest : Text) :
    readStatement room ⟨entriesOf done, header⟩
        (('[' : CodePoint) :: (name ++ ((']' : CodePoint) :: ('\n' : CodePoint) :: rest))) =
      .ok (⟨entriesOf done ++ [(name, .table .declared (nodesOf []))], [name]⟩,
        ('\n' : CodePoint) :: rest) := by
  let close : Text := (']' : CodePoint) :: ('\n' : CodePoint) :: rest
  have hone : after? '[' (name ++ close) = none := by
    obtain ⟨c, later, rfl, hc⟩ := hname.exists_cons
    exact if_neg (ne_of_kind hc rfl)
  have hkey : readKey (name ++ close) = .ok ((name, []), close) :=
    readKey_bare hname (by rintro c ⟨⟩; rfl) (by rintro c ⟨⟩; decide)
  have hmissing : name ∉ (entriesOf done).map (·.1) := by rwa [names_entriesOf]
  have hdeclare : declare declareTable name [] (closedEntries (entriesOf done)) =
      some (entriesOf done ++ [(name, .table .declared (nodesOf []))]) := by
    rw [declare, closedEntries_entriesOf, fieldOf?_eq_none_iff.mpr hmissing,
      ← setField_eq_append hmissing]
    rfl
  rw [readStatement, if_pos rfl]
  simp only [close] at hone hkey
  simp only [hone, readHeader, hname.skipSpace_append, hkey, bind, Except.bind, hdeclare,
    orMalformed]
  rfl

/-- A section whose name is new comes to the end of the document. -/
theorem readsAs_section {done : List Section} {s : Section} {header : List Text}
    (hs : s.IsReadable) (hnew : s.name ∉ done.map (·.name))
    (h : ReadsAs room ⟨entriesOf (done ++ [s]), [s.name]⟩ rest entries) :
    ReadsAs room ⟨entriesOf done, header⟩ (s.text ++ rest) entries := by
  have hmissing : s.name ∉ (entriesOf done).map (·.1) := by rwa [names_entriesOf]
  have hsplit : s.text ++ rest = ('[' : CodePoint) :: (s.name ++ ((']' : CodePoint) ::
      ('\n' : CodePoint) :: (s.pairs.flatMap writePair ++ rest))) := by
    simp [Section.text, Text.ofString]
  have hpairs : ReadsAs room ⟨entriesOf done ++ [(s.name, .table .declared (nodesOf []))], [s.name]⟩
      (s.pairs.flatMap writePair ++ rest) entries := by
    refine readsAs_pairs hmissing hs.distinct hs.pairs ?_
    rwa [entriesOf, List.map_append] at h
  rw [hsplit]
  refine readsAs_line ?_ rfl (readStatement_header hs.name hnew header _) hpairs
  simp only [List.length_cons, List.length_append]
  omega

/-! ## Documents -/

/-- Whether a document of sections can be read after it has been written. -/
structure AreReadable (sections : List Section) : Prop where
  each : ∀ s ∈ sections, s.IsReadable
  distinct : (sections.map (·.name)).Nodup

/-- A blank line stands between two tables. -/
theorem write_cons_cons (s other : Section) (sections : List Section) :
    write (s :: other :: sections) =
      s.text ++ ('\n' : CodePoint) :: write (other :: sections) := by
  rw [write, List.map_cons, List.map_cons, Text.joinWith, List.append_assoc]
  rfl

/-- Tables with different names are read one after the other, behind those that have been read. -/
theorem readsAs_write {done sections : List Section} (header : List Text)
    (hsections : ∀ s ∈ sections, s.IsReadable)
    (hnames : ((done ++ sections).map (·.name)).Nodup) :
    ReadsAs room ⟨entriesOf done, header⟩ (write sections) (entriesOf (done ++ sections)) := by
  induction sections generalizing done header with
  | nil =>
      rw [List.append_nil]
      exact readsAs_nil room _
  | cons s sections ih =>
      obtain ⟨hs, hsections⟩ := List.forall_mem_cons.mp hsections
      have hnew : s.name ∉ done.map (·.name) := not_mem_map_of_nodup hnames
      rw [List.append_cons] at hnames ⊢
      have hlater := ih [s.name] hsections hnames
      cases sections with
      | nil =>
          have hlast : ReadsAs room ⟨entriesOf done, header⟩ (s.text ++ []) _ :=
            readsAs_section hs hnew hlater
          rwa [List.append_nil] at hlast
      | cons other sections =>
          rw [write_cons_cons]
          exact readsAs_section hs hnew (readsAs_blank hlater)

/-- The values of the pairs of a table are those that were written. -/
theorem valuesOf_nodesOf (pairs : List (Text × Plain)) :
    valuesOf (nodesOf pairs) = pairs.map fun pair => (pair.1, pair.2.value) := by
  induction pairs with
  | nil => rfl
  | cons pair pairs ih =>
      rw [nodesOf, List.map_cons, valuesOf, Node.toValue, List.map_cons]
      exact congrArg _ ih

/-- The tables of the sections. -/
def tablesOf (sections : List Section) : List (Text × Value) :=
  sections.map fun s => (s.name, .table (s.pairs.map fun pair => (pair.1, pair.2.value)))

/-- The values of a document are those of its tables. -/
theorem valuesOf_entriesOf (sections : List Section) :
    valuesOf (entriesOf sections) = tablesOf sections := by
  induction sections with
  | nil => rfl
  | cons s sections ih =>
      rw [entriesOf, List.map_cons, valuesOf, Node.toValue, valuesOf_nodesOf]
      exact congrArg _ ih

/-! ## What is written -/

/-- The characters of bare names are graphic. -/
theorem isGraphic_of_isBare (hc : isBare c = true) : IsGraphic c := by
  have hbounds (first last : CodePoint) (h : (decide (first ≤ c) && decide (c ≤ last)) = true) :
      first.val ≤ c.val ∧ c.val ≤ last.val := by simpa using h
  simp only [isBare, CodePoint.isDigit, CodePoint.isLetter, Bool.or_eq_true, decide_eq_true_eq]
    at hc
  rcases hc with ((hdigit | hsmall | hlarge) | rfl) | rfl
  · exact ⟨Nat.le_trans (by decide) (hbounds _ _ hdigit).1,
      Nat.lt_of_le_of_lt (hbounds _ _ hdigit).2 (by decide)⟩
  · exact ⟨Nat.le_trans (by decide) (hbounds _ _ hsmall).1,
      Nat.lt_of_le_of_lt (hbounds _ _ hsmall).2 (by decide)⟩
  · exact ⟨Nat.le_trans (by decide) (hbounds _ _ hlarge).1,
      Nat.lt_of_le_of_lt (hbounds _ _ hlarge).2 (by decide)⟩
  · exact ⟨by decide, by decide⟩
  · exact ⟨by decide, by decide⟩

/-- Digits are graphic. -/
theorem isGraphic_of_isDigit (hc : c.isDigit = true) : IsGraphic c := by
  rw [CodePoint.isDigit_iff] at hc
  exact ⟨by omega, by omega⟩

/-- Whether a value stands for text that has, apart from controls, code points of a kind only. -/
def Plain.HasOnly (p : CodePoint → Prop) : Plain → Prop
  | string s => ∀ c ∈ s, isControl c = false → p c
  | integer _ => True
  | boolean _ => True

section Kinds

variable {p : CodePoint → Prop}

/-- What holds of graphic characters and of those of a string that are no controls holds of all that
is written for the string. -/
theorem forall_mem_writeString (hgraphic : ∀ c, IsGraphic c → p c)
    (hs : ∀ c ∈ s, isControl c = false → p c) : ∀ c ∈ writeString s, p c := by
  have hquote : p '"' := hgraphic _ ⟨by decide, by decide⟩
  rw [writeString, List.forall_mem_append, List.forall_mem_append]
  refine ⟨⟨List.forall_mem_singleton.mpr hquote, fun d hd => ?_⟩,
    List.forall_mem_singleton.mpr hquote⟩
  obtain ⟨c, hc, hd⟩ := List.mem_flatMap.mp hd
  rcases mem_escape hd with hd | ⟨rfl, hcontrol⟩
  · exact hgraphic d hd
  · exact hs d hc hcontrol

/-- What holds of graphic characters and of those of a value holds of all that is written for the
value. -/
theorem forall_mem_text (hgraphic : ∀ c, IsGraphic c → p c) {v : Plain} (hv : v.HasOnly p) :
    ∀ c ∈ v.text, p c := by
  have hdigits (n : Nat) : ∀ c ∈ Text.ofNat n, p c := fun c hc =>
    hgraphic c (isGraphic_of_isDigit (Text.isDigit_of_mem_ofNat hc))
  cases v with
  | string s => exact forall_mem_writeString hgraphic hv
  | integer n =>
      cases n with
      | ofNat n => exact hdigits n
      | negSucc n =>
          exact List.forall_mem_cons.mpr ⟨hgraphic _ ⟨by decide, by decide⟩, hdigits (n + 1)⟩
  | boolean b => cases b <;> exact fun c hc => hgraphic c (isGraphic_of_all rfl c hc)

/-- What holds of graphic characters, of the end of a line and of those of a value holds of all that
is written for a pair. -/
theorem forall_mem_writePair (hline : p '\n') (hgraphic : ∀ c, IsGraphic c → p c)
    {pair : Text × Plain} (hname : IsBareName pair.1) (hvalue : pair.2.HasOnly p) :
    ∀ c ∈ writePair pair, p c := by
  rw [writePair, List.forall_mem_append, List.forall_mem_append, List.forall_mem_append]
  refine ⟨⟨⟨fun c hc => ?_, fun c hc => ?_⟩, forall_mem_text hgraphic hvalue⟩,
    List.forall_mem_singleton.mpr hline⟩
  · exact hgraphic c (isGraphic_of_isBare (hname.bare c hc))
  · exact hgraphic c (isGraphic_of_all rfl c hc)

/-- What holds of graphic characters, of the end of a line and of those of the values holds of all
that is written for a table. -/
theorem forall_mem_sectionText (hline : p '\n') (hgraphic : ∀ c, IsGraphic c → p c) {s : Section}
    (hs : s.IsReadable) (hvalues : ∀ pair ∈ s.pairs, pair.2.HasOnly p) : ∀ c ∈ s.text, p c := by
  rw [Section.text, List.forall_mem_append, List.forall_mem_append, List.forall_mem_append]
  refine ⟨⟨⟨?_, fun c hc => ?_⟩, ?_⟩, fun c hc => ?_⟩
  · exact List.forall_mem_singleton.mpr (hgraphic _ ⟨by decide, by decide⟩)
  · exact hgraphic c (isGraphic_of_isBare (hs.name.bare c hc))
  · exact List.forall_mem_cons.mpr ⟨hgraphic _ ⟨by decide, by decide⟩,
      List.forall_mem_singleton.mpr hline⟩
  · obtain ⟨pair, hpair, hc⟩ := List.mem_flatMap.mp hc
    exact forall_mem_writePair hline hgraphic (hs.pairs pair hpair).name (hvalues pair hpair) c hc

/-- Every code point of a document is a line end, a printed character of ASCII or one that stands
for itself in a string. -/
theorem forall_mem_write (hline : p '\n') (hgraphic : ∀ c, IsGraphic c → p c)
    {sections : List Section} (hsections : ∀ s ∈ sections, s.IsReadable)
    (hvalues : ∀ s ∈ sections, ∀ pair ∈ s.pairs, pair.2.HasOnly p) :
    ∀ c ∈ write sections, p c := by
  induction sections with
  | nil => exact List.forall_mem_nil _
  | cons s sections ih =>
      obtain ⟨hs, hsections⟩ := List.forall_mem_cons.mp hsections
      obtain ⟨hvalue, hvalues⟩ := List.forall_mem_cons.mp hvalues
      have hfirst := forall_mem_sectionText hline hgraphic hs hvalue
      cases sections with
      | nil => exact hfirst
      | cons other sections =>
          rw [write_cons_cons]
          exact List.forall_mem_append.mpr
            ⟨hfirst, List.forall_mem_cons.mpr ⟨hline, ih hsections hvalues⟩⟩

end Kinds

/-- A text without carriage returns has no line ends to change. -/
theorem normalizeLines_eq_self (h : ∀ c ∈ s, c ≠ '\r') : normalizeLines s = s := by
  induction s with
  | nil => rfl
  | cons c s ih =>
      obtain ⟨hc, hs⟩ := List.forall_mem_cons.mp h
      rw [normalizeLines, if_neg (by simp [hc]), ih hs]

/-- A document is read as the sections that it was written for. -/
theorem read_write (room : Nat) {sections : List Section} (h : AreReadable sections) :
    read room (write sections) = .ok (tablesOf sections) := by
  have hlines : normalizeLines (write sections) = write sections := by
    apply normalizeLines_eq_self
    refine forall_mem_write (by decide) ?_ h.each ?_
    · rintro c ⟨hlow, -⟩ rfl
      exact absurd hlow (by decide)
    · intro s _ pair _
      cases pair.2 with
      | string value =>
          rintro c - hcontrol rfl
          contradiction
      | integer n => trivial
      | boolean b => trivial
  have hreads : ReadsAs room ⟨entriesOf [], []⟩ (write sections) (entriesOf ([] ++ sections)) :=
    readsAs_write [] h.each h.distinct
  have hread : readLines room ⟨[], []⟩ ((write sections).length + 1) (write sections) =
      .ok (entriesOf sections) := hreads _ (Nat.lt_succ_self _)
  rw [read]
  simp only [hlines, hread]
  exact congrArg Except.ok (valuesOf_entriesOf sections)

/-! ## Ways to write documents -/

/-- What is relied on of a way to write documents: what is written can be read again, and no
surrogates stand in it but those of the values. -/
class Writer.Lawful [Writer] : Prop where
  read_write : ∀ (room : Nat) {sections : List Section}, AreReadable sections →
    read room (Writer.write sections) = .ok (tablesOf sections)
  not_isSurrogate : ∀ {sections : List Section}, AreReadable sections →
    (∀ s ∈ sections, ∀ pair ∈ s.pairs, pair.2.HasOnly fun c => c.isSurrogate = false) →
    ∀ c ∈ Writer.write sections, c.isSurrogate = false

/-- A graphic character is no half of one. -/
theorem isSurrogate_of_isGraphic (h : IsGraphic c) : c.isSurrogate = false := by
  obtain ⟨-, hhigh⟩ := h
  rw [CodePoint.isSurrogate, Bool.and_eq_false_iff, decide_eq_false_iff_not]
  exact .inl (by omega)

/-- The way of the program is one of these. -/
instance Writer.lawful_usual : @Writer.Lawful Writer.usual where
  read_write room _ h := Toml.read_write room h
  not_isSurrogate h hvalues := forall_mem_write (p := fun c => c.isSurrogate = false) rfl
    (fun _ => isSurrogate_of_isGraphic) h.each hvalues

end ContentQuery.Toml
