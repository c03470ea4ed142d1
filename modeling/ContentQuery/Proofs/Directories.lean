import ContentQuery.Proofs.Locations

/-!
# ContentQuery.Proofs.Directories

Locations that a file can have, and the directories that are made on the way to one: nothing that
was there gives way to them, nothing is put at the location itself, and where no file stands on the
way, a file can be written there and is found again.
-/

namespace ContentQuery

/-! ## Accepted locations -/

theorem Text.joinWith_concat (separator : Text) (parts : List Text) (last : Text) :
    ∃ rest, joinWith separator (parts ++ [last]) = joinWith separator parts ++ rest := by
  induction parts with
  | nil => exact ⟨last, rfl⟩
  | cons part parts ih =>
      cases parts with
      | nil => exact ⟨separator ++ last, by simp [joinWith]⟩
      | cons next parts =>
          obtain ⟨rest, hrest⟩ := ih
          rw [List.cons_append] at hrest
          refine ⟨rest, ?_⟩
          rw [List.cons_append, List.cons_append, joinWith, hrest, joinWith]
          simp only [List.append_assoc]

namespace Location

/-- Whether a location is one that a file can have: it can be reached along its names, and neither
they nor its path are too long. -/
structure IsAccepted (place : Location) : Prop where
  proper : place.IsProper
  names : ∀ name ∈ place, FileTree.octetLength name ≤ FileTree.maxName
  whole : FileTree.octetLength place.text < FileTree.maxPath

variable {parent : Location} {name : Text}

/-- A location is no shorter than the one above it. -/
theorem octetLength_text_le (parent : Location) (name : Text) :
    FileTree.octetLength parent.text ≤ FileTree.octetLength (Location.text (parent ++ [name])) := by
  obtain ⟨rest, hrest⟩ := Text.joinWith_concat [('/' : CodePoint)] parent name
  rw [text_eq, text_eq, hrest, ← List.cons_append]
  simp [FileTree.octetLength, FilePath.octets]

/-- The location above an accepted one is accepted. -/
theorem IsAccepted.above (h : IsAccepted (parent ++ [name])) : IsAccepted parent where
  proper := (List.forall_mem_append.mp h.proper).1
  names := (List.forall_mem_append.mp h.names).1
  whole := Nat.lt_of_le_of_lt (octetLength_text_le parent name) h.whole

end Location

namespace FileTree

variable {tree : FileTree} {place other : Location} {node : FileNode} {names : List Text}

/-- No walk fails for a name that is short enough. -/
theorem walk_ne_nameTooLong (hnames : ∀ name ∈ names, octetLength name ≤ maxName) :
    tree.walk place names ≠ .error .nameTooLong := by
  induction names generalizing place with
  | nil => exact nofun
  | cons name names ih =>
      obtain ⟨hname, hnames⟩ := List.forall_mem_cons.mp hnames
      rw [walk, if_neg (Nat.not_lt.mpr hname)]
      split
      · split
        · exact ih hnames
        · split
          · exact ih hnames
          · split
            · simp
            · exact ih hnames
      · simp
      · simp

/-- An accepted location is looked up by a walk along its names. -/
theorem lookUp_text (h : place.IsAccepted) :
    tree.lookUp [] place.text = (tree.walk [] place >>= tree.found) := by
  have hne : place.text ≠ [] := List.cons_ne_nil _ _
  have horigin : origin [] place.text = [] := if_pos rfl
  rw [lookUp_eq hne h.whole, horigin, walk_splitOn_text h.proper]

/-- An accepted location is never too long to be looked up. -/
theorem lookUp_text_ne_nameTooLong (h : place.IsAccepted) :
    tree.lookUp [] place.text ≠ .error .nameTooLong := by
  rw [lookUp_text h]
  intro hlong
  rcases bind_eq_error_iff.mp hlong with hlong | ⟨last, -, hlong⟩
  · exact walk_ne_nameTooLong h.names hlong
  · unfold found at hlong
    split at hlong
    · contradiction
    · exact absurd (Except.error.inj hlong) nofun

/-- Whether anything stands at an accepted location can always be told. -/
theorem exists_has (h : place.IsAccepted) : ∃ b, tree.has place = .ok b := by
  unfold has
  split
  · exact ⟨true, rfl⟩
  · next hlong => exact absurd hlong (lookUp_text_ne_nameTooLong h)
  · exact ⟨false, rfl⟩

/-- Nothing is found where nothing is. -/
theorem lookUp_text_ne_ok_of_absent (hproper : place.IsProper)
    (habsent : tree.node? place = none) (last : Location) (node : FileNode) :
    tree.lookUp [] place.text ≠ .ok (last, node) := by
  intro hfound
  obtain ⟨-, -, -, hnode⟩ := (lookUp_text_eq_ok_iff hproper).mp hfound
  rw [habsent] at hnode
  contradiction

theorem has_ne_true_of_absent (hproper : place.IsProper) (habsent : tree.node? place = none) :
    tree.has place ≠ .ok true := by
  unfold has
  split
  · next hfound => exact absurd hfound (lookUp_text_ne_ok_of_absent hproper habsent _ _)
  · simp
  · simp

/-- An accepted location where nothing is is found to be free. -/
theorem has_of_absent (h : place.IsAccepted) (habsent : tree.node? place = none) :
    tree.has place = .ok false := by
  obtain ⟨b, hhas⟩ : ∃ b, tree.has place = .ok b := exists_has h
  cases b with
  | false => exact hhas
  | true => exact absurd hhas (has_ne_true_of_absent h.proper habsent)

/-! ## Making directories -/

/-- Creating directories along a path changes nothing that is there. -/
theorem node?_createAlong_of_some (h : tree.node? other = some node) :
    (tree.createAlong place names).1.node? other = some node := by
  induction names generalizing tree place with
  | nil => exact h
  | cons name names ih =>
      rw [createAlong]
      split
      · exact ih h
      · next hfree =>
          split
          · exact h
          · refine ih ?_
            have hne : other ≠ place ++ [name] := by
              rintro rfl
              rw [h] at hfree
              exact hfree rfl
            rwa [node?_put_of_ne hne]

/-- Nothing is made below the last directory. -/
theorem node?_createAlong_of_length_lt (h : place.length + names.length < other.length) :
    (tree.createAlong place names).1.node? other = tree.node? other := by
  induction names generalizing tree place with
  | nil => rfl
  | cons name names ih =>
      have hne : other ≠ place ++ [name] := by
        rintro rfl
        simp only [List.length_append, List.length_cons, List.length_nil] at h
        omega
      have hlater : (place ++ [name]).length + names.length < other.length := by
        simp only [List.length_append, List.length_cons, List.length_nil] at h ⊢
        omega
      rw [createAlong]
      split
      · exact ih hlater
      · split
        · rfl
        · rw [ih hlater, node?_put_of_ne hne]

/-- Creating directories changes nothing further down. -/
theorem node?_makeDirectories (h : place.length < other.length) :
    (tree.makeDirectories place).1.node? other = tree.node? other := by
  unfold makeDirectories
  split
  · rfl
  · rfl
  · exact node?_createAlong_of_length_lt (by simpa using h)
  · rfl

/-! ## Free ways -/

/-- Whether nothing but directories stands on the way from a location along names. -/
def IsFree (tree : FileTree) (place : Location) (names : List Text) : Prop :=
  ∀ parent, parent <+: names → ∀ node, tree.node? (place ++ parent) = some node →
    node = .directory

/-- If the way is free, it is free from its first directory on. -/
theorem IsFree.next {name : Text} (h : tree.IsFree place (name :: names)) :
    (∀ node, tree.node? (place ++ [name]) = some node → node = .directory) ∧
      tree.IsFree (place ++ [name]) names := by
  refine ⟨h [name] ⟨names, rfl⟩, fun parent hparent => ?_⟩
  rw [List.append_assoc]
  exact h (name :: parent) (List.cons_prefix_cons.mpr ⟨rfl, hparent⟩)

/-- On a free way, a walk reaches the end or finds that a directory is missing. -/
theorem walk_of_isFree (hproper : Location.IsProper names)
    (hshort : ∀ name ∈ names, octetLength name ≤ maxName)
    (hplace : tree.node? place = some .directory) (hfree : tree.IsFree place names) :
    tree.walk place names = .ok (place ++ names) ∨ tree.walk place names = .error .missing := by
  induction names generalizing place with
  | nil =>
      rw [List.append_nil]
      exact .inl rfl
  | cons name names ih =>
      obtain ⟨⟨hname, hdown, -⟩, hproper⟩ := List.forall_mem_cons.mp hproper
      obtain ⟨hlength, hshort⟩ := List.forall_mem_cons.mp hshort
      obtain ⟨hhere, hfree⟩ := hfree.next
      cases hnode : tree.node? (place ++ [name]) with
      | none => exact .inr (by simp [walk, hplace, hname, hdown, Nat.not_lt.mpr hlength, hnode])
      | some node =>
          rw [hhere node hnode] at hnode
          have hwalk : tree.walk place (name :: names) = tree.walk (place ++ [name]) names := by
            simp [walk, hplace, hname, hdown, Nat.not_lt.mpr hlength, hnode]
          have hlater := ih hproper hshort hnode hfree
          rw [← List.append_cons] at hlater
          rwa [hwalk]

/-- Where no file has the next name, the next directory is there before the rest are made, and
nothing else changes. -/
theorem createAlong_cons_of_free {name : Text} (hshort : octetLength name ≤ maxName)
    (hfree : ∀ node, tree.node? (place ++ [name]) = some node → node = .directory) :
    ∃ wider : FileTree, tree.createAlong place (name :: names) =
        wider.createAlong (place ++ [name]) names ∧
      wider.node? (place ++ [name]) = some .directory ∧
      ∀ other, other ≠ place ++ [name] → wider.node? other = tree.node? other := by
  rw [createAlong]
  cases hnode : tree.node? (place ++ [name]) with
  | some node =>
      rw [hfree node hnode] at hnode
      exact ⟨tree, rfl, hnode, fun _ _ => rfl⟩
  | none =>
      refine ⟨tree.put (place ++ [name]) .directory, ?_, ?_, fun _ hne => node?_put_of_ne hne⟩
      · simp [Nat.not_lt.mpr hshort]
      · exact node?_put_self (List.append_ne_nil_of_right_ne_nil _ (List.cons_ne_nil _ _))

/-- Along a free way all directories can be made, and one can go along them. -/
theorem createAlong_of_isFree (hproper : Location.IsProper names)
    (hshort : ∀ name ∈ names, octetLength name ≤ maxName)
    (hplace : tree.node? place = some .directory) (hfree : tree.IsFree place names) :
    ∃ made : FileTree, tree.createAlong place names = (made, none) ∧
      made.walk place names = .ok (place ++ names) ∧
      made.node? (place ++ names) = some .directory := by
  induction names generalizing tree place with
  | nil =>
      rw [List.append_nil]
      exact ⟨tree, rfl, rfl, hplace⟩
  | cons name names ih =>
      obtain ⟨⟨hname, hdown, -⟩, hproper⟩ := List.forall_mem_cons.mp hproper
      obtain ⟨hlength, hshort⟩ := List.forall_mem_cons.mp hshort
      obtain ⟨hhere, hfree⟩ := hfree.next
      obtain ⟨wider, hwider, hdirectory, hsame⟩ := createAlong_cons_of_free hlength hhere
      have hfree : wider.IsFree (place ++ [name]) names := by
        intro parent hparent node hnode
        by_cases heq : place ++ [name] ++ parent = place ++ [name]
        · rw [heq, hdirectory] at hnode
          exact (Option.some.inj hnode).symm
        · rw [hsame _ heq] at hnode
          exact hfree parent hparent node hnode
      obtain ⟨made, hmade, hwalk, hlast⟩ := ih hproper hshort hdirectory hfree
      rw [← List.append_cons] at hwalk hlast
      -- What was a directory before the rest were made still is.
      have hkept {other : Location} (h : wider.node? other = some .directory) :
          made.node? other = some .directory := by
        have hsome : (wider.createAlong (place ++ [name]) names).1.node? other =
            some .directory := node?_createAlong_of_some h
        rwa [hmade] at hsome
      have hstart : wider.node? place = some .directory := by
        rwa [hsame place (by simp)]
      have hleads : made.Leads place name (place ++ [name]) :=
        .down hname hdown hlength (hkept hdirectory ▸ Option.some_ne_none _)
      exact ⟨made, hwider.trans hmade,
        walk_cons_eq_ok_iff.mpr ⟨hkept hstart, _, hleads, hwalk⟩, hlast⟩

/-- On a free way, all the directories that are missing are created. -/
theorem makeDirectories_of_isFree (h : place.IsAccepted) (hfree : tree.IsFree [] place) :
    ∃ made : FileTree, tree.makeDirectories place = (made, none) ∧
      made.walk [] place = .ok place ∧ made.node? place = some .directory := by
  unfold makeDirectories
  rw [lookUp_text h]
  rcases walk_of_isFree h.proper h.names rfl hfree with hwalk | hwalk
  · rw [hwalk]
    cases hnode : tree.node? place with
    | none =>
        have hfound : (Except.ok ([] ++ place) >>= tree.found) = .error .missing := by
          simp [bind, Except.bind, found, hnode]
        rw [hfound]
        exact createAlong_of_isFree h.proper h.names rfl hfree
    | some node =>
        rw [hfree place List.prefix_rfl node hnode] at hnode
        have hfound : (Except.ok ([] ++ place) >>= tree.found) = .ok (place, .directory) := by
          simp [bind, Except.bind, found, hnode]
        rw [hfound]
        exact ⟨tree, rfl, hwalk, hnode⟩
  · rw [hwalk]
    exact createAlong_of_isFree h.proper h.names rfl hfree

/-! ## Writing a file -/

/-- Whether a file can be written at a location once its directories are made. -/
structure Offers (tree : FileTree) (place : Location) : Prop where
  accepted : place.IsAccepted
  free : tree.IsFree [] place.dropLast
  node : tree.node? place ≠ some .directory

/-- In a directory that one can go to, there is room for every name. -/
theorem room_concat {parent : Location} {name : Text}
    (h : Location.IsAccepted (parent ++ [name])) (hwalk : tree.walk [] parent = .ok parent)
    (hdirectory : tree.node? parent = some .directory) :
    tree.room (parent ++ [name]) = .ok (tree.node? (parent ++ [name])) := by
  have hproper := h.proper name (List.mem_append_right _ List.mem_cons_self)
  have hlength := h.names name (List.mem_append_right _ List.mem_cons_self)
  unfold room
  cases hnode : tree.node? (parent ++ [name]) with
  | some node => rw [lookUp_text_concat h.proper h.whole hlength hwalk hdirectory hnode]
  | none =>
      have hmissing : tree.walk parent [name] = .error .missing := by
        simp [walk, hdirectory, hproper.1, hproper.2.1, Nat.not_lt.mpr hlength, hnode]
      have hparent : tree.lookUp [] parent.text = .ok (parent, .directory) :=
        (lookUp_text_eq_ok_iff h.above.proper).mpr ⟨h.above.whole, hwalk, rfl, hdirectory⟩
      have hwhole : tree.walk [] (parent ++ [name]) = .error .missing := by
        rw [walk_append, hwalk]
        exact hmissing
      rw [lookUp_text h, hwhole, List.dropLast_concat, hparent]
      rfl

/-- Where a location offers itself, a file can be written, and then it is found there. -/
theorem Offers.exists_write (h : tree.Offers place) (octets : List UInt8) :
    ∃ made saved : FileTree, tree.makeDirectories place.dropLast = (made, none) ∧
      made.write place octets = .ok saved ∧
      saved.lookUp [] place.text = .ok (place, .file octets) := by
  rcases List.eq_nil_or_concat' place with rfl | ⟨parent, name, rfl⟩
  · exact absurd rfl h.node
  obtain ⟨haccepted, hfree, hnode⟩ := h
  rw [List.dropLast_concat] at hfree ⊢
  obtain ⟨made, hmade, hwalk, hdirectory⟩ := makeDirectories_of_isFree haccepted.above hfree
  have hname := haccepted.names name (List.mem_append_right _ List.mem_cons_self)
  have hsame : made.node? (parent ++ [name]) = tree.node? (parent ++ [name]) := by
    have hbelow : (tree.makeDirectories parent).1.node? (parent ++ [name]) =
        tree.node? (parent ++ [name]) := node?_makeDirectories (by simp)
    rwa [hmade] at hbelow
  rw [← hsame] at hnode
  refine ⟨made, made.put (parent ++ [name]) (.file octets), hmade, ?_, ?_⟩
  · unfold write
    rw [room_concat haccepted hwalk hdirectory]
    split
    · next hroom => exact absurd (Except.ok.inj hroom) hnode
    · rfl
    · contradiction
  · have hne : parent ≠ parent ++ [name] := by simp
    have hproper := haccepted.proper
    rw [← node?_put_of_ne hne] at hdirectory
    exact lookUp_text_concat hproper haccepted.whole hname (walk_put hnode hwalk) hdirectory
      (node?_put_self (List.append_ne_nil_of_right_ne_nil _ (List.cons_ne_nil _ _)))

end FileTree

end ContentQuery
