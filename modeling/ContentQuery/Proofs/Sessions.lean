import ContentQuery.Database.Session
import ContentQuery.Proofs.EngineLaws

/-!
# ContentQuery.Proofs.Sessions

Sessions on a store that is there. It can always be opened, whether or not a store may be created,
and after the session it holds what the work has come to, or what it held before if the work fails.
-/

namespace ContentQuery

namespace FileTree

variable {tree : FileTree} {place file : Location}

/-! ## The file of a store -/

/-- Whether a store can be put at a location: it is found there, and no directory gives way to
it. -/
structure Admits [Engine] (tree : FileTree) (file : Location) : Prop where
  short : octetLength file.text ≤ Engine.maxPath
  node : tree.node? file ≠ some .directory
  found : ∀ db, (tree.put file (.store db)).lookUp [] file.text = .ok (file, .store db)

/-- A store that has been put where one can be opened is opened as it is. -/
theorem Admits.openFile_put [Engine] (h : tree.Admits file) (db : Database) :
    (tree.put file (.store db)).openFile file =
      (tree.put file (.store db), .ok ⟨tree.put file (.store db), file, db⟩) := by
  rw [openFile, h.found db]
  exact if_neg (Nat.not_lt.mpr h.short)

/-- Where a store can be opened, one still can be after rows have been put there. -/
theorem Admits.put [Engine] (h : tree.Admits file) (db : Database) :
    (tree.put file (.store db)).Admits file where
  short := h.short
  node := by
    rw [node?_put_self (ne_nil_of_node?_ne h.node)]
    exact fun heq => FileNode.noConfusion (Option.some.inj heq)
  found later := by
    rw [put_put]
    exact h.found later

/-- A file that is found by its location, and is no directory, admits a store. -/
theorem admits_of_lookUp [Engine] (hproper : Location.IsProper file)
    (hshort : octetLength file.text ≤ Engine.maxPath) {last : Location} {node : FileNode}
    (h : tree.lookUp [] file.text = .ok (last, node)) (hnode : node ≠ .directory) :
    last = file ∧ tree.Admits file := by
  obtain ⟨-, -, hlast, hfile⟩ := (lookUp_text_eq_ok_iff hproper).mp h
  have hdirectory : tree.node? file ≠ some .directory := by
    rw [hfile]
    exact fun heq => hnode (Option.some.inj heq)
  refine ⟨hlast, hshort, hdirectory, fun db => ?_⟩
  obtain ⟨found, hfound⟩ := lookUp_put hdirectory h (.store db)
  obtain ⟨-, -, -, hput⟩ := (lookUp_text_eq_ok_iff hproper).mp hfound
  rw [node?_put_self (ne_nil_of_node?_ne hdirectory)] at hput
  rw [hfound, hlast, Option.some.inj hput]

/-- Where there is room for a file, there is a directory above it. -/
theorem exists_directory_of_room (h : tree.room place = .ok none) :
    ∃ last, tree.lookUp [] (Location.text place.dropLast) = .ok (last, .directory) := by
  unfold room at h
  split at h
  · exact absurd (Except.ok.inj h) (Option.some_ne_none _)
  · split at h
    · next last hlookUp => exact ⟨last, hlookUp⟩
    · contradiction
    · contradiction
  · contradiction

/-- Where there is room for a file, a store can be put, if its name is not too long. -/
theorem admits_of_room [Engine] [Engine.Lawful] (hproper : Location.IsProper file)
    (hshort : octetLength file.text ≤ Engine.maxPath)
    (hmissing : tree.lookUp [] file.text = .error .missing) (hroom : tree.room file = .ok none)
    (hname : isLongName file = false) : tree.Admits file := by
  rcases List.eq_nil_or_concat' file with rfl | ⟨parent, name, rfl⟩
  · contradiction
  have hshortPath := Nat.lt_of_le_of_lt hshort Engine.Lawful.maxPath_lt
  have hlength : octetLength name ≤ maxName := by
    rw [isLongName, List.getLast?_concat, Option.any_some, decide_eq_false_iff_not] at hname
    exact Nat.le_trans (Nat.not_lt.mp hname) Engine.Lawful.maxName_le
  obtain ⟨last, hparent⟩ := exists_directory_of_room hroom
  rw [List.dropLast_concat] at hparent
  obtain ⟨-, hwalk, rfl, hdirectory⟩ :=
    (lookUp_text_eq_ok_iff (List.forall_mem_append.mp hproper).1).mp hparent
  have hnone : tree.node? (last ++ [name]) = none := by
    cases hnode : tree.node? (last ++ [name]) with
    | none => rfl
    | some node =>
        rw [lookUp_text_concat hproper hshortPath hlength hwalk hdirectory hnode] at hmissing
        contradiction
  have hfile : tree.node? (last ++ [name]) ≠ some .directory := by
    rw [hnone]
    exact (Option.some_ne_none _).symm
  refine ⟨hshort, hfile, fun db => ?_⟩
  have hne : last ≠ last ++ [name] := by simp
  rw [← node?_put_of_ne hne] at hdirectory
  exact lookUp_text_concat hproper hshortPath hlength (walk_put hfile hwalk) hdirectory
    (node?_put_self (List.append_ne_nil_of_right_ne_nil _ (List.cons_ne_nil _ _)))

/-- A file that can be opened as a store can hold any store. Opening it changes the tree only where
the file was not a store yet. -/
theorem openFile_eq_ok [Engine] [Engine.Lawful] (hproper : Location.IsProper file)
    {opened : FileTree} {store : OpenStore} (h : tree.openFile file = (opened, .ok store)) :
    opened = store.tree ∧ store.file = file ∧ tree.Admits file ∧
      (store.tree = tree ∨ store.tree = tree.put file (.store store.database)) := by
  unfold openFile at h
  simp only at h
  split at h
  · simp at h
  · next hshort =>
      have hshort := Nat.not_lt.mp hshort
      split at h
      · next last database hlookUp =>
          obtain ⟨rfl, hstore⟩ := Prod.mk.inj h
          obtain rfl := Except.ok.inj hstore
          obtain ⟨-, hadmits⟩ := admits_of_lookUp hproper hshort hlookUp FileNode.noConfusion
          exact ⟨rfl, rfl, hadmits, .inl rfl⟩
      · next last octets hlookUp =>
          split at h
          · obtain ⟨rfl, hstore⟩ := Prod.mk.inj h
            obtain rfl := Except.ok.inj hstore
            obtain ⟨-, hadmits⟩ := admits_of_lookUp hproper hshort hlookUp FileNode.noConfusion
            exact ⟨rfl, rfl, hadmits, .inr rfl⟩
          · simp at h
      · next hmissing =>
          split at h
          · next hroom =>
              split at h
              · simp at h
              · next hname =>
                  obtain ⟨rfl, hstore⟩ := Prod.mk.inj h
                  obtain rfl := Except.ok.inj hstore
                  have hadmits := admits_of_room hproper hshort hmissing hroom
                    ((Bool.not_eq_true _).mp hname)
                  exact ⟨rfl, rfl, hadmits, .inr rfl⟩
          · simp at h
      · simp at h

/-! ## Opening a store -/

/-- Whether a location names the store in a file: something is there, and taken as an address it
names this file, which can hold a store. -/
structure Names [Engine] (tree : FileTree) (place file : Location) : Prop where
  present : tree.has place = .ok true
  address : Engine.fileOf place = .ok file
  admits : tree.Admits file

/-- A location names the same file after rows have been put there. -/
theorem Names.put [Engine] (h : tree.Names place file) (db : Database) :
    (tree.put file (.store db)).Names place file where
  present := has_put h.admits.node h.present
  address := h.address
  admits := h.admits.put db

/-- A location that names a file is opened as this file, with leave to create it or without. -/
theorem Names.openStore_eq [Engine] (h : tree.Names place file) (create : Bool) :
    tree.openStore place create = ((tree.openFile file).1, false, (tree.openFile file).2) := by
  simp only [openStore, h.present, openAddress, h.address]

/-- Rows that have been put into the file that a location names are opened there. -/
theorem Names.openStore_put [Engine] (h : tree.Names place file) (db : Database) (create : Bool) :
    (tree.put file (.store db)).openStore place create =
      (tree.put file (.store db), false, .ok ⟨tree.put file (.store db), file, db⟩) := by
  rw [(h.put db).openStore_eq, h.admits.openFile_put]

/-- A store that is opened without leave to create it is in the file that the location names. -/
theorem names_of_openStore [Engine] [Engine.Lawful] {store : OpenStore}
    (h : (tree.openStore place false).2.2 = .ok store) :
    tree.Names place store.file ∧ tree.openFile store.file = (store.tree, .ok store) ∧
      (store.tree = tree ∨ store.tree = tree.put store.file (.store store.database)) := by
  unfold openStore at h
  split at h
  · contradiction
  · next hpresent =>
      unfold openAddress at h
      split at h
      · next file hfile =>
          have hopen : tree.openFile file = ((tree.openFile file).1, .ok store) :=
            Prod.ext rfl h
          obtain ⟨htree, rfl, hadmits, hcases⟩ :=
            openFile_eq_ok (Engine.Lawful.isProper_of_fileOf hfile) hopen
          rw [htree] at hopen
          exact ⟨⟨hpresent, hfile, hadmits⟩, hopen, hcases⟩
      · contradiction
  · contradiction

/-- An open store of a tree. -/
structure Opens [Engine] (tree : FileTree) (place : Location) (store : OpenStore) : Prop where
  names : tree.Names place store.file
  openStore_eq : ∀ create, tree.openStore place create = (store.tree, false, .ok store)
  tree_eq : store.tree = tree ∨ store.tree = tree.put store.file (.store store.database)

theorem opens_of_openStore [Engine] [Engine.Lawful] {store : OpenStore}
    (h : (tree.openStore place false).2.2 = .ok store) : tree.Opens place store := by
  obtain ⟨hnames, hopen, htree⟩ := names_of_openStore h
  refine ⟨hnames, fun create => ?_, htree⟩
  rw [hnames.openStore_eq, hopen]

/-- Rows are committed to the file of the store. -/
theorem Opens.commit_eq [Engine] {store : OpenStore} (h : tree.Opens place store) (db : Database) :
    store.commit db = tree.put store.file (.store db) := by
  rw [OpenStore.commit]
  rcases h.tree_eq with htree | htree
  · rw [htree]
  · rw [htree, put_put]

/-! ## Rows -/

/-- The rows at a location are those of the store that is opened there. -/
theorem rows?_eq [Engine] (tree : FileTree) (place : Location) :
    tree.rows? place = (tree.openStore place false).2.2.toOption.map (·.database) := by
  unfold rows? session
  generalize tree.openStore place false = opened
  obtain ⟨tree, created, result⟩ := opened
  cases result <;> rfl

/-- There are rows at a location exactly if it opens a store with these rows. -/
theorem rows?_eq_some_iff [Engine] [Engine.Lawful] {rows : Database} :
    tree.rows? place = some rows ↔ ∃ store, tree.Opens place store ∧ store.database = rows := by
  rw [rows?_eq, Option.map_eq_some_iff]
  constructor
  · rintro ⟨store, hopen, hrows⟩
    exact ⟨store, opens_of_openStore (toOption_eq_some_iff.mp hopen), hrows⟩
  · rintro ⟨store, hopen, hrows⟩
    refine ⟨store, ?_, hrows⟩
    rw [hopen.openStore_eq]
    rfl

/-- Rows that are put into the file of a store are those that are read afterwards. -/
theorem Opens.rows?_put [Engine] {store : OpenStore} (h : tree.Opens place store) (db : Database) :
    (tree.put store.file (.store db)).rows? place = some db := by
  rw [rows?_eq, h.names.openStore_put]
  rfl

/-- Opening a store leaves its rows as they are. -/
theorem Opens.rows?_tree [Engine] [Engine.Lawful] {store : OpenStore} (h : tree.Opens place store) :
    store.tree.rows? place = some store.database := by
  rcases h.tree_eq with htree | htree
  · rw [htree]
    exact rows?_eq_some_iff.mpr ⟨store, h, rfl⟩
  · rw [htree]
    exact h.rows?_put store.database

/-- Rows that are committed are those that are read afterwards. -/
theorem Opens.rows?_commit [Engine] {store : OpenStore} (h : tree.Opens place store)
    (db : Database) :
    (store.commit db).rows? place = some db := by
  rw [h.commit_eq]
  exact h.rows?_put db

/-! ## Sessions -/

variable {ε α : Type}

/-- What a session on a store that is there comes to: the rows of the work, if it ends well, and
otherwise, whatever has been written by then, the rows that there were. -/
theorem Opens.session_cases [Engine] [Engine.Lawful] {store : OpenStore}
    (h : tree.Opens place store) (create : Bool) (work : OpenStore → Transaction ε α) :
    let ended := tree.session place create work
    (∃ a db, (work store).carryOut store.database = (.ok a, db) ∧ ended.2 = .ok a ∧
      ended.1.rows? place = some db) ∨
    (∃ e written, (work store).carryOut store.database = (.error e, written) ∧
      ended.2 = .error (.work e) ∧ ended.1.rows? place = some store.database) := by
  simp only [session, h.openStore_eq]
  split
  · next a db hrun => exact .inl ⟨a, db, hrun, rfl, h.rows?_commit db⟩
  · next e written hrun => exact .inr ⟨e, written, hrun, rfl, h.rows?_tree⟩

end FileTree

end ContentQuery
