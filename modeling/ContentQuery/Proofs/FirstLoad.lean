import ContentQuery.Proofs.Directories
import ContentQuery.Proofs.Sessions
import ContentQuery.Proofs.UsualEngine

/-!
# ContentQuery.Proofs.FirstLoad

The first load into a store. The store is created when the session begins, before the snapshot is
read, and a load that fails does not take it away again: it leaves a store without any rows.
-/

namespace ContentQuery

namespace FileTree

variable {tree later : FileTree} {place file : Location} {store : OpenStore} {ε α : Type}

/-! ## Opening what is not there -/

/-- Without leave to create a store, none is opened where nothing is. -/
theorem openStore_false_of_absent [Engine] (hproper : place.IsProper)
    (habsent : tree.node? place = none) :
    ∃ problem, tree.openStore place false = (tree, false, .error problem) ∧
      (place.IsAccepted → problem = .notFound place) := by
  unfold openStore
  split
  · next e hlong =>
      refine ⟨.file e, rfl, fun haccepted => ?_⟩
      rw [has_of_absent haccepted habsent] at hlong
      contradiction
  · next hpresent => exact absurd hpresent (has_ne_true_of_absent hproper habsent)
  · exact ⟨.notFound place, rfl, fun _ => rfl⟩

/-- A file that is not there is opened as a store without any rows, and then it is there. -/
theorem openFile_of_absent [Engine] [Engine.Lawful] (hproper : file.IsProper)
    (habsent : tree.node? file = none) (h : tree.openFile file = (later, .ok store)) :
    later = tree.put file (.store .empty) ∧ tree.Admits file := by
  obtain ⟨-, -, hadmits, -⟩ := openFile_eq_ok hproper h
  refine ⟨?_, hadmits⟩
  have hnone := lookUp_text_ne_ok_of_absent hproper habsent
  unfold openFile at h
  simp only at h
  split at h
  · simp at h
  · split at h
    · next hfound => exact absurd hfound (hnone _ _)
    · next hfound => exact absurd hfound (hnone _ _)
    · split at h
      · split at h
        · simp at h
        · exact (Prod.mk.inj h).1.symm
      · simp at h
    · simp at h

/-- How a store is opened where nothing is: its directories are made, and then the file is opened
that the location names as an address. -/
theorem openStore_true_of_absent [Engine] (hproper : place.IsProper)
    (habsent : tree.node? place = none) {created : Bool}
    (h : tree.openStore place true = (later, created, .ok store)) :
    tree.has place = .ok false ∧ ∃ made file, tree.makeDirectories place.dropLast = (made, none) ∧
      Engine.fileOf place = .ok file ∧ made.openFile file = (later, .ok store) := by
  unfold openStore at h
  split at h
  · simp at h
  · next hpresent => exact absurd hpresent (has_ne_true_of_absent hproper habsent)
  · next hmissing =>
      refine ⟨hmissing, ?_⟩
      rw [if_pos rfl] at h
      split at h
      · next made hmade =>
          obtain ⟨hlater, -, hopen⟩ := by simpa only [Prod.mk.injEq] using h
          unfold openAddress at hlater hopen
          split at hopen
          · next file hfile =>
              rw [hfile] at hlater
              exact ⟨made, file, hmade, hfile, Prod.ext hlater hopen⟩
          · contradiction
      · simp at h

/-! ## Sessions that fail -/

/-- A session whose work fails leaves the tree as it was when the store had been opened. -/
theorem exists_openStore_of_session [Engine] {create : Bool} {work : OpenStore → Transaction ε α}
    {e : ε} (h : tree.session place create work = (later, .error (.work e))) :
    ∃ created store, tree.openStore place create = (later, created, .ok store) := by
  unfold session at h
  split at h
  · simp at h
  · next opened created store hopen =>
      split at h
      · simp at h
      · obtain ⟨rfl, -⟩ := Prod.mk.inj h
        exact ⟨created, store, hopen⟩

theorem session_of_openStore_error [Engine] {create created : Bool} {problem : OpenError}
    (h : tree.openStore place create = (later, created, .error problem))
    (work : OpenStore → Transaction ε α) :
    tree.session place create work = (later, .error (.opening problem)) := by
  rw [session, h]

theorem node?_of_makeDirectories_dropLast {made : FileTree} (habsent : tree.node? place = none)
    (h : tree.makeDirectories place.dropLast = (made, none)) : made.node? place = none := by
  have hne : place ≠ [] := by
    rintro rfl
    contradiction
  have hlength : place.dropLast.length < place.length := by
    rw [List.length_dropLast]
    exact Nat.sub_lt (List.length_pos_iff.mpr hne) Nat.one_pos
  have hsame : (tree.makeDirectories place.dropLast).1.node? place = tree.node? place :=
    node?_makeDirectories hlength
  rwa [h, habsent] at hsame

/-- Where nothing was, a session that may create a store and whose work fails leaves a store without
any rows. Only if the location, taken as an address, names another file is there still nothing at
the location itself. -/
theorem failed_first_session [Engine] [Engine.Lawful] (hproper : place.IsProper)
    (habsent : tree.node? place = none) {work : OpenStore → Transaction ε α} {e : ε}
    (hfails : tree.session place true work = (later, .error (.work e))) :
    tree.openStore place false = (tree, false, .error (.notFound place)) ∧
      ∃ file, Engine.fileOf place = .ok file ∧
        (file = place → ∀ create,
          later.openStore place create = (later, false, .ok ⟨later, place, .empty⟩)) ∧
        (file ≠ place → ∃ problem, later.openStore place false = (later, false, .error problem) ∧
          (place.IsAccepted → problem = .notFound place)) := by
  obtain ⟨created, store, hopen⟩ := exists_openStore_of_session hfails
  obtain ⟨hmissing, made, file, hmade, hfile, hopenFile⟩ :=
    openStore_true_of_absent hproper habsent hopen
  have hmadeAbsent := node?_of_makeDirectories_dropLast habsent hmade
  have hfileProper := Engine.Lawful.isProper_of_fileOf hfile
  refine ⟨?_, file, hfile, ?_, ?_⟩
  · unfold openStore
    rw [hmissing]
    rfl
  · rintro rfl create
    obtain ⟨rfl, hadmits⟩ := openFile_of_absent hfileProper hmadeAbsent hopenFile
    have hpresent : (made.put file (.store .empty)).has file = .ok true := by
      rw [has, hadmits.found]
    have hnames : (made.put file (.store .empty)).Names file file :=
      ⟨hpresent, hfile, hadmits.put .empty⟩
    rw [hnames.openStore_eq, hadmits.openFile_put]
  · intro hne
    -- The store has been put at the other location, if it was put at all.
    obtain ⟨rfl, rfl, -, htree⟩ := openFile_eq_ok hfileProper hopenFile
    have hstill : store.tree.node? place = none := by
      rcases htree with htree | htree
      · rwa [htree]
      · rwa [htree, node?_put_of_ne hne.symm]
    exact openStore_false_of_absent hproper hstill

/-! ## Loads that fail -/

/-- Whatever the reason for which the first load into a store fails, the store is there afterwards
and has no rows, while before the load there was none to be found. If the location, taken as an
address, names another file, there is still nothing at the location itself. -/
theorem failed_first_load [Limits] [Engine] [Engine.Lawful] (hproper : place.IsProper)
    (habsent : tree.node? place = none) {working : Location} {path : Text} {e : LoadError}
    (hfails : tree.session place true (fun store => Transaction.load store.tree working path) =
      (later, .error (.work e))) :
    (∀ work : OpenStore → Transaction ε α,
        tree.session place false work = (tree, .error (.opening (.notFound place)))) ∧
      ∃ file, Engine.fileOf place = .ok file ∧
        (file = place → later.rows? place = some .empty ∧
          ∀ create, later.openStore place create = (later, false, .ok ⟨later, place, .empty⟩)) ∧
        (file ≠ place → ∃ problem, (place.IsAccepted → problem = .notFound place) ∧
          ∀ work : OpenStore → Transaction ε α,
            later.session place false work = (later, .error (.opening problem))) := by
  obtain ⟨hbefore, file, hfile, hhere, helsewhere⟩ :=
    failed_first_session hproper habsent hfails
  refine ⟨session_of_openStore_error hbefore, file, hfile, fun heq => ?_, fun hne => ?_⟩
  · refine ⟨?_, hhere heq⟩
    rw [rows?_eq, hhere heq]
    rfl
  · obtain ⟨problem, hproblem, haccepted⟩ := helsewhere hne
    exact ⟨problem, haccepted, session_of_openStore_error hproblem⟩

end FileTree

namespace Sample

/-- A file that holds an empty list, which is no snapshot. -/
def listTree : FileTree := ⟨[(["s"], .file [0x5B, 0x5D])]⟩

/-- The file of a store in a directory that is not there. -/
def unmade : Location := ["data", "d"]

/-- The tree after the list has been loaded into this store. -/
def attempted : FileTree :=
  (listTree.session unmade true fun store => Transaction.load store.tree [] "s").1

theorem session_listTree :
    listTree.session unmade true (fun store => Transaction.load store.tree [] "s") =
      (attempted, .error (.work (.read (.invalid .notObject)))) := rfl

theorem has_attempted : attempted.has unmade = .ok true := rfl

end Sample

namespace FileTree

open Sample in
/-- The list leaves an empty store and its directory behind. -/
theorem failed_first_load_of_list :
    listTree.session unmade false (fun _ => (get : Transaction Unit Database)) =
        (listTree, .error (.opening (.notFound unmade))) ∧
      attempted.rows? unmade = some .empty := by
  have hproper : unmade.IsProper := by
    unfold Location.IsProper FilePath.IsProper
    decide
  obtain ⟨hbefore, file, hfile, hhere, -⟩ := failed_first_load hproper rfl session_listTree
  have hsame : file = unmade := (Except.ok.inj (hfile.symm.trans rfl))
  exact ⟨hbefore _, (hhere hsame).1⟩

open Sample in
/-- A store is not absent again after a first load that has failed. -/
theorem not_absent_after_failed_load :
    ¬ ∀ (tree later : FileTree) (place working : Location) (path : Text) (e : LoadError),
      tree.has place = .ok false →
      tree.session place true (fun store => Transaction.load store.tree working path) =
        (later, .error (.work e)) →
      later.has place = .ok false ∧ ∀ work : OpenStore → Transaction Unit Database,
        later.session place false work = (later, .error (.opening (.notFound place))) := by
  intro h
  have habsent := (h listTree attempted unmade [] "s" _ rfl session_listTree).1
  rw [has_attempted] at habsent
  exact absurd (Except.ok.inj habsent) nofun

end FileTree

end ContentQuery
