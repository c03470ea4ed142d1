import ContentQuery.FileTree
import ContentQuery.Proofs.Steps

/-!
# ContentQuery.Proofs.Locations

Locations as paths, and what a path leads to once a file has been put into the tree: as long as no
directory gives way to it, every path still leads where it led.
-/

namespace ContentQuery

/-! ## Pieces of a text -/

namespace Text

variable {mark : CodePoint}

/-- A text without the mark is one piece. -/
theorem splitOn_eq_singleton {s : Text} (h : mark ∉ s) : splitOn mark s = [s] := by
  induction s with
  | nil => rfl
  | cons c s ih =>
      obtain ⟨hne, hrest⟩ := List.ne_and_not_mem_of_not_mem_cons h
      rw [splitOn, if_neg hne.symm, ih hrest]

/-- A part without the mark, and the mark behind it, are the first piece. -/
theorem splitOn_append_cons {part : Text} (h : mark ∉ part) (rest : Text) :
    splitOn mark (part ++ mark :: rest) = part :: splitOn mark rest := by
  induction part with
  | nil => exact if_pos rfl
  | cons c part ih =>
      obtain ⟨hne, hpart⟩ := List.ne_and_not_mem_of_not_mem_cons h
      rw [List.cons_append, splitOn, if_neg hne.symm, ih hpart]

/-- Parts that have been joined by a mark that is in none of them come apart again. -/
theorem splitOn_joinWith {parts : List Text} (hne : parts ≠ []) (h : ∀ part ∈ parts, mark ∉ part) :
    splitOn mark (joinWith [mark] parts) = parts := by
  induction parts with
  | nil => contradiction
  | cons part parts ih =>
      obtain ⟨hpart, hparts⟩ := List.forall_mem_cons.mp h
      cases parts with
      | nil => exact splitOn_eq_singleton hpart
      | cons next parts =>
          rw [joinWith, List.append_assoc, List.singleton_append, splitOn_append_cons hpart,
            ih (List.cons_ne_nil _ _) hparts]

/-- No piece holds the mark. -/
theorem not_mem_of_mem_splitOn {s piece : Text} (h : piece ∈ splitOn mark s) : mark ∉ piece := by
  induction s generalizing piece with
  | nil =>
      rw [List.mem_singleton.mp h]
      exact List.not_mem_nil
  | cons c s ih =>
      rw [splitOn] at h
      split at h
      · rcases List.mem_cons.mp h with rfl | h
        · exact List.not_mem_nil
        · exact ih h
      · next hne =>
          split at h
          · next first pieces hpieces =>
              rcases List.mem_cons.mp h with rfl | h
              · exact List.not_mem_cons_of_ne_of_not_mem (Ne.symm hne)
                  (ih (hpieces ▸ List.mem_cons_self))
              · exact ih (hpieces ▸ List.mem_cons_of_mem _ h)
          · next hnil => exact absurd hnil (splitOn_ne_nil mark s)

end Text

/-! ## Names -/

/-- Whether a name leads down from a directory to what has this name in it. -/
def FilePath.IsProper (name : Text) : Prop :=
  isName name = true ∧ name ≠ ".." ∧ ('/' : CodePoint) ∉ name

namespace Location

/-- Whether a location can be reached along its names. -/
def IsProper (place : Location) : Prop := ∀ name ∈ place, FilePath.IsProper name

/-- A location is written with a slash before each of its names. -/
theorem text_eq (place : Location) :
    place.text = ('/' : CodePoint) :: Text.joinWith [('/' : CodePoint)] place := rfl

/-- A proper location comes apart into its names, with nothing before the first slash. -/
theorem splitOn_text {place : Location} (h : IsProper place) (hne : place ≠ []) :
    Text.splitOn '/' place.text = [] :: place := by
  have hslash : ∀ name ∈ place, ('/' : CodePoint) ∉ name := fun name hname => (h name hname).2.2
  rw [text_eq, Text.splitOn, if_pos rfl, Text.splitOn_joinWith hne hslash]

/-- From a proper location, steps by proper names lead to a proper location. -/
theorem isProper_foldl_step {names : List Text} {place : Location} (hplace : IsProper place)
    (hnames : ∀ name ∈ names, FilePath.isName name = true ∧ ('/' : CodePoint) ∉ name) :
    IsProper (names.foldl FilePath.step place) := by
  induction names generalizing place with
  | nil => exact hplace
  | cons name names ih =>
      obtain ⟨hname, hnames⟩ := List.forall_mem_cons.mp hnames
      refine ih ?_ hnames
      unfold FilePath.step
      split
      · exact fun other hother => hplace other (List.dropLast_subset place hother)
      · next hdown =>
          exact List.forall_mem_append.mpr
            ⟨hplace, List.forall_mem_singleton.mpr ⟨hname.1, hdown, hname.2⟩⟩

end Location

namespace FileTree

variable {tree : FileTree} {place file : Location} {node : FileNode}

/-! ## What stands at a location -/

/-- What is put in a place is there. -/
theorem node?_put_self (hne : place ≠ []) : (tree.put place node).node? place = some node := by
  simp [node?, hne, put]

/-- Putting something in one place changes no other. -/
theorem node?_put_of_ne (hne : place ≠ file) :
    (tree.put file node).node? place = tree.node? place := by
  unfold node? put
  split
  · rfl
  · rw [List.find?_cons_of_neg (by simpa using hne.symm), List.find?_filter]
    congr 2
    funext entry
    by_cases heq : entry.1 = place
    · simp [heq, hne]
    · simp [heq]

/-- What was put in a place earlier makes no difference. -/
theorem put_put (earlier later : FileNode) :
    (tree.put place earlier).put place later = tree.put place later := by
  simp [put, List.filter_filter]

theorem ne_nil_of_node?_ne (hfile : tree.node? file ≠ some .directory) : file ≠ [] := by
  rintro rfl
  exact hfile rfl

/-- A place is not vacated by putting something where there was no directory. -/
theorem node?_put_ne_none (hfile : tree.node? file ≠ some .directory)
    (h : tree.node? place ≠ none) : (tree.put file node).node? place ≠ none := by
  by_cases heq : place = file
  · subst heq
    rw [node?_put_self (ne_nil_of_node?_ne hfile)]
    exact Option.some_ne_none node
  · rwa [node?_put_of_ne heq]

/-! ## Going along a path -/

/-- A walk along two lists of names is a walk along the first and on from there along the second. -/
theorem walk_append (names later : List Text) :
    tree.walk place (names ++ later) =
      (tree.walk place names >>= fun next => tree.walk next later) := by
  induction names generalizing place with
  | nil => rfl
  | cons name names ih =>
      rw [List.cons_append, walk, walk]
      split
      · simp only [ih]
        repeat' split
        all_goals rfl
      · rfl
      · rfl

/-- Where a name leads from a directory. -/
inductive Leads (tree : FileTree) (place : Location) : Text → Location → Prop where
  | stay {name : Text} : FilePath.isName name = false → Leads tree place name place
  | up : Leads tree place ".." place.dropLast
  | down {name : Text} : FilePath.isName name = true → name ≠ ".." → octetLength name ≤ maxName →
      tree.node? (place ++ [name]) ≠ none → Leads tree place name (place ++ [name])

/-- Going along names is to be led by each of them, from one directory to the next. -/
theorem walk_cons_eq_ok_iff {name : Text} {names : List Text} {last : Location} :
    tree.walk place (name :: names) = .ok last ↔ tree.node? place = some .directory ∧
      ∃ next, tree.Leads place name next ∧ tree.walk next names = .ok last := by
  rw [walk]
  constructor
  · intro h
    split at h
    · next hdirectory =>
        refine ⟨hdirectory, ?_⟩
        split at h
        · next hname => exact ⟨place, .stay (by simpa using hname), h⟩
        · next hname =>
            split at h
            · next hup => exact ⟨place.dropLast, hup ▸ .up, h⟩
            · next hdown =>
                split at h
                · contradiction
                · next hshort =>
                    split at h
                    · contradiction
                    · next hsome =>
                        rw [Option.isNone_iff_eq_none] at hsome
                        exact ⟨_, .down (by simpa using hname) hdown (Nat.not_lt.mp hshort) hsome,
                          h⟩
    · contradiction
    · contradiction
  · rintro ⟨hdirectory, next, hleads, h⟩
    rw [hdirectory]
    cases hleads with
    | stay hname => simpa [hname] using h
    | up => exact h
    | down hname hdown hshort hsome =>
        simpa [hname, hdown, Nat.not_lt.mpr hshort, hsome] using h

/-- A proper name leads to the place of that name in the directory. -/
theorem Leads.eq_of_isProper {name : Text} (hname : FilePath.IsProper name) {next : Location}
    (h : tree.Leads place name next) : next = place ++ [name] := by
  cases h with
  | stay hblank => exact absurd (hname.1.symm.trans hblank) (by decide)
  | up => exact absurd rfl hname.2.1
  | down => rfl

/-- A walk along proper names ends at the place that they spell. -/
theorem eq_of_walk {names : List Text} {last : Location} (hnames : Location.IsProper names)
    (h : tree.walk place names = .ok last) : last = place ++ names := by
  induction names generalizing place with
  | nil => rw [List.append_nil, Except.ok.inj h]
  | cons name names ih =>
      obtain ⟨hname, hnames⟩ := List.forall_mem_cons.mp hnames
      obtain ⟨-, next, hleads, h⟩ := walk_cons_eq_ok_iff.mp h
      rw [ih hnames h, hleads.eq_of_isProper hname, List.append_assoc, List.singleton_append]

/-- A step leads to the same place after something has been put where there was no directory. -/
theorem Leads.put (hfile : tree.node? file ≠ some .directory) {name : Text} {next : Location}
    (h : tree.Leads place name next) : (tree.put file node).Leads place name next := by
  cases h with
  | stay hblank => exact .stay hblank
  | up => exact .up
  | down hname hdown hshort hsome =>
      exact .down hname hdown hshort (node?_put_ne_none hfile hsome)

/-- Where a file is put, and no directory was, names lead where they led. -/
theorem walk_put (hfile : tree.node? file ≠ some .directory) {names : List Text} {last : Location}
    (h : tree.walk place names = .ok last) : (tree.put file node).walk place names = .ok last := by
  induction names generalizing place with
  | nil => exact h
  | cons name names ih =>
      obtain ⟨hdirectory, next, hleads, h⟩ := walk_cons_eq_ok_iff.mp h
      have hne : place ≠ file := by
        rintro rfl
        exact hfile hdirectory
      rw [← node?_put_of_ne hne] at hdirectory
      exact walk_cons_eq_ok_iff.mpr ⟨hdirectory, next, hleads.put hfile, ih h⟩

/-! ## What a path leads to -/

/-- Where a path starts. -/
def origin (working : Location) (path : Text) : Location :=
  if path.head? = some ('/' : CodePoint) then [] else working

/-- What stands at a location, with the location. -/
def found (tree : FileTree) (place : Location) : Except FileProblem (Location × FileNode) :=
  match tree.node? place with
  | some node => .ok (place, node)
  | none => .error .missing

/-- A place is found with what is there, if anything is. -/
theorem found_eq_ok_iff {last : Location} :
    tree.found place = .ok (last, node) ↔ last = place ∧ tree.node? place = some node := by
  unfold found
  split
  · next other hother => simp [hother, eq_comm]
  · next hnone => simp [hnone]

/-- A path that is not empty and not too long is looked up by a walk along its pieces. -/
theorem lookUp_eq {path : Text} (hne : path ≠ []) (hshort : octetLength path < maxPath)
    (working : Location) : tree.lookUp working path =
      (tree.walk (origin working path) (Text.splitOn '/' path) >>= tree.found) := by
  unfold lookUp
  simp only [hne, Nat.not_le.mpr hshort, if_false]
  rfl

/-- A path leads to something exactly if it is neither empty nor too long, the walk along its pieces
goes through, and something is at its end. -/
theorem lookUp_eq_ok_iff {working : Location} {path : Text} {last : Location} :
    tree.lookUp working path = .ok (last, node) ↔ path ≠ [] ∧ octetLength path < maxPath ∧
      tree.walk (origin working path) (Text.splitOn '/' path) = .ok last ∧
      tree.node? last = some node := by
  by_cases hne : path = []
  · rw [hne]
    simp [lookUp, throw, throwThe, MonadExceptOf.throw, bind, Except.bind]
  by_cases hshort : octetLength path < maxPath
  · rw [lookUp_eq hne hshort]
    simp only [bind_eq_ok_iff, found_eq_ok_iff, ne_eq, hne, hshort, not_false_eq_true, true_and]
    constructor
    · rintro ⟨place, hwalk, rfl, hnode⟩
      exact ⟨hwalk, hnode⟩
    · exact fun ⟨hwalk, hnode⟩ => ⟨last, hwalk, rfl, hnode⟩
  · have hlong := Nat.not_lt.mp hshort
    simp [lookUp, hne, hlong, hshort, throw, throwThe, MonadExceptOf.throw, bind, Except.bind]

/-- Where a file is put, and no directory was, a path leads where it led. -/
theorem lookUp_put (hfile : tree.node? file ≠ some .directory) {other : FileNode}
    {working : Location} {path : Text} {last : Location}
    (h : tree.lookUp working path = .ok (last, other)) (node : FileNode) :
    ∃ found, (tree.put file node).lookUp working path = .ok (last, found) := by
  obtain ⟨hne, hshort, hwalk, hnode⟩ := lookUp_eq_ok_iff.mp h
  have hkept : (tree.put file node).node? last ≠ none := by
    apply node?_put_ne_none hfile
    rw [hnode]
    exact Option.some_ne_none other
  obtain ⟨found, hfound⟩ := Option.ne_none_iff_exists'.mp hkept
  exact ⟨found, lookUp_eq_ok_iff.mpr ⟨hne, hshort, walk_put hfile hwalk, hfound⟩⟩

/-- Whatever is there stays there when a file is put where no directory was. -/
theorem has_put (hfile : tree.node? file ≠ some .directory) (h : tree.has place = .ok true) :
    (tree.put file node).has place = .ok true := by
  unfold has at h ⊢
  split at h
  · next entry hentry =>
      obtain ⟨found, hfound⟩ := lookUp_put hfile hentry node
      rw [hfound]
  · contradiction
  · exact absurd (Except.ok.inj h) Bool.false_ne_true

/-! ## What the path of a location leads to -/

/-- The walk along the text of a proper location is the one along its names. -/
theorem walk_splitOn_text (hplace : Location.IsProper place) :
    tree.walk [] (Text.splitOn '/' place.text) = tree.walk [] place := by
  cases place with
  | nil => rfl
  | cons name names =>
      rw [Location.splitOn_text hplace (List.cons_ne_nil _ _)]
      rfl

/-- The text of a proper location leads to this location, if it is not too long and the walk to it
goes through. -/
theorem lookUp_text_eq_ok_iff (hplace : Location.IsProper place) {last : Location} :
    tree.lookUp [] place.text = .ok (last, node) ↔ octetLength place.text < maxPath ∧
      tree.walk [] place = .ok last ∧ last = place ∧ tree.node? place = some node := by
  have hne : place.text ≠ [] := List.cons_ne_nil _ _
  have horigin : origin [] place.text = [] := if_pos rfl
  rw [lookUp_eq_ok_iff, horigin, walk_splitOn_text hplace]
  constructor
  · rintro ⟨-, hshort, hwalk, hnode⟩
    have hlast := eq_of_walk hplace hwalk
    rw [List.nil_append] at hlast
    exact ⟨hshort, hwalk, hlast, hlast ▸ hnode⟩
  · rintro ⟨hshort, hwalk, rfl, hnode⟩
    exact ⟨hne, hshort, hwalk, hnode⟩

/-- What has a proper name in a directory is found. -/
theorem lookUp_text_concat {parent : Location} {name : Text}
    (hproper : Location.IsProper (parent ++ [name]))
    (hshort : octetLength (Location.text (parent ++ [name])) < maxPath)
    (hlength : octetLength name ≤ maxName) (hwalk : tree.walk [] parent = .ok parent)
    (hparent : tree.node? parent = some .directory)
    (hnode : tree.node? (parent ++ [name]) = some node) :
    tree.lookUp [] (Location.text (parent ++ [name])) = .ok (parent ++ [name], node) := by
  obtain ⟨hname, hdown, -⟩ := hproper name (List.mem_append_right _ List.mem_cons_self)
  have hleads : tree.Leads parent name (parent ++ [name]) :=
    .down hname hdown hlength (hnode ▸ Option.some_ne_none node)
  have hlast : tree.walk parent [name] = .ok (parent ++ [name]) :=
    walk_cons_eq_ok_iff.mpr ⟨hparent, _, hleads, rfl⟩
  rw [lookUp_text_eq_ok_iff hproper, walk_append, hwalk]
  exact ⟨hshort, hlast, rfl, hnode⟩

end FileTree

end ContentQuery
