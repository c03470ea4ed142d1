import ContentQuery.Proofs.ColumnText
import ContentQuery.Proofs.Locations

/-!
# ContentQuery.Proofs.EngineLaws

What is relied on of the library that keeps stores in files, whichever release of it there is.
-/

namespace ContentQuery

/-- The laws of a library that keeps stores. -/
class Engine.Lawful [Engine] : Prop where
  /-- What a column keeps of a number has octets. -/
  isWellFormed_of_columnText? {x : Binary64} {column : Text} :
    Engine.columnText? x = some column → column.IsWellFormed
  /-- The file that an address names has a location that is resolved. -/
  isProper_of_fileOf {place file : Location} : Engine.fileOf place = .ok file → file.IsProper
  /-- Paths that are too long for the file system are too long for a store. -/
  maxPath_lt : Engine.maxPath < FileTree.maxPath
  /-- Names that are too long for the file system are too long for a store. -/
  maxName_le : Engine.maxName ≤ FileTree.maxName

/-- Whatever a column keeps of an id has octets. -/
theorem Database.isWellFormed_of_columnId [Engine] [Engine.Lawful] {id : Json} {column : Text}
    (h : columnId id = .ok (some column)) : column.IsWellFormed := by
  cases id with
  | string s =>
      obtain ⟨found, hfound, hcolumn⟩ := map_eq_ok_iff.mp h
      obtain ⟨rfl, hoctets⟩ := columnText_eq_ok_iff.mp hfound
      rwa [← Option.some.inj hcolumn]
  | bool b =>
      rw [← Option.some.inj (Except.ok.inj h)]
      split <;> exact Text.isWellFormed_ofString _
  | int n =>
      unfold columnId at h
      simp only at h
      split at h
      · rw [← Option.some.inj (Except.ok.inj h)]
        exact Text.isWellFormed_ofInt n
      · contradiction
  | float x => exact Engine.Lawful.isWellFormed_of_columnText? (Except.ok.inj h)
  | null =>
      have hnone := Except.ok.inj h
      contradiction
  | array items => contradiction
  | object fields => contradiction

end ContentQuery
