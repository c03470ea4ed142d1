import ContentQuery.Database.Engine.Usual
import ContentQuery.Proofs.EngineLaws

/-!
# ContentQuery.Proofs.UsualEngine

The library that the program keeps its stores with has the laws that are relied on.
-/

namespace ContentQuery

/-! ## Texts of numbers -/

namespace Binary64

open Text

/-- A numeral without an exponent has octets if its digits have. -/
theorem isWellFormed_positional {digits : Text} (h : digits.IsWellFormed) (before : Int) :
    (positional digits before).IsWellFormed := by
  unfold positional
  split
  · exact ((isWellFormed_ofString "0.").append (isWellFormed_zeros _)).append h
  · split
    · exact (h.append (isWellFormed_zeros _)).append (isWellFormed_ofString ".0")
    · exact ((h.subset (List.take_subset _ _)).append (isWellFormed_ofString ".")).append
        (h.subset (List.drop_subset _ _))

/-- So has a numeral with an exponent. -/
theorem isWellFormed_scientific {digits : Text} (h : digits.IsWellFormed) (power : Int) :
    (scientific digits power).IsWellFormed := by
  have hpower : (ofNatPadded 2 power.natAbs).IsWellFormed :=
    isWellFormed_of_digits fun _ => isDigit_of_mem_ofNatPadded
  unfold scientific
  refine (IsWellFormed.append ?_ (isWellFormed_ofString _)).append hpower
  split
  · exact h
  · exact h
  · obtain ⟨hfirst, hrest⟩ := List.forall_mem_cons.mp h
    exact List.forall_mem_cons.mpr ⟨hfirst,
      List.forall_mem_cons.mpr ⟨CodePoint.isSurrogate_ofChar '.', hrest⟩⟩

theorem isWellFormed_significantDigits (units : Nat) :
    (significantDigits units).1.IsWellFormed := by
  unfold significantDigits
  apply IsWellFormed.subset (isWellFormed_ofNat _)
  intro c hc
  exact List.mem_reverse.mp ((List.dropWhile_subset _) (List.mem_reverse.mp hc))

/-- The numeral of a number of units has octets. -/
theorem isWellFormed_textOfSignificant (units : Nat) : (textOfSignificant units).IsWellFormed := by
  have hdigits := isWellFormed_significantDigits units
  unfold textOfSignificant
  generalize significantDigits units = found at hdigits
  obtain ⟨digits, power⟩ := found
  simp only
  split
  · exact isWellFormed_positional hdigits _
  · refine isWellFormed_scientific ((hdigits.subset (List.take_subset _ _)).append ?_) power
    split
    · exact isWellFormed_ofString "0"
    · exact hdigits.of_suffix (List.tail_suffix digits)

/-- Whatever is kept of a number has octets. -/
theorem isWellFormed_of_columnText? {x : Binary64} {column : Text}
    (h : x.columnText? = some column) : column.IsWellFormed := by
  cases x with
  | finite negative exponent fraction =>
      unfold columnText? at h
      simp only at h
      split at h
      · rw [← Option.some.inj h]
        exact isWellFormed_ofString "0.0"
      · rw [← Option.some.inj h]
        refine IsWellFormed.append ?_ (isWellFormed_textOfSignificant _)
        split <;> exact isWellFormed_ofString _
  | infinite negative =>
      rw [← Option.some.inj h]
      split <;> exact isWellFormed_ofString _
  | nan => contradiction

end Binary64

/-! ## Files of addresses -/

/-- Whatever an address is, its file can be reached. -/
theorem Address.isProper_file {address : Address} {file : Location} (h : address.file = .ok file) :
    Location.IsProper file := by
  unfold Address.file at h
  simp only [bind_eq_ok_iff] at h
  obtain ⟨joined, -, h⟩ := h
  have hnames (path : Text) :
      Location.IsProper ((FilePath.parse path).names.foldl FilePath.step []) := by
    apply Location.isProper_foldl_step fun _ hname => absurd hname List.not_mem_nil
    intro name hname
    obtain ⟨hsplit, hname⟩ := List.mem_filter.mp hname
    exact ⟨hname, Text.not_mem_of_mem_splitOn hsplit⟩
  generalize (if joined = true then _ else _) = path at h
  split at h
  · contradiction
  · rw [← Except.ok.inj h]
    exact hnames path

/-! ## The laws -/

instance Engine.lawful_usual : Engine.Lawful where
  isWellFormed_of_columnText? := Binary64.isWellFormed_of_columnText?
  isProper_of_fileOf := Address.isProper_file
  maxPath_lt := by decide
  maxName_le := by decide

end ContentQuery
