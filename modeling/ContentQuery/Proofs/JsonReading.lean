import ContentQuery.Proofs.JsonText
import ContentQuery.Proofs.Steps

/-!
# ContentQuery.Proofs.JsonReading

What reading gives can be written and read again. Text that comes from octets has no surrogates of
its own, so the halves of a pair can only meet as escapes, and those are joined; repeated names are
dropped, and long integers and deep nesting are refused.
-/

namespace ContentQuery

/-- Whether a text has a form in octets: it has no surrogate. -/
def Text.IsWellFormed (s : Text) : Prop := ∀ c ∈ s, c.isSurrogate = false

instance (s : Text) : Decidable s.IsWellFormed := List.decidableBAll _ s

/-- What is left of a text without halves of characters has none. -/
theorem Text.IsWellFormed.of_suffix {s rest : Text} (h : s.IsWellFormed) (hrest : rest <:+ s) :
    rest.IsWellFormed := fun c hc => h c (hrest.subset hc)

theorem CodePoint.isSurrogate_of_isHighSurrogate {c : CodePoint} (h : c.isHighSurrogate = true) :
    c.isSurrogate = true := by
  simp only [isHighSurrogate, isSurrogate, Bool.and_eq_true, decide_eq_true_eq] at *
  omega

theorem CodePoint.isSurrogate_of_isLowSurrogate {c : CodePoint} (h : c.isLowSurrogate = true) :
    c.isSurrogate = true := by
  simp only [isLowSurrogate, isSurrogate, Bool.and_eq_true, decide_eq_true_eq] at *
  omega

namespace Json

/-! ## Strings -/

/-- Whether the code points that stand for themselves in a literal are no surrogates. -/
def ArePlain (pieces : List Piece) : Prop := ∀ c, .plain c ∈ pieces → c.isSurrogate = false

/-- No short escape stands for half of a character. -/
theorem not_isSurrogate_of_shortEscape? {e c : CodePoint} (h : shortEscape? e = some c) :
    c.isSurrogate = false := by
  unfold shortEscape? at h
  repeat' split at h
  case isTrue hc =>
    rw [← Option.some.inj h]
    simp only [Bool.or_eq_true, decide_eq_true_eq] at hc
    rcases hc with (rfl | rfl) | rfl <;> rfl
  all_goals first
    | contradiction
    | (rw [← Option.some.inj h]; rfl)

/-- A character that is no half may be put in front. -/
theorem ArePlain.cons_plain {c : CodePoint} {pieces : List Piece} (hc : c.isSurrogate = false)
    (h : ArePlain pieces) : ArePlain (.plain c :: pieces) := by
  intro d hd
  rcases List.mem_cons.mp hd with heq | hd
  · rw [Piece.plain.inj heq]
    exact hc
  · exact h d hd

/-- A unit may be put in front, whatever it is: only plain pieces are looked at. -/
theorem ArePlain.cons_unit (n : CodePoint) {pieces : List Piece} (h : ArePlain pieces) :
    ArePlain (.unit n :: pieces) := by
  intro d hd
  rcases List.mem_cons.mp hd with heq | hd
  · contradiction
  · exact h d hd

/-- Reading elements stops behind the closing quote. -/
theorem readPieces_suffix {done pieces : List Piece} {s rest : Text}
    (h : readPieces done s = .ok (pieces, rest)) : rest <:+ s := by
  fun_induction readPieces done s with
  | case2 done later =>
      rw [Except.ok.injEq, Prod.mk.injEq] at h
      obtain ⟨rfl, rfl⟩ := h
      exact List.suffix_cons _ _
  | case4 done c later hquote hcontrol hslash ih => exact (ih h).trans (List.suffix_cons c later)
  | case6 done c hquote hcontrol hslash x y z w later n hunit ih =>
      exact (ih h).trans (List.suffix_append [c, 'u', x, y, z, w] later)
  | case9 done c hquote hcontrol hslash e later hunit d hshort ih =>
      exact (ih h).trans (List.suffix_append [c, e] later)
  | _ => contradiction

/-- Plain elements come from the text. -/
theorem arePlain_of_readPieces {done pieces : List Piece} {s rest : Text} (hs : s.IsWellFormed)
    (hdone : ArePlain done) (h : readPieces done s = .ok (pieces, rest)) : ArePlain pieces := by
  fun_induction readPieces done s with
  | case2 done later =>
      rw [Except.ok.injEq, Prod.mk.injEq] at h
      obtain ⟨rfl, rfl⟩ := h
      exact fun c hc => hdone c (List.mem_reverse.mp hc)
  | case4 done c later hquote hcontrol hslash ih =>
      exact ih (hs.of_suffix (List.suffix_cons c later))
        (hdone.cons_plain (hs c List.mem_cons_self)) h
  | case6 done c hquote hcontrol hslash x y z w later n hunit ih =>
      exact ih (hs.of_suffix (List.suffix_append [c, 'u', x, y, z, w] later)) (hdone.cons_unit n) h
  | case9 done c hquote hcontrol hslash e later hunit d hshort ih =>
      exact ih (hs.of_suffix (List.suffix_append [c, e] later))
        (hdone.cons_plain (not_isSurrogate_of_shortEscape? hshort)) h
  | _ => contradiction

/-- Two halves make a character beyond those of one unit. -/
theorem val_joinSurrogates {high low : CodePoint} (hhigh : high.isHighSurrogate = true)
    (hlow : low.isLowSurrogate = true) : 0x10000 ≤ (joinSurrogates high low).val := by
  simp only [CodePoint.isHighSurrogate, CodePoint.isLowSurrogate, Bool.and_eq_true,
    decide_eq_true_eq] at hhigh hlow
  have hbound : 0x10000 + (high.val - 0xD800) * 0x400 + (low.val - 0xDC00) < 0x110000 := by omega
  rw [joinSurrogates, CodePoint.ofNat, dif_pos hbound]
  exact Nat.le_trans (Nat.le_add_right _ _) (Nat.le_add_right _ _)

/-- A text begins with a low surrogate only if its literal begins with one that stands alone. -/
theorem head?_joinPieces {pieces : List Piece} (hplain : ArePlain pieces) {low : CodePoint}
    (h : (joinPieces pieces).head? = some low) (hlow : low.isLowSurrogate = true) :
    ∃ later, pieces = .unit low :: later := by
  fun_induction joinPieces pieces with
  | case1 => contradiction
  | case2 high low' later hpair _ =>
      rw [Bool.and_eq_true] at hpair
      have hval := val_joinSurrogates hpair.1 hpair.2
      rw [List.head?_cons, Option.some.injEq] at h
      rw [← h] at hlow
      simp only [CodePoint.isLowSurrogate, Bool.and_eq_true, decide_eq_true_eq] at hlow
      omega
  | case3 high low' later _ _ =>
      rw [List.head?_cons, Option.some.injEq] at h
      exact ⟨_, by rw [h]⟩
  | case4 n later _ _ =>
      rw [List.head?_cons, Option.some.injEq] at h
      exact ⟨_, by rw [h]⟩
  | case5 c later _ =>
      rw [List.head?_cons, Option.some.injEq] at h
      have hc := hplain c List.mem_cons_self
      rw [h, CodePoint.isSurrogate_of_isLowSurrogate hlow] at hc
      contradiction

/-- Where halves of a pair meet they are joined. -/
theorem isJoined_joinPieces {pieces : List Piece} (h : ArePlain pieces) :
    IsJoined (joinPieces pieces) := by
  have htail {piece : Piece} {later : List Piece} (h : ArePlain (piece :: later)) :
      ArePlain later := fun c hc => h c (List.mem_cons_of_mem _ hc)
  fun_induction joinPieces pieces with
  | case1 => exact .nil
  | case2 high low later hpair ih =>
      rw [Bool.and_eq_true] at hpair
      refine List.isChain_cons.mpr ⟨fun c hc hboth => ?_, ih (htail (htail h))⟩
      have hval := val_joinSurrogates hpair.1 hpair.2
      have hhigh := hboth.1
      simp only [CodePoint.isHighSurrogate, Bool.and_eq_true, decide_eq_true_eq] at hhigh
      omega
  | case3 high low later hpair ih =>
      refine List.isChain_cons.mpr ⟨fun c hc hboth => ?_, ih (htail h)⟩
      obtain ⟨later', heq⟩ := head?_joinPieces (htail h) hc hboth.2
      rw [Piece.unit.inj (List.cons.inj heq).1, Bool.and_eq_true] at hpair
      exact hpair hboth
  | case4 n later hnot ih =>
      refine List.isChain_cons.mpr ⟨fun c hc hboth => ?_, ih (htail h)⟩
      obtain ⟨later', heq⟩ := head?_joinPieces (htail h) hc hboth.2
      exact hnot c later' heq
  | case5 c later ih =>
      refine List.isChain_cons.mpr ⟨fun d hd hboth => ?_, ih (htail h)⟩
      have hc := h c List.mem_cons_self
      rw [CodePoint.isSurrogate_of_isHighSurrogate hboth.1] at hc
      contradiction

/-! ## Items and fields -/

/-- Items can be read back exactly if each of them can. -/
theorem itemsReadable_iff {dialect : Dialect} {items : List Json} :
    ItemsReadable dialect items ↔ ∀ item ∈ items, item.IsReadable dialect := by
  induction items with
  | nil => simp [ItemsReadable]
  | cons item rest ih => simp [ItemsReadable, ih]

/-- Fields can be read back exactly if each name is joined and each value can be read back. -/
theorem fieldsReadable_iff {dialect : Dialect} {fields : List (Text × Json)} :
    FieldsReadable dialect fields ↔
      ∀ field ∈ fields, IsJoined field.1 ∧ field.2.IsReadable dialect := by
  induction fields with
  | nil => simp [FieldsReadable]
  | cons field rest ih => simp [FieldsReadable, ih, and_assoc]

/-- Items fit into the room exactly if each of them does. -/
theorem itemsDepth_le_iff {items : List Json} {room : Nat} :
    itemsDepth items ≤ room ↔ ∀ item ∈ items, item.depth ≤ room := by
  induction items with
  | nil => simp [itemsDepth]
  | cons item rest ih => simp [itemsDepth, ih]

/-- Fields fit into the room exactly if the value of each of them does. -/
theorem fieldsDepth_le_iff {fields : List (Text × Json)} {room : Nat} :
    fieldsDepth fields ≤ room ↔ ∀ field ∈ fields, field.2.depth ≤ room := by
  induction fields with
  | nil => simp [fieldsDepth]
  | cons field rest ih => simp [fieldsDepth, ih]

/-! ## Steps of reading -/

/-- Whether a step of reading, from a text of a kind, takes a beginning of it and gives only values
of a kind. -/
def Yields {α : Type} (given : Text → Prop) (item : Read α) (good : α → Prop) : Prop :=
  ∀ s value rest, given s → item s = .ok (value, rest) → rest <:+ s ∧ good value

/-- Whether a kind of texts is kept when a beginning is taken off. -/
def IsKept (given : Text → Prop) : Prop := ∀ s rest, given s → rest <:+ s → given rest

theorem isKept_isWellFormed : IsKept Text.IsWellFormed := fun _ _ hs hrest => hs.of_suffix hrest

/-- A step that begins further on takes a beginning of the whole text. -/
theorem Yields.of_suffix {α : Type} {given : Text → Prop} {item : Read α} {good : α → Prop}
    (h : Yields given item good) (hgiven : IsKept given) {s later rest : Text} {value : α}
    (hs : given s) (hlater : later <:+ s) (hread : item later = .ok (value, rest)) :
    rest <:+ s ∧ good value := by
  obtain ⟨hrest, hgood⟩ := h later value rest (hgiven s later hs hlater) hread
  exact ⟨hrest.trans hlater, hgood⟩

/-- What is left behind a string is an end of the text. -/
theorem readString_suffix {s text rest : Text} (h : readString s = .ok (text, rest)) :
    rest <:+ s := by
  rw [readString, bind_eq_ok_iff] at h
  obtain ⟨⟨pieces, later⟩, hpieces, heq⟩ := h
  obtain ⟨rfl, rfl⟩ := Prod.mk.inj (Except.ok.inj heq)
  exact readPieces_suffix hpieces

/-- A string that is read from well-formed text is joined. -/
theorem readString_yields : Yields Text.IsWellFormed readString IsJoined := by
  intro s text rest hs h
  refine ⟨readString_suffix h, ?_⟩
  rw [readString, bind_eq_ok_iff] at h
  obtain ⟨⟨pieces, later⟩, hpieces, heq⟩ := h
  obtain ⟨rfl, rfl⟩ := Prod.mk.inj (Except.ok.inj heq)
  exact isJoined_joinPieces
    (arePlain_of_readPieces hs (fun c hc => absurd hc List.not_mem_nil) hpieces)

/-- Whether a value can be written and read again where there is room for so many arrays and objects
around each other. -/
def Fits (dialect : Dialect) (room : Nat) (value : Json) : Prop :=
  value.IsReadable dialect ∧ value.depth ≤ room

/-- A value that fits into some room fits into more. -/
theorem Fits.mono {dialect : Dialect} {room more : Nat} (hroom : room ≤ more) {value : Json}
    (h : value.Fits dialect room) : value.Fits dialect more :=
  ⟨h.1, h.2.trans hroom⟩

/-- An array fits where there is room for one more than its items need. -/
theorem fits_array_iff {dialect : Dialect} {room : Nat} {items : List Json} :
    (array items).Fits dialect (room + 1) ↔ ∀ item ∈ items, item.Fits dialect room := by
  simp only [Fits, IsReadable, depth, Nat.add_le_add_iff_right, itemsReadable_iff,
    itemsDepth_le_iff, forall_and]

/-- An object fits where there is room for one more than its fields need. -/
theorem fits_object_iff {dialect : Dialect} {room : Nat} {fields : List (Text × Json)} :
    (object fields).Fits dialect (room + 1) ↔ (fields.map (·.1)).Nodup ∧
      ∀ field ∈ fields, IsJoined field.1 ∧ field.2.Fits dialect room := by
  simp only [Fits, IsReadable, depth, Nat.add_le_add_iff_right, fieldsReadable_iff,
    fieldsDepth_le_iff, forall_and, and_assoc]

/-! ## Numbers -/

/-- The whole part of a number consists of digits, and an end of the text is left behind it. -/
theorem splitWhole_ok {s whole rest : Text} (h : splitWhole s = some (whole, rest)) :
    rest <:+ s ∧ ∀ c ∈ whole, c.isDigit = true := by
  cases s with
  | nil => contradiction
  | cons c s =>
      rw [splitWhole] at h
      split at h
      · next hzero =>
          simp only [Option.some.injEq, Prod.mk.injEq] at h
          rw [← h.1, ← h.2, hzero]
          exact ⟨List.suffix_cons _ _, fun d hd => by rw [List.mem_singleton.mp hd]; rfl⟩
      · split at h
        · next hdigit =>
            simp only [Option.some.injEq, Prod.mk.injEq] at h
            rw [← h.1, ← h.2]
            refine ⟨(List.dropWhile_suffix _).trans (List.suffix_cons _ _), ?_⟩
            intro d hd
            rcases List.mem_cons.mp hd with rfl | hd
            · exact hdigit
            · exact List.all_eq_true.mp List.all_takeWhile d hd
        · contradiction

/-- An end of the text is left behind a fraction. -/
theorem splitFraction_suffix (s : Text) : (splitFraction s).2 <:+ s := by
  cases s with
  | nil => exact List.suffix_rfl
  | cons c s =>
      rw [splitFraction]
      split
      · exact (List.dropWhile_suffix _).trans (List.suffix_cons _ _)
      · exact List.suffix_rfl

/-- An end of the text is left behind a sign. -/
theorem splitSign_suffix (s : Text) : (splitSign s).2 <:+ s := by
  cases s with
  | nil => exact List.suffix_rfl
  | cons c s =>
      rw [splitSign]
      split
      · exact List.suffix_cons _ _
      · split
        · exact List.suffix_cons _ _
        · exact List.suffix_rfl

/-- An end of the text is left behind an exponent. -/
theorem splitExponent_suffix (s : Text) : (splitExponent s).2 <:+ s := by
  cases s with
  | nil => exact List.suffix_rfl
  | cons c s =>
      rw [splitExponent]
      split
      · simp only
        split
        · exact List.suffix_rfl
        · exact ((List.dropWhile_suffix _).trans (splitSign_suffix s)).trans (List.suffix_cons _ _)
      · exact List.suffix_rfl

variable {dialect : Dialect}

/-- An integer that is read can be written and read again. -/
theorem fits_of_integer (hnames : dialect.nonFinite = true) {negative : Bool} {digits : Text}
    (hdigits : ∀ c ∈ digits, c.isDigit = true) {value : Json}
    (h : integer dialect negative digits = .ok value) :
    value.Fits dialect 0 := by
  rw [integer] at h
  split at h
  · next hlength =>
      rw [← Except.ok.inj h]
      refine ⟨?_, Nat.le_refl 0⟩
      have hlt := Text.digitsValue_lt hdigits
      have hle : 10 ^ digits.length ≤ 10 ^ maxDigits := Nat.pow_le_pow_right (by decide) hlength
      rw [IsReadable]
      split <;> omega
  · split at h
    · rw [← Except.ok.inj h]
      exact ⟨.inl hnames, Nat.le_refl 0⟩
    · contradiction

/-- Reading a number takes a beginning of the text. -/
theorem readUnsigned_suffix {negative : Bool} {s rest : Text} {value : Json}
    (h : readUnsigned dialect negative s = .ok (value, rest)) : rest <:+ s := by
  rw [readUnsigned] at h
  split at h
  · contradiction
  · next whole later hwhole =>
      have hsuffix : (splitExponent (splitFraction later).2).2 <:+ s :=
        ((splitExponent_suffix _).trans (splitFraction_suffix later)).trans (splitWhole_ok hwhole).1
      simp only at h
      split at h
      · obtain ⟨n, -, heq⟩ := map_eq_ok_iff.mp h
        exact (Prod.mk.inj heq).2 ▸ hsuffix
      · exact (Prod.mk.inj (Except.ok.inj h)).2 ▸ hsuffix

/-- A number whose sign has been read can be written and read again. -/
theorem readUnsigned_yields (hnames : dialect.nonFinite = true) (negative : Bool) :
    Yields Text.IsWellFormed (readUnsigned dialect negative) (Fits dialect 0) := by
  intro s value rest _ h
  refine ⟨readUnsigned_suffix h, ?_⟩
  rw [readUnsigned] at h
  split at h
  · contradiction
  · next whole later hwhole =>
      simp only at h
      split at h
      · obtain ⟨n, hinteger, heq⟩ := map_eq_ok_iff.mp h
        obtain ⟨rfl, -⟩ := Prod.mk.inj heq
        exact fits_of_integer hnames (splitWhole_ok hwhole).2 hinteger
      · obtain ⟨rfl, -⟩ := Prod.mk.inj (Except.ok.inj h)
        exact ⟨.inl hnames, Nat.le_refl 0⟩

/-- A number that is read can be written and read again. -/
theorem readNumber_yields (hnames : dialect.nonFinite = true) :
    Yields Text.IsWellFormed (readNumber dialect) (Fits dialect 0) := by
  intro s value rest hs h
  cases s with
  | nil => contradiction
  | cons c s =>
      rw [readNumber] at h
      split at h
      · exact (readUnsigned_yields hnames true).of_suffix isKept_isWellFormed hs
          (List.suffix_cons c s) h
      · exact readUnsigned_yields hnames false _ value rest hs h

/-! ## Values -/

/-- A value that has a name can be written and read again. -/
theorem fits_of_mem_names (hnames : dialect.nonFinite = true) {name : Text} {value : Json}
    (h : (name, value) ∈ names dialect) : value.Fits dialect 0 := by
  rw [names, if_pos hnames] at h
  simp only [plainNames, nonFiniteNames, List.cons_append, List.nil_append, List.mem_cons,
    List.not_mem_nil, or_false, Prod.mk.injEq] at h
  rcases h with ⟨-, rfl⟩ | ⟨-, rfl⟩ | ⟨-, rfl⟩ | ⟨-, rfl⟩ | ⟨-, rfl⟩ | ⟨-, rfl⟩ <;>
    simp [Fits, IsReadable, depth, hnames]

/-- A value that is no array and no object can be written and read again. -/
theorem readScalar_yields (hnames : dialect.nonFinite = true) :
    Yields Text.IsWellFormed (readScalar dialect) (Fits dialect 0) := by
  intro s value rest hs h
  cases s with
  | nil => contradiction
  | cons c s =>
      rw [readScalar] at h
      split at h
      · obtain ⟨⟨text, later⟩, hstring, heq⟩ := map_eq_ok_iff.mp h
        obtain ⟨rfl, rfl⟩ := Prod.mk.inj heq
        obtain ⟨hlater, hjoined⟩ := readString_yields.of_suffix isKept_isWellFormed hs
          (List.suffix_cons c s) hstring
        exact ⟨hlater, hjoined, Nat.le_refl 0⟩
      · split at h
        · next name value' hfind =>
            obtain ⟨rfl, rfl⟩ := Prod.mk.inj (Except.ok.inj h)
            exact ⟨List.drop_suffix _ _,
              fits_of_mem_names hnames (List.mem_of_find?_eq_some hfind)⟩
        · exact readNumber_yields hnames _ value rest hs h

/-! ## Arrays and objects -/

section Enclosed

variable {α : Type} {given : Text → Prop} {item : Read α} {good : α → Prop}

theorem skipSpace_suffix (s : Text) : skipSpace s <:+ s := List.dropWhile_suffix _

/-- What holds of each item that is read holds of all the items up to the closing mark. -/
theorem readItems_yields (hgiven : IsKept given) (hitem : Yields given item good)
    (close : CodePoint) (limit : Nat) :
    Yields given (readItems item close limit) fun values => ∀ value ∈ values, good value := by
  induction limit with
  | zero =>
      intro s values rest _ h
      contradiction
  | succ limit ih =>
      intro s values rest hs h
      rw [readItems, bind_eq_ok_iff] at h
      obtain ⟨⟨value, later⟩, hfirst, h⟩ := h
      obtain ⟨hlater, hgood⟩ := hitem s value later hs hfirst
      have hskip := (skipSpace_suffix later).trans hlater
      simp only at h
      split at h
      · contradiction
      · next c next hnext =>
          rw [hnext] at hskip
          have hsuffix : next <:+ s := (List.suffix_cons c next).trans hskip
          split at h
          · obtain ⟨rfl, rfl⟩ := Prod.mk.inj (Except.ok.inj h)
            exact ⟨hsuffix, fun v hv => by rw [List.mem_singleton.mp hv]; exact hgood⟩
          · split at h
            · obtain ⟨⟨values', rest'⟩, hrest, h⟩ := bind_eq_ok_iff.mp h
              obtain ⟨rfl, rfl⟩ := Prod.mk.inj (Except.ok.inj h)
              obtain ⟨hrest', hall⟩ :=
                ih.of_suffix hgiven hs ((skipSpace_suffix next).trans hsuffix) hrest
              exact ⟨hrest', List.forall_mem_cons.mpr ⟨hgood, hall⟩⟩
            · contradiction

/-- What holds of each item that is read holds of all the items between two marks. -/
theorem readEnclosed_yields (hgiven : IsKept given) (hitem : Yields given item good)
    (close : CodePoint) :
    Yields given (readEnclosed item close) fun values => ∀ value ∈ values, good value := by
  intro s values rest hs h
  have hskip := skipSpace_suffix s
  rw [readEnclosed] at h
  split at h
  · contradiction
  · next c later hlater =>
      rw [hlater] at hskip
      split at h
      · obtain ⟨rfl, rfl⟩ := Prod.mk.inj (Except.ok.inj h)
        exact ⟨(List.suffix_cons c later).trans hskip, List.forall_mem_nil _⟩
      · exact (readItems_yields hgiven hitem close _).of_suffix hgiven hs hskip h

/-- What holds of names and of values that are read holds of the two sides of a field. -/
theorem readField_yields {goodName : Text → Prop} (hgiven : IsKept given)
    (hname : Yields given readString goodName) (hitem : Yields given item good) :
    Yields given (readField item) fun field => goodName field.1 ∧ good field.2 := by
  intro s field rest hs h
  cases s with
  | nil => contradiction
  | cons c s =>
      rw [readField] at h
      split at h
      · obtain ⟨⟨name, later⟩, hread, h⟩ := bind_eq_ok_iff.mp h
        obtain ⟨hlater, hgoodName⟩ := hname.of_suffix hgiven hs (List.suffix_cons c s) hread
        have hskip := (skipSpace_suffix later).trans hlater
        simp only at h
        split at h
        · contradiction
        · next d next hnext =>
            rw [hnext] at hskip
            have hbegin := (skipSpace_suffix next).trans ((List.suffix_cons d next).trans hskip)
            split at h
            · obtain ⟨⟨v, rest'⟩, hv, h⟩ := bind_eq_ok_iff.mp h
              obtain ⟨rfl, rfl⟩ := Prod.mk.inj (Except.ok.inj h)
              obtain ⟨hrest', hgood⟩ := hitem.of_suffix hgiven hs hbegin hv
              exact ⟨hrest', hgoodName, hgood⟩
            · contradiction
      · contradiction

end Enclosed

/-- A value that has been read can be written and read again, and is nested within the bound. -/
theorem readValue_yields (hnames : dialect.nonFinite = true) (room : Nat) :
    Yields Text.IsWellFormed (readValue dialect room) (Fits dialect room) := by
  have hscalar (room : Nat) :
      Yields Text.IsWellFormed (readScalar dialect) (Fits dialect room) := by
    intro s value rest hs h
    obtain ⟨hrest, hfits⟩ := readScalar_yields hnames s value rest hs h
    exact ⟨hrest, hfits.mono (Nat.zero_le room)⟩
  induction room with
  | zero =>
      intro s value rest hs h
      cases s with
      | nil => contradiction
      | cons c s =>
          rw [readValue] at h
          split at h
          · contradiction
          · exact hscalar 0 _ value rest hs h
  | succ room ih =>
      intro s value rest hs h
      cases s with
      | nil => contradiction
      | cons c s =>
          have hsuffix := List.suffix_cons c s
          rw [readValue] at h
          split at h
          · obtain ⟨⟨items, later⟩, hitems, heq⟩ := map_eq_ok_iff.mp h
            obtain ⟨rfl, rfl⟩ := Prod.mk.inj heq
            obtain ⟨hlater, hall⟩ := (readEnclosed_yields isKept_isWellFormed ih ']').of_suffix
              isKept_isWellFormed hs hsuffix hitems
            exact ⟨hlater, fits_array_iff.mpr hall⟩
          · split at h
            · obtain ⟨⟨fields, later⟩, hfields, heq⟩ := map_eq_ok_iff.mp h
              obtain ⟨rfl, rfl⟩ := Prod.mk.inj heq
              obtain ⟨hlater, hall⟩ :=
                (readEnclosed_yields isKept_isWellFormed
                  (readField_yields isKept_isWellFormed readString_yields ih) '}').of_suffix
                  isKept_isWellFormed hs hsuffix hfields
              refine ⟨hlater, fits_object_iff.mpr ⟨nodup_names_distinctFields fields, ?_⟩⟩
              exact fun field hfield => hall field (mem_of_mem_distinctFields hfield)
            · exact hscalar (room + 1) _ value rest hs h

/-- What a whole text is read as can be written and read again. -/
theorem fits_of_read {room : Nat} (hnames : dialect.nonFinite = true) {s : Text}
    (hs : s.IsWellFormed) {value : Json}
    (h : read dialect room s = .ok value) : value.Fits dialect room := by
  rw [read, bind_eq_ok_iff] at h
  obtain ⟨⟨v, rest⟩, hvalue, h⟩ := h
  have hfits := ((readValue_yields hnames room).of_suffix isKept_isWellFormed hs
    (skipSpace_suffix s) hvalue).2
  simp only at h
  split at h
  · rwa [← Except.ok.inj h]
  · contradiction

end Json

end ContentQuery
