import ContentQuery.Payload
import ContentQuery.Proofs.Fields
import ContentQuery.Proofs.NumberText
import ContentQuery.Proofs.StringText

/-!
# ContentQuery.Proofs.JsonText

JSON values written and read again, in every layout: a value comes back if its numbers and strings
do, its names are distinct and it is not nested beyond the bound.
-/

namespace ContentQuery.Json

/-! ## Values that come back -/

mutual

/-- Whether a value can be written so that it is read as what it was: integers have not too many
digits, numbers without a name are finite, no text holds the halves of a pair, and no name of an
object repeats. -/
def IsReadable (dialect : Dialect) : Json → Prop
  | null => True
  | bool _ => True
  | int n => n.natAbs < 10 ^ maxDigits
  | float x => dialect.nonFinite = true ∨ x.isFinite = true
  | string s => IsJoined s
  | array items => ItemsReadable dialect items
  | object fields => (fields.map (·.1)).Nodup ∧ FieldsReadable dialect fields

/-- Whether all items can be written and read. -/
def ItemsReadable (dialect : Dialect) : List Json → Prop
  | [] => True
  | item :: rest => IsReadable dialect item ∧ ItemsReadable dialect rest

/-- Whether all names and values of fields can be written and read. -/
def FieldsReadable (dialect : Dialect) : List (Text × Json) → Prop
  | [] => True
  | (name, value) :: rest =>
    IsJoined name ∧ IsReadable dialect value ∧ FieldsReadable dialect rest

end

/-! ## White space -/

/-- Whether a text is white space. -/
def IsSpaces (s : Text) : Prop := ∀ c ∈ s, isSpace c = true

/-- Whether a text begins like a value or a name: not with white space or a closing mark. -/
def BeginsValue (s : Text) : Prop :=
  ∃ c rest, s = c :: rest ∧ isSpace c = false ∧ c ≠ ']' ∧ c ≠ '}'

theorem skipSpace_append {spaces : Text} (h : IsSpaces spaces) {c : CodePoint}
    (hc : isSpace c = false) (rest : Text) : skipSpace (spaces ++ c :: rest) = c :: rest := by
  rw [skipSpace, List.dropWhile_append_of_pos h, List.dropWhile_cons_of_neg (by rw [hc]; decide)]

theorem skipSpace_cons {c : CodePoint} (hc : isSpace c = false) (rest : Text) :
    skipSpace (c :: rest) = c :: rest :=
  skipSpace_append (fun _ hspace => absurd hspace List.not_mem_nil) hc rest

theorem isSpaces_newline (style : Style) (level : Nat) : IsSpaces (style.newline level) := by
  intro c hc
  rw [Style.newline] at hc
  split at hc
  · contradiction
  · rcases List.mem_cons.mp hc with rfl | hc
    · rfl
    · rw [List.eq_of_mem_replicate hc]
      rfl

theorem isSpaces_space : IsSpaces [(' ' : CodePoint)] := by
  intro c hc
  rw [List.mem_singleton.mp hc]
  rfl

theorem exists_separator_eq (style : Style) (level : Nat) :
    ∃ spaces, style.separator level = (',' : CodePoint) :: spaces ∧ IsSpaces spaces := by
  rw [Style.separator]
  split
  · exact ⟨_, rfl, isSpaces_space⟩
  · exact ⟨_, rfl, isSpaces_newline style level⟩

theorem endsNumber_cons {c : CodePoint} (h : c.isDigit = false ∧ c ≠ '.' ∧ c ≠ 'e' ∧ c ≠ 'E')
    (rest : Text) : EndsNumber (c :: rest) := by
  intro d hd
  rw [List.head?_cons, Option.mem_some_iff] at hd
  rw [← hd]
  exact h

/-- No number goes on with white space. -/
theorem endsNumber_of_isSpace {c : CodePoint} (h : isSpace c = true) (rest : Text) :
    EndsNumber (c :: rest) := by
  simp only [isSpace, Bool.or_eq_true, decide_eq_true_eq] at h
  apply endsNumber_cons
  rcases h with ((rfl | rfl) | rfl) | rfl <;> decide

/-- No number goes on with a mark that closes an array or an object, or white space before it. -/
theorem endsNumber_gap {gap : Text} (hgap : IsSpaces gap) {close : CodePoint}
    (hclose : close = ']' ∨ close = '}') (rest : Text) : EndsNumber (gap ++ close :: rest) := by
  cases gap with
  | nil =>
      apply endsNumber_cons
      rcases hclose with rfl | rfl <;> decide
  | cons c gap => exact endsNumber_of_isSpace (hgap c List.mem_cons_self) _

/-! ## Items between marks -/

/-- Whether a text stands for a value, whatever comes behind it. -/
structure ReadsAs {α : Type} (item : Read α) (value : α) (text : Text) : Prop where
  begins : BeginsValue text
  reads : ∀ rest, EndsNumber rest → item (text ++ rest) = .ok (value, rest)

theorem ReadsAs.ne_nil {α : Type} {item : Read α} {value : α} {text : Text}
    (h : ReadsAs item value text) : text ≠ [] := by
  obtain ⟨c, rest, rfl, -⟩ := h.begins
  exact List.cons_ne_nil c rest

theorem exists_joinWith_cons_eq (separator part : Text) (parts : List Text) :
    ∃ later, Text.joinWith separator (part :: parts) = part ++ later := by
  cases parts with
  | nil => exact ⟨[], (List.append_nil part).symm⟩
  | cons next parts =>
      exact ⟨separator ++ Text.joinWith separator (next :: parts), List.append_assoc _ _ _⟩

variable {α : Type} {item : Read α} {close : CodePoint} {separator gap : Text}

theorem readItems_last {limit : Nat} {s later rest : Text} {value : α}
    (hvalue : item s = .ok (value, later)) (hmark : skipSpace later = close :: rest) :
    readItems item close (limit + 1) s = .ok ([value], rest) := by
  rw [readItems, hvalue]
  simp only [bind, Except.bind, hmark, if_true]

theorem readItems_next {limit : Nat} {s later next rest : Text} {value : α} {values : List α}
    (hvalue : item s = .ok (value, later)) (hmark : skipSpace later = (',' : CodePoint) :: next)
    (hclose : (',' : CodePoint) ≠ close)
    (hvalues : readItems item close limit (skipSpace next) = .ok (values, rest)) :
    readItems item close (limit + 1) s = .ok (value :: values, rest) := by
  rw [readItems, hvalue]
  simp only [bind, Except.bind, hmark, if_neg hclose, if_true, hvalues]

/-- Items with separators between them are read up to the closing mark. -/
theorem readItems_joinWith (hclose : close = ']' ∨ close = '}') {spaces : Text}
    (hseparator : separator = (',' : CodePoint) :: spaces) (hspaces : IsSpaces spaces)
    (hgap : IsSpaces gap) {values : List α} {texts : List Text}
    (h : List.Forall₂ (ReadsAs item) values texts) (hne : values ≠ []) {limit : Nat}
    (hlimit : values.length ≤ limit) (rest : Text) :
    readItems item close limit (Text.joinWith separator texts ++ (gap ++ close :: rest)) =
      .ok (values, rest) := by
  have hmark : isSpace close = false := by rcases hclose with rfl | rfl <;> rfl
  have hcomma : (',' : CodePoint) ≠ close := by rcases hclose with rfl | rfl <;> decide
  induction h generalizing limit with
  | nil => contradiction
  | @cons value text values texts hfirst hrest ih =>
      cases limit with
      | zero => simp at hlimit
      | succ limit =>
          cases hrest with
          | nil =>
              exact readItems_last (hfirst.reads _ (endsNumber_gap hgap hclose rest))
                (skipSpace_append hgap hmark rest)
          | @cons value' text' values' texts' hsecond _ =>
              have hcount : (value' :: values').length ≤ limit := Nat.le_of_succ_le_succ hlimit
              have hnext := ih (List.cons_ne_nil _ _) hcount
              obtain ⟨c, tail, htail, hc, -⟩ := hsecond.begins
              obtain ⟨later, hlater⟩ := exists_joinWith_cons_eq separator text' texts'
              have htext : Text.joinWith separator (text :: text' :: texts') ++
                  (gap ++ close :: rest) = text ++ ((',' : CodePoint) ::
                    (spaces ++ (Text.joinWith separator (text' :: texts') ++
                      (gap ++ close :: rest)))) := by
                rw [Text.joinWith, hseparator]
                simp only [List.append_assoc, List.cons_append]
              have hskip : skipSpace (spaces ++ (Text.joinWith separator (text' :: texts') ++
                  (gap ++ close :: rest))) =
                  Text.joinWith separator (text' :: texts') ++ (gap ++ close :: rest) := by
                rw [hlater, htail]
                exact skipSpace_append hspaces hc _
              rw [htext]
              exact readItems_next (hfirst.reads _ (endsNumber_cons (by decide) _)) rfl hcomma
                (by rw [hskip, hnext])

theorem length_le_length_joinWith (separator : Text) {values : List α} {texts : List Text}
    (h : List.Forall₂ (ReadsAs item) values texts) :
    values.length ≤ (Text.joinWith separator texts).length := by
  induction h with
  | nil => exact Nat.le_refl 0
  | @cons value text values texts hfirst hrest ih =>
      have hpos := List.length_pos_iff.mpr hfirst.ne_nil
      cases hrest with
      | nil => exact hpos
      | @cons value' text' values' texts' hsecond _ =>
          rw [Text.joinWith, List.length_append, List.length_append, List.length_cons]
          omega

/-- What a style puts between marks is read as the items that it was written for. -/
theorem readEnclosed_enclose (style : Style) (level : Nat) (left : CodePoint)
    (hclose : close = ']' ∨ close = '}') {values : List α} {texts : List Text}
    (h : List.Forall₂ (ReadsAs item) values texts) (rest : Text) :
    ∃ inner, style.enclose level left close texts ++ rest = left :: inner ∧
      readEnclosed item close inner = .ok (values, rest) := by
  have hmark : isSpace close = false := by rcases hclose with rfl | rfl <;> rfl
  cases h with
  | nil =>
      refine ⟨close :: rest, rfl, ?_⟩
      rw [readEnclosed, skipSpace_cons hmark]
      exact if_pos rfl
  | @cons value text values texts hfirst hrest =>
      obtain ⟨spaces, hseparator, hspaces⟩ := exists_separator_eq style (level + 1)
      let inner := Text.joinWith (style.separator (level + 1)) (text :: texts) ++
        (style.newline level ++ close :: rest)
      refine ⟨style.newline (level + 1) ++ inner, ?_, ?_⟩
      · simp only [Style.enclose, inner, List.append_assoc, List.cons_append, List.nil_append]
      · obtain ⟨c, tail, htail, hc, hbracket, hbrace⟩ := hfirst.begins
        obtain ⟨later, hlater⟩ :=
          exists_joinWith_cons_eq (style.separator (level + 1)) text texts
        have hinner : inner = c :: (tail ++ later ++ (style.newline level ++ close :: rest)) := by
          change Text.joinWith _ _ ++ _ = _
          rw [hlater, htail]
          rfl
        have hne : c ≠ close := by rcases hclose with rfl | rfl <;> assumption
        have hall : List.Forall₂ (ReadsAs item) (value :: values) (text :: texts) :=
          .cons hfirst hrest
        have hcount : (value :: values).length ≤
            (tail ++ later ++ (style.newline level ++ close :: rest)).length + 1 := by
          have hle := length_le_length_joinWith (style.separator (level + 1)) hall
          rw [← List.length_cons, ← hinner]
          simp only [inner, List.length_append]
          omega
        have hitems := readItems_joinWith hclose hseparator hspaces (isSpaces_newline style level)
          hall (List.cons_ne_nil _ _) hcount rest
        rw [readEnclosed, hinner, skipSpace_append (isSpaces_newline style (level + 1)) hc]
        simp only [if_neg hne]
        rw [← hinner]
        exact hitems

/-! ## Values -/

/-- The marks that no scalar begins with. -/
def isMark (c : CodePoint) : Bool := isSpace c || c = ']' || c = '}' || c = '[' || c = '{'

theorem readScalar_mark (dialect : Dialect) {c : CodePoint} (hc : isMark c = true) (s : Text) :
    readScalar dialect (c :: s) = .error .malformed := by
  obtain ⟨nonFinite, saturate⟩ := dialect
  simp only [isMark, isSpace, Bool.or_eq_true, decide_eq_true_eq] at hc
  rcases hc with ((((((rfl | rfl) | rfl) | rfl) | rfl) | rfl) | rfl) | rfl <;>
    cases nonFinite <;> rfl

theorem readValue_scalar (dialect : Dialect) (room : Nat) {c : CodePoint} (hc : isMark c = false)
    (s : Text) : readValue dialect room (c :: s) = readScalar dialect (c :: s) := by
  simp only [isMark, Bool.or_eq_false_iff, decide_eq_false_iff_not] at hc
  obtain ⟨⟨-, hbracket⟩, hbrace⟩ := hc
  cases room with
  | zero => simp [readValue, hbracket, hbrace]
  | succ room => simp [readValue, hbracket, hbrace]

/-- What is read as a scalar is read as a value, and begins like one. -/
theorem readsAs_scalar {dialect : Dialect} (room : Nat) {value : Json} {text : Text}
    (h : ∀ rest, EndsNumber rest → readScalar dialect (text ++ rest) = .ok (value, rest)) :
    ReadsAs (readValue dialect room) value text := by
  have halone := h [] fun c hc => absurd hc (by simp)
  rw [List.append_nil] at halone
  cases text with
  | nil => contradiction
  | cons c tail =>
      have hmark : isMark c = false := by
        rw [← Bool.not_eq_true]
        intro hc
        rw [readScalar_mark dialect hc] at halone
        contradiction
      constructor
      · have hmarks := hmark
        simp only [isMark, Bool.or_eq_false_iff, decide_eq_false_iff_not] at hmarks
        obtain ⟨⟨⟨⟨hspace, hbracket⟩, hbrace⟩, -⟩, -⟩ := hmarks
        exact ⟨c, tail, rfl, hspace, hbracket, hbrace⟩
      · intro rest hrest
        rw [List.cons_append, readValue_scalar dialect room hmark, ← List.cons_append]
        exact h rest hrest

theorem readScalar_word (dialect : Dialect) {name : Text} {value : Json}
    (h : (name, value) ∈ plainNames) (rest : Text) :
    readScalar dialect (name ++ rest) = .ok (value, rest) := by
  obtain ⟨nonFinite, saturate⟩ := dialect
  simp only [plainNames, List.mem_cons, List.not_mem_nil, or_false, Prod.mk.injEq] at h
  rcases h with ⟨rfl, rfl⟩ | ⟨rfl, rfl⟩ | ⟨rfl, rfl⟩ <;> cases nonFinite <;> rfl

theorem readScalar_writeString (dialect : Dialect) (ascii : Bool) {s : Text} (hs : IsJoined s)
    (rest : Text) :
    readScalar dialect (writeString ascii s ++ rest) = .ok (.string s, rest) := by
  obtain ⟨literal, htext, hread⟩ := readString_writeString ascii hs rest
  rw [htext, readScalar]
  simp only [if_true, hread]
  rfl

/-- A field is read as its name and its value. -/
theorem readsAs_field {value : Read Json} (style : Style) {name : Text} {v : Json} {text : Text}
    (hname : IsJoined name) (hvalue : ReadsAs value v text) :
    ReadsAs (readField value) (name, v) (writeString style.ascii name ++ ": " ++ text) := by
  constructor
  · exact ⟨_, _, rfl, rfl, by decide, by decide⟩
  · intro rest hrest
    obtain ⟨literal, htext, hread⟩ :=
      readString_writeString style.ascii hname (": " ++ (text ++ rest))
    obtain ⟨c, tail, htail, hc, -⟩ := hvalue.begins
    have hskip : skipSpace ((' ' : CodePoint) :: (text ++ rest)) = text ++ rest := by
      rw [htail]
      exact skipSpace_append isSpaces_space hc _
    rw [List.append_assoc, List.append_assoc, htext, readField, if_pos rfl, hread]
    change (value (skipSpace ((' ' : CodePoint) :: (text ++ rest))) >>= fun r => _) = _
    rw [hskip, hvalue.reads rest hrest]
    rfl

mutual

/-- A value reads back as what it was written for. -/
theorem readsAs_writeAt (dialect : Dialect) (style : Style) (level room : Nat) :
    (value : Json) → value.IsReadable dialect → value.depth ≤ room →
      ReadsAs (readValue dialect room) value (writeAt style level value)
  | null, _, _ => readsAs_scalar room fun rest _ =>
      readScalar_word dialect (by simp [plainNames, writeAt]) rest
  | bool true, _, _ => readsAs_scalar room fun rest _ =>
      readScalar_word dialect (by simp [plainNames, writeAt]) rest
  | bool false, _, _ => readsAs_scalar room fun rest _ =>
      readScalar_word dialect (by simp [plainNames, writeAt]) rest
  | int n, hn, _ => readsAs_scalar room fun _ hrest => readScalar_ofInt dialect hn hrest
  | float x, hx, _ => readsAs_scalar room fun _ hrest => readScalar_writeFloat hx hrest
  | string s, hs, _ => readsAs_scalar room fun rest _ =>
      readScalar_writeString dialect style.ascii hs rest
  | array items, hitems, hdepth => by
      cases room with
      | zero => simp [depth] at hdepth
      | succ room =>
          have hall := readsAs_writeItems dialect style (level + 1) room items hitems
            (by rw [depth] at hdepth; omega)
          have henclosed := readEnclosed_enclose style level '[' (.inl rfl) hall
          rw [writeAt]
          constructor
          · obtain ⟨inner, htext, -⟩ := henclosed []
            rw [List.append_nil] at htext
            exact ⟨_, inner, htext, rfl, by decide, by decide⟩
          · intro rest _
            obtain ⟨inner, htext, hread⟩ := henclosed rest
            rw [htext, readValue, if_pos rfl, hread]
            rfl
  | object fields, hfields, hdepth => by
      cases room with
      | zero => simp [depth] at hdepth
      | succ room =>
          have hall := readsAs_writeFields dialect style (level + 1) room fields hfields.2
            (by rw [depth] at hdepth; omega)
          have henclosed := readEnclosed_enclose style level '{' (.inr rfl) hall
          rw [writeAt]
          constructor
          · obtain ⟨inner, htext, -⟩ := henclosed []
            rw [List.append_nil] at htext
            exact ⟨_, inner, htext, rfl, by decide, by decide⟩
          · intro rest _
            obtain ⟨inner, htext, hread⟩ := henclosed rest
            rw [htext, readValue, if_neg (by decide), if_pos rfl, hread]
            simp only [Except.map, distinctFields_eq_self hfields.1]

/-- Items read back one by one. -/
theorem readsAs_writeItems (dialect : Dialect) (style : Style) (level room : Nat) :
    (items : List Json) → ItemsReadable dialect items → itemsDepth items ≤ room →
      List.Forall₂ (ReadsAs (readValue dialect room)) items (writeItems style level items)
  | [], _, _ => .nil
  | item :: rest, h, hdepth =>
      .cons
        (readsAs_writeAt dialect style level room item h.1 (by rw [itemsDepth] at hdepth; omega))
        (readsAs_writeItems dialect style level room rest h.2 (by rw [itemsDepth] at hdepth; omega))

/-- Fields read back one by one. -/
theorem readsAs_writeFields (dialect : Dialect) (style : Style) (level room : Nat) :
    (fields : List (Text × Json)) → FieldsReadable dialect fields → fieldsDepth fields ≤ room →
      List.Forall₂ (ReadsAs (readField (readValue dialect room))) fields
        (writeFields style level fields)
  | [], _, _ => .nil
  | (name, value) :: rest, h, hdepth =>
      .cons (readsAs_field style h.1 (readsAs_writeAt dialect style level room value h.2.1
          (by rw [fieldsDepth] at hdepth; omega)))
        (readsAs_writeFields dialect style level room rest h.2.2
          (by rw [fieldsDepth] at hdepth; omega))

end

/-- A value that can be written and read, and is not nested too deep, is what its text is read
as. -/
theorem read_write {dialect : Dialect} {room : Nat} (style : Style) {value : Json}
    (h : value.IsReadable dialect) (hdepth : value.depth ≤ room) :
    read dialect room (value.write style) = .ok value := by
  have hreads := readsAs_writeAt dialect style 0 room value h hdepth
  obtain ⟨c, tail, htail, hc, -⟩ := hreads.begins
  have hread := hreads.reads [] fun _ hc => absurd hc (by simp)
  rw [List.append_nil, htail] at hread
  rw [read, write, htail, skipSpace_cons hc, hread]
  rfl

end ContentQuery.Json
