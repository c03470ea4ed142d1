import ContentQuery.Proofs.AcceptedSnapshot
import ContentQuery.Proofs.JsonFaults

/-!
# ContentQuery.Proofs.ReportedSnapshot

Which files are reported as invalid when they are no snapshots. Reading ends with a snapshot or
with a report unless it breaks off for one of five causes. One is a property of the path: no file
can have it. The others are properties of the octets of the file: they are the form of no text, an
integer has too many digits, values are nested too deep, or a date is a point in time outside the
years that timestamps cover.
-/

namespace ContentQuery

/-! ## Paths -/

namespace FilePath

/-- Whether a path has octets: each surrogate in it stands for an octet. -/
def HasOctets (s : Text) : Prop := ∀ c ∈ s, c.isSurrogate = true → isRawOctet c = true

/-- Why no file can have a path. Octets are looked for before null characters. -/
inductive IsRefused (s : Text) : Problem → Prop
  | surrogate : ¬ HasOctets s → IsRefused s .surrogate
  | nullCharacter {c : CodePoint} : HasOctets s → c ∈ s → c.val = 0 → IsRefused s .nullCharacter

/-- A path is refused exactly for the characters that it has, by the problem that these are. -/
theorem check_eq_error_iff {s : Text} {problem : Problem} :
    check s = .error problem ↔ IsRefused s problem := by
  have hoctets : (s.any fun (c : CodePoint) => c.isSurrogate && !isRawOctet c) = true ↔
      ¬ HasOctets s := by
    simp [HasOctets]
  unfold check
  split
  · next hsurrogate =>
      rw [hoctets] at hsurrogate
      constructor
      · intro h
        exact Except.error.inj h ▸ .surrogate hsurrogate
      · intro h
        cases h with
        | surrogate => rfl
        | nullCharacter h => exact absurd h hsurrogate
  · next hnone =>
      rw [hoctets, not_not] at hnone
      split
      · next hnull =>
          obtain ⟨c, hc, hval⟩ := List.any_eq_true.mp hnull
          constructor
          · intro h
            exact Except.error.inj h ▸ .nullCharacter hnone hc (of_decide_eq_true hval)
          · intro h
            cases h with
            | surrogate h => exact absurd hnone h
            | nullCharacter => rfl
      · next hnull =>
          refine ⟨fun h => (by contradiction), fun h => ?_⟩
          cases h with
          | surrogate h => exact absurd hnone h
          | nullCharacter _ hc hval =>
              exact absurd (List.any_eq_true.mpr ⟨_, hc, decide_eq_true hval⟩) hnull

end FilePath

/-! ## Dates -/

namespace Timestamp

/-- Whether a value is a date that can be read but lies outside the years that timestamps cover. -/
def LiesOutside (value : Json) : Prop :=
  ∃ s micros, value = .string s ∧
    readMicros (spellZulu (shortenFractions none s.trim)) = some micros ∧
    ¬ (0 ≤ micros ∧ micros < limit)

/-- Microseconds are no timestamp exactly if they lie outside the years that there are. -/
theorem ofMicros?_eq_none_iff {micros : Int} :
    ofMicros? micros = none ↔ ¬ (0 ≤ micros ∧ micros < limit) := by
  unfold ofMicros?
  split
  · next h => simp [h]
  · next h => simp [h]

theorem ofJson_eq_outOfRange_iff {value : Json} :
    ofJson value = .error .outOfRange ↔ LiesOutside value := by
  cases value with
  | string s =>
      simp only [ofJson, parse, LiesOutside, Json.string.injEq, exists_and_left, exists_eq_left',
        ← ofMicros?_eq_none_iff]
      cases readMicros (spellZulu (shortenFractions none s.trim)) with
      | none => simp
      | some micros => cases hmicros : ofMicros? micros <;> simp [hmicros]
  | _ => simp [ofJson, LiesOutside]

end Timestamp

namespace Snapshot

/-- Whether a failure is reported as a problem with the snapshot. -/
def ReadError.IsReported (e : ReadError) : Prop := ∃ problem, e = .invalid problem

theorem ReadError.isReported_invalid (problem : Problem) : (ReadError.invalid problem).IsReported :=
  ⟨problem, rfl⟩

/-- Five failures are not reported. -/
theorem isReported_iff_ne {e : ReadError} : e.IsReported ↔ (∀ problem, e ≠ .path problem) ∧
    e ≠ .notText ∧ e ≠ .longInteger ∧ e ≠ .tooDeep ∧ e ≠ .outOfRange := by
  cases e <;> simp [ReadError.IsReported]

/-! ## Documents -/

/-- A point in time breaks a document off exactly if it lies outside the years that there are. -/
theorem readTimestamp_eq_outOfRange_iff {id : Text} {value : Json} :
    readTimestamp id value = .error .outOfRange ↔ Timestamp.LiesOutside value := by
  rw [← Timestamp.ofJson_eq_outOfRange_iff, readTimestamp]
  cases Timestamp.ofJson value with
  | ok t => simp [Except.mapError]
  | error e => cases e <;> simp [Except.mapError]

/-- A document has the point in time that its value is read as. -/
theorem readTimestamp_eq_ok_iff {id : Text} {value : Json} {t : Timestamp} :
    readTimestamp id value = .ok t ↔ Timestamp.ofJson value = .ok t := by
  rw [readTimestamp]
  cases Timestamp.ofJson value with
  | ok t => simp [Except.mapError]
  | error e => cases e <;> simp [Except.mapError]

/-- A point in time that cannot be read is reported, unless it lies outside the years that there
are. -/
theorem isReported_of_readTimestamp {id : Text} {value : Json} {e : ReadError}
    (h : readTimestamp id value = .error e) : e.IsReported ∨ e = .outOfRange := by
  rw [readTimestamp] at h
  cases hvalue : Timestamp.ofJson value with
  | ok t =>
      rw [hvalue] at h
      contradiction
  | error problem =>
      rw [hvalue] at h
      rw [← Except.error.inj h]
      cases problem with
      | notText type => exact .inl (ReadError.isReported_invalid _)
      | malformed => exact .inl (ReadError.isReported_invalid _)
      | outOfRange => exact .inr rfl

/-- Whether the first thing that is wrong with a document is that one of its dates lies outside the
years that timestamps cover. -/
def DatesLieOutside (fields : List (Text × Json)) : Prop :=
  (∃ owner, owner? fields = some owner) ∧
  ∃ date, fieldOf? fields "creation_date" = some date ∧
    (Timestamp.LiesOutside date ∨
      (∃ created, Timestamp.ofJson date = .ok created) ∧
        Timestamp.LiesOutside (modification fields date))

/-- A document that has all that is required fails only because of its dates, the date of its
creation first. -/
theorem readEntry_eq_error_iff {key : Text} {fields : List (Text × Json)} {owner : Text}
    {date : Json} {e : ReadError} (howner : owner? fields = some owner)
    (hdate : fieldOf? fields "creation_date" = some date) :
    readEntry key (.object fields) = .error e ↔ readTimestamp key date = .error e ∨
      (∃ created, readTimestamp key date = .ok created) ∧
        readTimestamp key (modification fields date) = .error e := by
  unfold readEntry modification
  simp only [howner, hdate, bind_eq_error_iff]
  constructor
  · rintro (h | ⟨created, hcreated, h | ⟨modified, -, h⟩⟩)
    · exact .inl h
    · exact .inr ⟨⟨created, hcreated⟩, h⟩
    · contradiction
  · rintro (h | ⟨⟨created, hcreated⟩, h⟩)
    · exact .inl h
    · exact .inr ⟨created, hcreated, .inl h⟩

/-- A document without an owner is reported as such, whatever its points in time are. -/
theorem readEntry_of_owner?_eq_none {key : Text} {fields : List (Text × Json)}
    (howner : owner? fields = none) :
    readEntry key (.object fields) = .error (.invalid (.document key .noOwner)) := by
  unfold readEntry
  simp only [howner]
  rfl

/-- A document without a point in time is reported as such. -/
theorem readEntry_of_undated {key : Text} {fields : List (Text × Json)} {owner : Text}
    (howner : owner? fields = some owner) (hdate : fieldOf? fields "creation_date" = none) :
    readEntry key (.object fields) =
      .error (.invalid (.document key (.timestamp .absent))) := by
  unfold readEntry
  simp only [howner, hdate]
  rfl

/-- A document breaks its snapshot off exactly if one of its points in time, as they come to be
read, lies outside the years that there are. -/
theorem readEntry_eq_outOfRange_iff {key : Text} {value : Json} :
    readEntry key value = .error .outOfRange ↔
      ∃ fields, value = .object fields ∧ DatesLieOutside fields := by
  cases value with
  | object fields =>
      simp only [Json.object.injEq, exists_eq_left']
      cases howner : owner? fields with
      | none => simp [readEntry_of_owner?_eq_none howner, DatesLieOutside, howner]
      | some owner =>
          cases hdate : fieldOf? fields "creation_date" with
          | none => simp [readEntry_of_undated howner hdate, DatesLieOutside, hdate]
          | some date =>
              simp [readEntry_eq_error_iff howner hdate, readTimestamp_eq_outOfRange_iff,
                readTimestamp_eq_ok_iff, DatesLieOutside, howner, hdate]
  | _ => simp [readEntry]

/-- A document that cannot be read is reported, unless a point in time lies outside the years that
there are. -/
theorem isReported_of_readEntry {key : Text} {value : Json} {e : ReadError}
    (h : readEntry key value = .error e) : e.IsReported ∨ e = .outOfRange := by
  cases value with
  | object fields =>
      cases howner : owner? fields with
      | none =>
          rw [readEntry_of_owner?_eq_none howner] at h
          exact .inl ⟨_, (Except.error.inj h).symm⟩
      | some owner =>
          cases hdate : fieldOf? fields "creation_date" with
          | none =>
              rw [readEntry_of_undated howner hdate] at h
              exact .inl ⟨_, (Except.error.inj h).symm⟩
          | some date =>
              rcases (readEntry_eq_error_iff howner hdate).mp h with h | ⟨-, h⟩ <;>
                exact isReported_of_readTimestamp h
  | _ => exact .inl ⟨_, (Except.error.inj h).symm⟩

/-! ## Share records -/

/-- A share that cannot be read is reported. -/
theorem isReported_of_readShare {key : Text} {value : Json} {e : ReadError}
    (h : readShare key value = .error e) : e.IsReported := by
  cases value with
  | object fields =>
      unfold readShare at h
      simp only at h
      split at h
      · contradiction
      · split at h
        · contradiction
        · exact ⟨_, (Except.error.inj h).symm⟩
      · exact ⟨_, (Except.error.inj h).symm⟩
  | _ => exact ⟨_, (Except.error.inj h).symm⟩

/-! ## Files -/

/-- Whether the first thing that is wrong with the value of a file is that a date of a document lies
outside the years that timestamps cover. -/
def HasDateOutside (value : Json) : Prop :=
  ∃ fields documents shares before key document after,
    value = .object fields ∧ section? fields "documents" = some documents ∧
    (section? fields "share_records") = some shares ∧
    documents = before ++ (key, .object document) :: after ∧
    (∀ earlier ∈ before, ∃ entry, readEntry earlier.1 earlier.2 = .ok entry) ∧
    DatesLieOutside document

/-- A value that is no snapshot is reported, unless a date is at fault. -/
theorem ofJson_error {value : Json} {e : ReadError} (h : ofJson value = .error e) :
    e.IsReported ∨ e = .outOfRange ∧ HasDateOutside value := by
  cases value with
  | object fields =>
      unfold ofJson at h
      simp only at h
      split at h
      · next documents records hdocuments hrecords =>
          rcases bind_eq_error_iff.mp h with h | ⟨entries, -, h⟩
          · obtain ⟨before, ⟨key, document⟩, after, rfl, hbefore, h⟩ := mapM_eq_error_iff.mp h
            rcases isReported_of_readEntry h with hreported | rfl
            · exact .inl hreported
            · obtain ⟨members, rfl, hdates⟩ := readEntry_eq_outOfRange_iff.mp h
              exact .inr ⟨rfl, fields, _, records, before, key, members, after, rfl, hdocuments,
                hrecords, rfl, hbefore, hdates⟩
          · rcases bind_eq_error_iff.mp h with h | ⟨shares, -, h⟩
            · obtain ⟨_, record, _, -, -, h⟩ := mapM_eq_error_iff.mp h
              exact .inl (isReported_of_readShare h)
            · contradiction
      · exact .inl ⟨_, (Except.error.inj h).symm⟩
  | _ => exact .inl ⟨_, (Except.error.inj h).symm⟩

/-- A snapshot with a document whose point in time lies outside the years that there are, and comes
to be read, breaks off. -/
theorem ofJson_of_hasDateOutside {value : Json} (h : HasDateOutside value) :
    ofJson value = .error .outOfRange := by
  obtain ⟨fields, documents, records, before, key, document, after, rfl, hdocuments, hrecords, rfl,
    hbefore, hdates⟩ := h
  have hdocument : readEntry key (.object document) = .error .outOfRange :=
    readEntry_eq_outOfRange_iff.mpr ⟨document, rfl, hdates⟩
  simp only [ofJson, hdocuments, hrecords]
  exact bind_eq_error_iff.mpr
    (.inl (mapM_eq_error_iff.mpr ⟨before, _, after, rfl, hbefore, hdocument⟩))

/-- Why reading the octets of a file breaks off without a report. -/
inductive Fault [Limits] (octets : List UInt8) : ReadError → Prop
  /-- The octets are the form of no text. -/
  | notText : (∀ s, Utf8.encode s ≠ some octets) → Fault octets .notText
  /-- The text gives out as JSON at an integer of too many digits. -/
  | longInteger {s : Text} : Utf8.encode s = some octets →
      Json.GivesOut Limits.snapshot (Json.skipSpace s) .longInteger → Fault octets .longInteger
  /-- The text gives out as JSON where values are nested too deep. -/
  | tooDeep {s : Text} : Utf8.encode s = some octets →
      Json.GivesOut Limits.snapshot (Json.skipSpace s) .tooDeep → Fault octets .tooDeep
  /-- The value of the text fails at a date that lies outside the years that timestamps cover. -/
  | outOfRange {s : Text} {value : Json} : Utf8.encode s = some octets →
      Json.read .file Limits.snapshot s = .ok value → HasDateOutside value →
      Fault octets .outOfRange

/-- A text breaks off exactly where it gives out as JSON, or at a date. -/
theorem ofText_eq_error_iff [Limits] {s : Text} {octets : List UInt8} {e : ReadError}
    (hs : Utf8.encode s = some octets) :
    ofText s = .error e ∧ ¬ e.IsReported ↔ Fault octets e := by
  have hsame {t : Text} (ht : Utf8.encode t = some octets) : t = s :=
    Option.some.inj ((Utf8.decode_eq_some_iff.mpr ht).symm.trans (Utf8.decode_eq_some_iff.mpr hs))
  constructor
  · rintro ⟨h, hunreported⟩
    unfold ofText at h
    split at h
    · next value hvalue =>
        rcases ofJson_error h with hreported | ⟨rfl, hdate⟩
        · exact absurd hreported hunreported
        · exact .outOfRange hs hvalue hdate
    · exact absurd ⟨_, (Except.error.inj h).symm⟩ hunreported
    · next hread =>
        exact Except.error.inj h ▸ .longInteger hs (Json.read_eq_error_iff.mp ⟨hread, by decide⟩)
    · next hread =>
        exact Except.error.inj h ▸ .tooDeep hs (Json.read_eq_error_iff.mp ⟨hread, by decide⟩)
  · intro h
    cases h with
    | notText hnone => exact absurd hs (hnone s)
    | longInteger ht hread =>
        obtain rfl := hsame ht
        exact ⟨by rw [ofText, (Json.read_eq_error_iff.mpr hread).1], by simp [isReported_iff_ne]⟩
    | tooDeep ht hread =>
        obtain rfl := hsame ht
        exact ⟨by rw [ofText, (Json.read_eq_error_iff.mpr hread).1], by simp [isReported_iff_ne]⟩
    | outOfRange ht hread hdate =>
        obtain rfl := hsame ht
        refine ⟨?_, by simp [isReported_iff_ne]⟩
        rw [ofText, hread]
        exact ofJson_of_hasDateOutside hdate

/-- The octets of a file break off without a report exactly if they have one of the faults. -/
theorem ofOctets_eq_error_iff [Limits] {octets : List UInt8} {e : ReadError} :
    ofOctets octets = .error e ∧ ¬ e.IsReported ↔ Fault octets e := by
  cases htext : Utf8.decode octets with
  | some s =>
      rw [← ofText_eq_error_iff (Utf8.decode_eq_some_iff.mp htext), ofOctets, htext]
  | none =>
      have hnone := Utf8.decode_eq_none_iff.mp htext
      rw [ofOctets, htext]
      constructor
      · rintro ⟨h, -⟩
        exact Except.error.inj h ▸ .notText hnone
      · intro h
        cases h with
        | notText => exact ⟨rfl, by simp [isReported_iff_ne]⟩
        | longInteger hs => exact absurd hs (hnone _)
        | tooDeep hs => exact absurd hs (hnone _)
        | outOfRange hs => exact absurd hs (hnone _)

/-- Why reading what is at a path breaks off without a report. -/
inductive Breakdown [Limits] (tree : FileTree) (working : Location) (path : Text) :
    ReadError → Prop
  /-- No file can have the path. -/
  | path {problem : FilePath.Problem} : FilePath.IsRefused path problem →
      Breakdown tree working path (.path problem)
  /-- The octets of the file that has it are a cause. -/
  | octets {octets : List UInt8} {e : ReadError} :
      (∀ problem, ¬ FilePath.IsRefused path problem) → tree.read working path = .ok octets →
      Fault octets e → Breakdown tree working path e

/-- A load breaks off without a report exactly for one of the causes in its path or in the octets
that are found there. -/
theorem load_eq_error_iff [Limits] {tree : FileTree} {working : Location} {path : Text}
    {e : ReadError} :
    load tree working path = .error e ∧ ¬ e.IsReported ↔ Breakdown tree working path e := by
  unfold load
  cases hpath : FilePath.check path with
  | error problem =>
      rw [FilePath.check_eq_error_iff] at hpath
      constructor
      · rintro ⟨h, -⟩
        exact Except.error.inj h ▸ .path hpath
      · intro h
        cases h with
        | path hproblem =>
            rw [← FilePath.check_eq_error_iff] at hpath hproblem
            rw [hpath] at hproblem
            obtain rfl := Except.error.inj hproblem
            exact ⟨rfl, by simp [isReported_iff_ne]⟩
        | octets hnone => exact absurd hpath (hnone problem)
  | ok _ =>
      have hnone (problem : FilePath.Problem) : ¬ FilePath.IsRefused path problem := by
        rw [← FilePath.check_eq_error_iff, hpath]
        simp
      simp only
      constructor
      · rintro ⟨h, hunreported⟩
        split at h
        · next octets hoctets =>
            exact .octets hnone hoctets (ofOctets_eq_error_iff.mp ⟨h, hunreported⟩)
        · exact absurd ⟨_, (Except.error.inj h).symm⟩ hunreported
      · intro h
        cases h with
        | path hproblem => exact absurd hproblem (hnone _)
        | octets _ hoctets hfault =>
            simp only [hoctets]
            exact ofOctets_eq_error_iff.mpr hfault

/-- Whatever the path and whatever is there, reading breaks off without a report exactly if no file
can have the path or the octets of the file there are a cause for that; in all other cases it brings
a snapshot or reports a problem. -/
theorem load_reports_or_breaks_off [Limits] (tree : FileTree) (working : Location) (path : Text) :
    (∀ e, load tree working path = .error e ∧ ¬ e.IsReported ↔ Breakdown tree working path e) ∧
    ((∃ snapshot, load tree working path = .ok snapshot) ∨
        (∃ problem, load tree working path = .error (.invalid problem)) ↔
      ¬ ∃ e, Breakdown tree working path e) := by
  refine ⟨fun e => load_eq_error_iff, ?_⟩
  simp only [← load_eq_error_iff]
  cases load tree working path with
  | ok snapshot => simp
  | error e => simp [ReadError.IsReported]

end Snapshot

/-! ## Files that are not reported -/

theorem Utf8.encode_replicate {c : CodePoint} {b : UInt8} (hc : c.isSurrogate = false)
    (hoctets : octets c = [b]) (count : Nat) :
    encode (List.replicate count c) = some (List.replicate count b) := by
  rw [encode_eq_some_iff]
  refine ⟨fun d hd => (List.eq_of_mem_replicate hd) ▸ hc, ?_⟩
  rw [List.flatMap_replicate, hoctets, List.flatten_replicate_singleton]

namespace Json

theorem skipSpace_digits {digits : Text} (hne : digits ≠ [])
    (hdigits : ∀ c ∈ digits, c.isDigit = true) : skipSpace digits = digits := by
  obtain ⟨d, rest, rfl⟩ := List.exists_cons_of_ne_nil hne
  apply skipSpace_cons
  rw [Bool.eq_false_iff]
  intro hspace
  have hd := hdigits d List.mem_cons_self
  simp only [isSpace, Bool.or_eq_true, decide_eq_true_eq] at hspace
  rcases hspace with ((rfl | rfl) | rfl) | rfl <;> contradiction

/-- A text of too many digits gives out at once. -/
theorem givesOut_of_overlong (room : Nat) {digits : Text} (hdigits : IsWhole digits)
    (hlong : maxDigits < digits.length) : GivesOut room (skipSpace digits) .longInteger := by
  have hne : digits ≠ [] := List.ne_nil_of_length_pos (Nat.zero_lt_of_lt hlong)
  have hend : EndsInteger [] := endsInteger_iff.mpr ⟨endsDigits_nil, rfl, rfl⟩
  rw [skipSpace_digits hne hdigits.digits]
  exact .longInteger ⟨false, digits, [], (List.append_nil digits).symm, hdigits, hlong, hend⟩

/-- The mark that opens an array. -/
def bracket : CodePoint := '['

theorem skipSpace_brackets (count : Nat) :
    skipSpace (List.replicate count bracket) = List.replicate count bracket := by
  cases count with
  | zero => rfl
  | succ count =>
      have hspace : isSpace bracket = false := rfl
      rw [List.replicate_succ, skipSpace_cons hspace]

/-- Arrays give out where there is room for one less. -/
theorem givesOut_brackets (room count : Nat) :
    GivesOut room (List.replicate (room + 1 + count) bracket) .tooDeep := by
  induction room with
  | zero =>
      rw [Nat.zero_add, Nat.add_comm, List.replicate_succ]
      exact .tooDeep (.inl rfl)
  | succ room ih =>
      have houter : room + 1 + 1 + count = room + 1 + count + 1 := by omega
      have hinner : Relation.ReflTransGen (NextItem (readValue .file room))
          (skipSpace (List.replicate (room + 1 + count) bracket))
          (List.replicate (room + 1 + count) bracket) := by
        rw [skipSpace_brackets]
      rw [houter, List.replicate_succ]
      exact .item hinner ih

end Json

namespace Sample

/-- A directory with one file. -/
def holding (octets : List UInt8) : FileTree := ⟨[(["s"], .file octets)]⟩

/-- A snapshot of a document from the first hour of year 1, in a place that is ahead of universal
time. -/
def earlyValue : Json := .object [("documents", .object [("d", .object [("owner_id", .string "o"),
  ("creation_date", .string "0001-01-01T00:00:00+01:00")])])]

/-- The octets of a file with this snapshot. -/
def earlyOctets : List UInt8 := (Utf8.encode (earlyValue.write .stored)).getD []

end Sample

open Sample in
/-- Paths and files for which reading breaks off: a path with a null character, one with a surrogate
that stands for no octet, a file that holds no UTF-8, an integer of one digit too many, arrays that
are nested one level too deep, and a date that lies before the first year. -/
theorem exists_snapshots_without_report :
    Snapshot.load ⟨[]⟩ [] [.ofNat 0] = .error (.path .nullCharacter) ∧
    Snapshot.load ⟨[]⟩ [] [.ofNat 0xD800] = .error (.path .surrogate) ∧
    Snapshot.load (holding [0xFF]) [] "s" = .error .notText ∧
    Snapshot.load (holding (List.replicate (Json.maxDigits + 1) 0x31)) [] "s" =
      .error .longInteger ∧
    Snapshot.load (holding (List.replicate (Limits.snapshot + 1) 0x5B)) [] "s" =
      .error .tooDeep ∧
    Snapshot.load (holding earlyOctets) [] "s" = .error .outOfRange ∧
    ¬ ∀ tree working path, (∃ snapshot, Snapshot.load tree working path = .ok snapshot) ∨
      ∃ problem, Snapshot.load tree working path = .error (.invalid problem) := by
  have hnotText : Snapshot.load (holding [0xFF]) [] "s" = .error .notText := rfl
  have hload (octets : List UInt8) :
      Snapshot.load (holding octets) [] "s" = Snapshot.ofOctets octets := rfl
  have hbreak {octets : List UInt8} {e : Snapshot.ReadError} (h : Snapshot.Fault octets e) :
      Snapshot.load (holding octets) [] "s" = .error e :=
    (hload octets).trans (Snapshot.ofOctets_eq_error_iff.mpr h).1
  refine ⟨rfl, rfl, hnotText, hbreak ?_, hbreak ?_, ?_, fun hall => ?_⟩
  · have hwhole : Json.IsWhole (List.replicate (Json.maxDigits + 1) ('1' : CodePoint)) := by
      refine ⟨fun c hc => ?_, .inr ⟨by simp, ?_⟩⟩
      · rw [List.eq_of_mem_replicate hc]
        rfl
      · rw [List.replicate_succ, List.head?_cons]
        decide
    exact .longInteger (Utf8.encode_replicate rfl rfl _)
      (Json.givesOut_of_overlong _ hwhole (by simp))
  · refine .tooDeep (Utf8.encode_replicate rfl rfl _ (c := Json.bracket)) ?_
    rw [Json.skipSpace_brackets]
    exact Json.givesOut_brackets _ 0
  · have hreadable : earlyValue.IsReadable .file := by
      simp only [earlyValue, Json.IsReadable, Json.FieldsReadable]
      and_intros <;> decide
    have htext : Utf8.encode (earlyValue.write .stored) = some earlyOctets := by decide +kernel
    rw [hload, Snapshot.ofOctets, Utf8.decode_eq_some_iff.mpr htext]
    exact Snapshot.ofText_write .stored hreadable (by decide)
  · rcases hall (holding [0xFF]) [] "s" with ⟨snapshot, h⟩ | ⟨problem, h⟩
    · rw [hnotText] at h
      contradiction
    · rw [hnotText] at h
      exact Snapshot.ReadError.noConfusion (Except.error.inj h)

end ContentQuery
