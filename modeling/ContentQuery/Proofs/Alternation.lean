import ContentQuery.Proofs.Digits
import ContentQuery.Proofs.Extension

/-!
# ContentQuery.Proofs.Alternation

Lists of parts that are queries. A part is at fault by itself, with regard to nothing but whether
its place is that of a condition or of a connective. A list is read as a query exactly if no part
is at fault and it ends with a condition, and otherwise the first part at fault is named, or else
the last one.
-/

namespace ContentQuery

/-! ## Places -/

namespace SyntaxProblem

variable {problem : SyntaxProblem} {index : Nat}

/-- The place of the part that a problem is about. -/
def place? : SyntaxProblem → Option Nat
  | emptyPart index => some index
  | strayConnective index _ => some index
  | badCondition index _ => some index
  | badConnective index _ => some index
  | openEnd index => some index
  | _ => none

/-- Whether the report of a problem names a place: its number, with all its digits, behind the word
"index". -/
def Names (problem : SyntaxProblem) (index : Nat) : Prop :=
  ∃ before after : Text, problem.message = before ++ Text.ofNat index ++ after ∧
    ("index " : Text) <:+ before ∧ after.EndsDigits

/-- A message with the index between a word and something that is no digit names the part. -/
theorem names_of_message {before after : Text} {c : CodePoint}
    (hmessage : problem.message = before ++ (Text.ofNat index ++ after))
    (hbefore : ("index " : Text) <:+ before) (hafter : after.head? = some c)
    (hc : c.isDigit = false) : problem.Names index := by
  refine ⟨before, after, by rw [hmessage, List.append_assoc], hbefore, fun d hd => ?_⟩
  rw [hafter] at hd
  cases hd
  exact hc

/-- A problem with a part is reported with the place of the part. -/
theorem names_of_place? (h : problem.place? = some index) : problem.Names index := by
  cases problem with
  | noValue => contradiction
  | noOperator => contradiction
  | unknownOperator => contradiction
  | notInsensitive => contradiction
  | unsplittable => contradiction
  | inSearch => contradiction
  | _ =>
      cases h
      refine names_of_message (by simp only [message, List.append_assoc]; rfl) (by decide) rfl rfl

end SyntaxProblem

namespace Query

variable {α β : Type} {index : Nat} {raw : Text} {parts : List Text}

/-! ## Parts at fault -/

/-- Whether a part is at fault at a place. No part may be blank. At an even place there has to be a
condition, which no word for a connective is, and at an odd place a connective. -/
def Offends (index : Nat) (raw : Text) : Prop :=
  raw.trim = [] ∨
  index % 2 = 0 ∧ ((∃ connective : Connective, raw.trim.lower = connective.word) ∨
    ∃ problem, Condition.parse raw.trim = .error problem) ∨
  index % 2 = 1 ∧ ∀ connective : Connective, raw.trim.lower ≠ connective.word

/-- What reading a part at a place comes to: it fails if the part is at fault, with a problem at the
place, and only then. -/
inductive Judges (index : Nat) (raw : Text) : Except SyntaxProblem α → Prop
  | clear (value : α) : ¬ Offends index raw → Judges index raw (.ok value)
  | blames (problem : SyntaxProblem) : Offends index raw → problem.place? = some index →
    Judges index raw (.error problem)

/-- At an even place a condition is read, or the part is at fault. -/
theorem judges_parseCondition (heven : index % 2 = 0) (raw : Text) :
    Judges index raw (parseCondition index raw) := by
  unfold parseCondition
  by_cases hempty : raw.trim = []
  · rw [if_pos hempty]
    exact .blames _ (.inl hempty) rfl
  · rw [if_neg hempty]
    cases hword : Connective.ofWord? raw.trim with
    | some connective =>
        have hconnective := Connective.ofWord?_eq_some_iff.mp hword
        exact .blames _ (.inr (.inl ⟨heven, .inl ⟨connective, hconnective⟩⟩)) rfl
    | none =>
        have hword := Connective.ofWord?_eq_none_iff.mp hword
        cases hparse : Condition.parse raw.trim with
        | error problem => exact .blames _ (.inr (.inl ⟨heven, .inr ⟨problem, hparse⟩⟩)) rfl
        | ok cond =>
            refine .clear cond ?_
            rintro (h | ⟨-, ⟨connective, h⟩ | ⟨problem, h⟩⟩ | ⟨hodd, -⟩)
            · exact hempty h
            · exact hword connective h
            · rw [hparse] at h
              contradiction
            · omega

/-- At an odd place a connective is read, or the part is at fault. -/
theorem judges_parseConnective (hodd : index % 2 = 1) (raw : Text) :
    Judges index raw (parseConnective index raw) := by
  unfold parseConnective
  by_cases hempty : raw.trim = []
  · rw [if_pos hempty]
    exact .blames _ (.inl hempty) rfl
  · rw [if_neg hempty]
    cases hword : Connective.ofWord? raw.trim with
    | none => exact .blames _ (.inr (.inr ⟨hodd, Connective.ofWord?_eq_none_iff.mp hword⟩)) rfl
    | some connective =>
        refine .clear connective ?_
        rintro (h | ⟨heven, -⟩ | ⟨-, h⟩)
        · exact hempty h
        · omega
        · exact h connective (Connective.ofWord?_eq_some_iff.mp hword)

/-! ## Lists of parts -/

/-- What reading the parts from a place on comes to: the first part at fault is blamed, and if
there is none, it is looked at whether a condition or a connective would be the next one. -/
inductive Settled : Nat → List Text → Except SyntaxProblem α → Prop
  | complete {index : Nat} (value : α) : index % 2 = 1 → Settled index [] (.ok value)
  | openEnd {index : Nat} : index % 2 = 0 → Settled index [] (.error (.openEnd (index - 1)))
  | blames {index : Nat} {raw : Text} {parts : List Text} (problem : SyntaxProblem) :
    Offends index raw → problem.place? = some index → Settled index (raw :: parts) (.error problem)
  | later {index : Nat} {raw : Text} {parts : List Text} {outcome : Except SyntaxProblem α} :
    ¬ Offends index raw → Settled (index + 1) parts outcome → Settled index (raw :: parts) outcome

/-- A part is read, and then those behind it. -/
theorem Settled.cons {first : Except SyntaxProblem α} {next : α → Except SyntaxProblem β}
    (hfirst : Judges index raw first) (hnext : ∀ a, Settled (index + 1) parts (next a)) :
    Settled index (raw :: parts) (first >>= next) := by
  cases hfirst with
  | clear value hclear => exact .later hclear (hnext value)
  | blames problem hoffends hplace => exact .blames problem hoffends hplace

/-- What parts are read as may be changed without changing which of them is blamed. -/
theorem Settled.map {outcome : Except SyntaxProblem α} (f : α → β)
    (h : Settled index parts outcome) : Settled index parts (outcome >>= fun a => pure (f a)) := by
  induction h with
  | complete value hodd => exact .complete (f value) hodd
  | openEnd heven => exact .openEnd heven
  | blames problem hoffends hplace => exact .blames problem hoffends hplace
  | later hclear _ ih => exact .later hclear ih

/-- Each round reads a connective at an odd place and a condition at the even place behind it. -/
theorem settled_parseRest (hodd : index % 2 = 1) (parts : List Text) :
    Settled index parts (parseRest index parts) := by
  fun_induction parseRest index parts with
  | case1 index => exact .complete [] hodd
  | case2 index raw =>
      exact .cons (judges_parseConnective hodd raw) fun _ => .openEnd (by omega)
  | case3 index raw next parts ih =>
      refine .cons (judges_parseConnective hodd raw) fun connective => ?_
      refine .cons (judges_parseCondition (by omega) next) fun cond => ?_
      exact (ih (by omega)).map _

/-- A list of parts is read from the first one on. -/
theorem settled_parse (h : parts ≠ []) : Settled 0 parts (parse parts) := by
  cases parts with
  | nil => contradiction
  | cons raw parts =>
      refine .cons (judges_parseCondition rfl raw) fun first => ?_
      exact (settled_parseRest rfl parts).map _

/-- The places of the parts at fault, where the first part has a given place. -/
def offences (index : Nat) (parts : List Text) : Set Nat :=
  {place | ∃ i part, place = index + i ∧ parts[i]? = some part ∧ Offends place part}

theorem offences_nil : offences index [] = ∅ := by
  ext place
  simp [offences]

/-- A part that is not at fault adds none. -/
theorem offences_cons (h : ¬ Offends index raw) :
    offences index (raw :: parts) = offences (index + 1) parts := by
  ext place
  constructor
  · rintro ⟨i, part, rfl, hpart, hoffends⟩
    cases i with
    | zero =>
        cases hpart
        contradiction
    | succ i => exact ⟨i, part, by omega, hpart, hoffends⟩
  · rintro ⟨i, part, rfl, hpart, hoffends⟩
    exact ⟨i + 1, part, by omega, hpart, hoffends⟩

/-- A part at fault is the first one, if it comes first. -/
theorem isLeast_offences_cons (h : Offends index raw) (parts : List Text) :
    IsLeast (offences index (raw :: parts)) index := by
  refine ⟨⟨0, raw, rfl, rfl, h⟩, ?_⟩
  rintro place ⟨i, part, rfl, -⟩
  exact Nat.le_add_right index i

/-- Parts that can be read have none at fault and end with a condition. -/
theorem Settled.of_ok {value : α} (h : Settled index parts (.ok value)) :
    offences index parts = ∅ ∧ (index + parts.length) % 2 = 1 := by
  generalize houtcome : (Except.ok value : Except SyntaxProblem α) = outcome at h
  induction h with
  | complete value hodd => exact ⟨offences_nil, hodd⟩
  | openEnd => contradiction
  | blames => contradiction
  | later hclear _ ih =>
      obtain ⟨hnone, hlength⟩ := ih houtcome
      rw [offences_cons hclear, List.length_cons]
      exact ⟨hnone, by omega⟩

/-- A problem is that of the first part at fault, or there is none and the parts end with a
connective. -/
theorem Settled.of_error {problem : SyntaxProblem}
    (h : Settled index parts (.error problem : Except SyntaxProblem α)) :
    (∃ place, IsLeast (offences index parts) place ∧ problem.place? = some place) ∨
    offences index parts = ∅ ∧ (index + parts.length) % 2 = 0 ∧
      problem = .openEnd (index + parts.length - 1) := by
  generalize houtcome : (Except.error problem : Except SyntaxProblem α) = outcome at h
  induction h with
  | complete => contradiction
  | openEnd heven =>
      cases houtcome
      exact .inr ⟨offences_nil, heven, rfl⟩
  | blames problem' hoffends hplace =>
      cases houtcome
      exact .inl ⟨_, isLeast_offences_cons hoffends _, hplace⟩
  | @later index raw parts outcome hclear _ ih =>
      rw [offences_cons hclear, List.length_cons, Nat.add_comm parts.length, ← Nat.add_assoc]
      exact ih houtcome

/-! ## Queries -/

/-- A part is read as a connective exactly if it is the word for it, in any letter case. -/
theorem parseConnective_eq_ok_iff {connective : Connective} :
    parseConnective index raw = .ok connective ↔ raw.trim.lower = connective.word := by
  unfold parseConnective
  rw [← Connective.ofWord?_eq_some_iff]
  by_cases hempty : raw.trim = []
  · rw [hempty, if_pos rfl]
    exact iff_of_false nofun nofun
  · rw [if_neg hempty]
    cases Connective.ofWord? raw.trim <;> simp

/-- Connectives and conditions are read from the parts in turn. -/
theorem links_of_parseRest {links : List (Connective × Condition)}
    (h : parseRest index parts = .ok links) :
    parts.length = 2 * links.length ∧
    ∀ k connective cond, links[k]? = some (connective, cond) →
      (∃ part, parts[2 * k]? = some part ∧ part.trim.lower = connective.word) ∧
      ∃ part, parts[2 * k + 1]? = some part ∧ Condition.parse part.trim = .ok cond := by
  fun_induction parseRest index parts generalizing links with
  | case1 =>
      rw [← Except.ok.inj h]
      exact ⟨rfl, fun k connective cond hlink => by simp at hlink⟩
  | case2 index raw =>
      obtain ⟨connective, -, h⟩ := bind_eq_ok_iff.mp h
      contradiction
  | case3 index raw next parts ih =>
      obtain ⟨connective, hconnective, h⟩ := bind_eq_ok_iff.mp h
      obtain ⟨cond, hcond, h⟩ := bind_eq_ok_iff.mp h
      obtain ⟨others, hothers, h⟩ := bind_eq_ok_iff.mp h
      obtain ⟨hlength, hlinks⟩ := ih hothers
      rw [← Except.ok.inj h]
      refine ⟨by simp only [List.length_cons]; omega, fun k => ?_⟩
      cases k with
      | zero =>
          intro connective' cond' hlink
          cases hlink
          exact ⟨⟨raw, rfl, parseConnective_eq_ok_iff.mp hconnective⟩, next, rfl,
            (parseCondition_eq_ok_iff.mp hcond).2.2⟩
      | succ k => exact hlinks k

/-- A query has the conditions that stand at the even places among the parts and the connectives at
the odd ones, and there are no more parts. -/
structure AlternatesIn (query : Query) (parts : List Text) : Prop where
  length_parts : parts.length = 2 * query.connectives.length + 1
  length_conditions : query.conditions.length = query.connectives.length + 1
  condition : ∀ k cond, query.conditions[k]? = some cond →
    ∃ part, parts[2 * k]? = some part ∧ Condition.parse part.trim = .ok cond
  connective : ∀ k connective, query.connectives[k]? = some connective →
    ∃ part, parts[2 * k + 1]? = some part ∧ part.trim.lower = connective.word

/-- In a list that is read, conditions and connectives alternate. -/
theorem alternatesIn_of_parse {query : Query} (h : parse parts = .ok (some query)) :
    query.AlternatesIn parts := by
  obtain ⟨raw, others, first, links, rfl, hfirst, hrest, rfl⟩ := parse_eq_some_iff.mp h
  obtain ⟨hlength, hlinks⟩ := links_of_parseRest hrest
  constructor
  case length_parts => simp [chain, hlength]
  case length_conditions => simp [chain]
  case condition =>
    intro k cond hcond
    cases k with
    | zero =>
        cases hcond
        exact ⟨raw, rfl, (parseCondition_eq_ok_iff.mp hfirst).2.2⟩
    | succ k =>
        have hlink : (links.map (·.2))[k]? = some cond := hcond
        rw [List.getElem?_map, Option.map_eq_some_iff] at hlink
        obtain ⟨⟨connective, _⟩, hlink, rfl⟩ := hlink
        exact (hlinks k connective _ hlink).2
  case connective =>
    intro k connective hconnective
    have hlink : (links.map (·.1))[k]? = some connective := hconnective
    rw [List.getElem?_map, Option.map_eq_some_iff] at hlink
    obtain ⟨⟨_, cond⟩, hlink, rfl⟩ := hlink
    exact (hlinks k _ cond hlink).1

/-- A query is put together from its conditions and connectives. -/
theorem ofParts_self (query : Query) :
    ofParts query.conditions query.connectives = .ok query :=
  dif_pos query.balanced

theorem parse_ne_none (h : parts ≠ []) : parse parts ≠ .ok none := by
  cases parts with
  | nil => contradiction
  | cons raw parts =>
      intro hnone
      obtain ⟨first, -, hnone⟩ := bind_eq_ok_iff.mp hnone
      obtain ⟨rest, -, hnone⟩ := bind_eq_ok_iff.mp hnone
      exact absurd (Except.ok.inj hnone) nofun

/-- A list of parts, at least one, is read as a query exactly if no part is at fault and their
number is odd. Then conditions and connectives alternate in it, and there is a query of them. If
there are parts at fault, the first of them is named, whatever is wrong with those behind it, and
otherwise the last part is. -/
theorem parse_alternating (hparts : parts ≠ []) :
    let atFault : Set Nat := {k | ∃ part, parts[k]? = some part ∧ Offends k part}
    ((∃ query, parse parts = .ok (some query)) ↔ atFault = ∅ ∧ parts.length % 2 = 1) ∧
    (∀ query, parse parts = .ok (some query) →
      query.AlternatesIn parts ∧ ofParts query.conditions query.connectives = .ok query) ∧
    (atFault.Nonempty → ∃ k problem, IsLeast atFault k ∧
      parse parts = .error problem ∧ problem.place? = some k ∧ problem.Names k) ∧
    (atFault = ∅ → parts.length % 2 = 0 →
      parse parts = .error (.openEnd (parts.length - 1)) ∧
        (SyntaxProblem.openEnd (parts.length - 1)).Names (parts.length - 1)) := by
  intro atFault
  have hoffences : offences 0 parts = atFault := by
    ext place
    simp [offences, atFault]
  have hsettled := settled_parse hparts
  cases houtcome : parse parts with
  | ok found =>
      rw [houtcome] at hsettled
      obtain ⟨hnone, hodd⟩ := hsettled.of_ok
      rw [hoffences] at hnone
      rw [Nat.zero_add] at hodd
      obtain ⟨query, rfl⟩ : ∃ query, found = some query :=
        Option.ne_none_iff_exists'.mp fun h => parse_ne_none hparts (h ▸ houtcome)
      refine ⟨iff_of_true ⟨query, rfl⟩ ⟨hnone, hodd⟩, fun query' hquery => ?_, fun hsome => ?_,
        fun _ heven => by omega⟩
      · exact ⟨alternatesIn_of_parse (houtcome.trans hquery), ofParts_self query'⟩
      · exact absurd hnone hsome.ne_empty
  | error problem =>
      rw [houtcome] at hsettled
      obtain ⟨place, hleast, hplace⟩ | ⟨hnone, heven, rfl⟩ := hsettled.of_error
      · rw [hoffences] at hleast
        have hsome : atFault ≠ ∅ := Set.Nonempty.ne_empty ⟨place, hleast.1⟩
        exact ⟨iff_of_false nofun fun h => hsome h.1, nofun,
          fun _ => ⟨place, problem, hleast, rfl, hplace, SyntaxProblem.names_of_place? hplace⟩,
          fun hnone => absurd hnone hsome⟩
      · rw [hoffences] at hnone
        rw [Nat.zero_add] at heven ⊢
        exact ⟨iff_of_false nofun fun h => by omega, nofun,
          fun hsome => absurd hnone hsome.ne_empty,
          fun _ _ => ⟨rfl, SyntaxProblem.names_of_place? rfl⟩⟩

/-- A list with four parts at fault: a connective in the place of the third condition, two
conditions in places of connectives, and a blank part. -/
theorem parse_alternating_of_faults :
    let parts : List Text := ["a equals 1", " AND ", "b contains-Insensitive x", "or", "and",
      "c equals 2", "d equals 3", "e equals 4", " "]
    parts ≠ [] ∧ parse parts = .error (.strayConnective 4 "and") ∧
    IsLeast {k | ∃ part, parts[k]? = some part ∧ Offends k part} 4 := by
  intro parts
  have hparts : parts ≠ [] := List.cons_ne_nil _ _
  have herror : parse parts = .error (.strayConnective 4 "and") := by rfl
  obtain ⟨haccepts, -, hblames, -⟩ := parse_alternating hparts
  have hsome : {k | ∃ part, parts[k]? = some part ∧ Offends k part}.Nonempty := by
    refine Set.nonempty_iff_ne_empty.mpr fun hnone => ?_
    obtain ⟨query, hquery⟩ := haccepts.mpr ⟨hnone, by simp [parts]⟩
    rw [herror] at hquery
    cases hquery
  obtain ⟨k, problem, hleast, hproblem, hplace, -⟩ := hblames hsome
  rw [herror] at hproblem
  cases hproblem
  cases hplace
  exact ⟨hparts, herror, hleast⟩

end Query

end ContentQuery
