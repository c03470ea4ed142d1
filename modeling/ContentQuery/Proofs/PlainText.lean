import ContentQuery.Proofs.Comparability
import ContentQuery.Proofs.JsonText

/-!
# ContentQuery.Proofs.PlainText

Plain text and the JSON string of the same text. Conditions on the whole content that seek no null
hold for both or for neither, and where they fail, they fail alike: with the same report of an
operation that text does not support, or with a mismatch of types on both sides.
-/

namespace ContentQuery

/-- Two evaluations that end alike: with the same truth value, with the same report of an operation
that is not supported, or with mismatches in the same condition, whose reports may name the target
differently. -/
inductive Alike : Except EvaluationError Bool → Except EvaluationError Bool → Prop
  | value (b : Bool) : Alike (.ok b) (.ok b)
  | unsupported (source operation : Text) :
    Alike (.error (.failed source (.unsupported operation)))
      (.error (.failed source (.unsupported operation)))
  | mismatch (source : Text) (cause cause' : Mismatch) :
    Alike (.error (.failed source (.mismatch cause))) (.error (.failed source (.mismatch cause')))

/-- Evaluations that are alike are so with alike ones behind them. -/
theorem Alike.bind {first first' : Except EvaluationError Bool}
    {next next' : Bool → Except EvaluationError Bool} (h : Alike first first')
    (hnext : ∀ b, Alike (next b) (next' b)) : Alike (first >>= next) (first' >>= next') := by
  cases h with
  | value b => exact hnext b
  | unsupported source operation => exact .unsupported source operation
  | mismatch source cause cause' => exact .mismatch source cause cause'

namespace Condition

variable {cond : Condition}

/-- Texts are compared in the same way whatever they are called. -/
theorem alike_withText (kind kind' s : Text) :
    Alike (cond.blame (Comparison.withText cond kind s))
      (cond.blame (Comparison.withText cond kind' s)) := by
  by_cases hliteral : cond.literal.type = .string
  · obtain ⟨value, hvalue⟩ := Literal.exists_of_type_string hliteral
    rw [Comparison.withText_string hvalue, Comparison.withText_string hvalue]
    exact .value _
  · rw [Comparison.withText_unlike hliteral, Comparison.withText_unlike hliteral]
    split
    · exact .value true
    · exact .mismatch cond.source _ _

/-- A string at the root refuses what plain text refuses, before its type is looked at. -/
theorem alike_evaluate (hpath : cond.path = []) (hliteral : cond.literal ≠ .null) (s : Text) :
    Alike (cond.evaluate (.plain s)) (cond.evaluate (.json (.string s))) := by
  have hfound : Path.resolve? (.string s) cond.path = .ok (some (.string s)) := by
    rw [Path.resolve?, if_pos hpath]
  rw [evaluate, evaluate_of_found hfound]
  cases hop : cond.operation.operator.onStrings with
  | true =>
      have hvalue : Comparison.withValue cond (.string s) = Comparison.withString cond s := by
        rw [Comparison.withValue_eq cond (by simp [hop]) (by simp [Json.type]), if_neg hliteral]
        rfl
      rw [hvalue, Comparison.withPlainText, Comparison.withString, if_pos hop, if_pos hop]
      exact alike_withText _ _ s
  | false =>
      have hvalue : Comparison.withValue cond (.string s) =
          .error (.unsupported cond.operation.name) := by
        unfold Comparison.withValue
        rw [if_pos (by simp [hpath, hop, Json.isScalar, Json.type])]
      rw [hvalue, Comparison.withPlainText, if_neg (by simp [hop])]
      exact .unsupported cond.source _

end Condition

namespace Query

theorem alike_evaluateFrom (s : Text) (result : Bool) (links : List (Connective × Condition))
    (h : ∀ link ∈ links, link.2.path = [] ∧ link.2.literal ≠ .null) :
    Alike (evaluateFrom (.plain s) result links)
      (evaluateFrom (.json (.string s)) result links) := by
  induction links generalizing result with
  | nil => exact .value result
  | cons link links ih =>
      obtain ⟨⟨hpath, hliteral⟩, hlinks⟩ := List.forall_mem_cons.mp h
      exact (Condition.alike_evaluate hpath hliteral s).bind fun next => ih _ hlinks

theorem alike_evaluate {query : Query}
    (h : ∀ cond ∈ query.conditions, cond.path = [] ∧ cond.literal ≠ .null) (s : Text) :
    Alike (query.evaluate (.plain s)) (query.evaluate (.json (.string s))) := by
  unfold evaluate
  cases hconditions : query.conditions with
  | nil => exact .value true
  | cons first rest =>
      rw [hconditions] at h
      obtain ⟨⟨hpath, hliteral⟩, hrest⟩ := List.forall_mem_cons.mp h
      refine (Condition.alike_evaluate hpath hliteral s).bind fun result => ?_
      refine alike_evaluateFrom s result _ fun link hlink => hrest _ ?_
      exact (List.of_mem_zip hlink).2

end Query

variable {s j : Text} {query : Query}

/-- Plain text, and a JSON text of it as a string with whatever escapes, behave alike under
conditions on the whole content that do not seek null. A query of such conditions, one or more, has
the same truth value for both, or fails for both in the same condition, with errors of the same
kind, and with the same report if this is an operation that text does not support. -/
theorem matchesQuery_quoted [Limits] (hplain : Content.ofText s = .plain s)
    (hquoted : Json.read .content Limits.contentText j = .ok (.string s))
    (hconditions : ∀ cond ∈ query.conditions, cond.path = [] ∧ cond.literal ≠ .null) :
    let plain := matchesQuery (.json (.string s)) (some query)
    let quoted := matchesQuery (.json (.string j)) (some query)
    (∃ b, plain = .ok b ∧ quoted = .ok b) ∨
    ∃ source cause cause',
      plain = .error (.failed source cause) ∧ quoted = .error (.failed source cause') ∧
      cause.kind = cause'.kind ∧ (cause.kind = .unsupported → cause = cause') := by
  intro plain quoted
  have halike : Alike plain quoted := by
    have hcontent : Content.ofText j = .json (.string s) := by rw [Content.ofText, hquoted]
    simp only [plain, quoted, matchesQuery, Content.ofPayload, hplain, hcontent]
    split
    · exact .value true
    · exact Query.alike_evaluate hconditions s
  clear_value plain quoted
  cases halike with
  | value b => exact .inl ⟨b, rfl, rfl⟩
  | unsupported source operation => exact .inr ⟨source, _, _, rfl, rfl, rfl, fun _ => rfl⟩
  | mismatch source cause cause' => exact .inr ⟨source, _, _, rfl, rfl, rfl, nofun⟩

namespace PlainText

/-- A text with quotes, characters outside ASCII and a line break. -/
def spoken : Text := "say \"é\" 😀\n"

/-- The text as a JSON string in ASCII, with all these escaped. -/
def quoted : Text := (Json.string spoken).write .stored

/-- A query whose second condition is refused by text, and whose third one does not go with it. -/
def refused : Query :=
  .chain ⟨[], ⟨.contains, false⟩, .string "é", "contains é"⟩
    [(.or, ⟨[], ⟨.greaterThan, false⟩, .bool true, "greaterthan true"⟩),
      (.and, ⟨[], ⟨.equals, false⟩, .bool true, "equals true"⟩)]

/-- The refusal is reported for the JSON text as for the plain one. -/
theorem matchesQuery_quoted_of_refused :
    Content.ofText spoken = .plain spoken ∧
    Json.read .content Limits.contentText quoted = .ok (.string spoken) ∧
    (∀ cond ∈ refused.conditions, cond.path = [] ∧ cond.literal ≠ .null) ∧
    matchesQuery (.json (.string spoken)) (some refused) =
      .error (.failed "greaterthan true" (.unsupported "greaterthan")) ∧
    matchesQuery (.json (.string quoted)) (some refused) =
      .error (.failed "greaterthan true" (.unsupported "greaterthan")) := by
  have hplain : Content.ofText spoken = .plain spoken := rfl
  have hreadable : Json.IsReadable .content (.string spoken) :=
    (by decide : Json.IsJoined spoken)
  have hquoted : Json.read .content Limits.contentText quoted = .ok (.string spoken) :=
    Json.read_write .stored hreadable (Nat.zero_le _)
  have hconditions : ∀ cond ∈ refused.conditions, cond.path = [] ∧ cond.literal ≠ .null := by
    decide
  have hreport : matchesQuery (.json (.string spoken)) (some refused) =
      .error (.failed "greaterthan true" (.unsupported "greaterthan")) := rfl
  obtain ⟨b, hb, -⟩ | ⟨source, cause, cause', hcause, hcause', -, hsame⟩ :=
    matchesQuery_quoted hplain hquoted hconditions
  · rw [hreport] at hb
    cases hb
  · rw [hreport] at hcause
    cases hcause
    rw [← hsame rfl] at hcause'
    exact ⟨hplain, hquoted, hconditions, hreport, hcause'⟩

end PlainText

end ContentQuery
