import ContentQuery.Evaluation
import ContentQuery.Proofs.JsonText
import ContentQuery.Proofs.StandsFor

/-!
# ContentQuery.Proofs.StoredForm

A payload may be kept as it is or as JSON text. Conditions see the same content in both, so that
every query has the same outcome, as long as no text in the payload holds the halves of a pair next
to each other: written as escapes they are read as the one code point that they name.
-/

namespace ContentQuery

namespace Content

/-- A payload that is no string is seen as the JSON value that it stands for. -/
theorem ofPayload_of_toJson? [Limits] {payload : Payload} {value : Json}
    (hvalue : payload.toJson? = some value) (hdepth : payload.depth ≤ Limits.contentValue)
    (hstring : ∀ s, value ≠ .string s) : ofPayload payload = .ok (json value) := by
  unfold ofPayload
  split
  · next s => exact absurd (Option.some.inj hvalue).symm (hstring s)
  · rw [Payload.root?, if_pos hdepth, hvalue]

/-- JSON text is seen as the value that it was written for. -/
theorem ofText_write [Limits] {value : Json} (style : Json.Style)
    (hvalue : value.IsReadable .content) (hdepth : value.depth ≤ Limits.contentText) :
    ofText (value.write style) = json value := by
  unfold ofText
  rw [Json.read_write style hvalue hdepth]

end Content

/-- A payload is written as text on which every query has the same outcome as on the payload
itself, a truth value or an error, if it stands for a JSON value that is no string, is not nested
too deep for either of the two, has finite numbers and integers of not too many digits only, and
has no text that holds the halves of a pair. -/
theorem matchesQuery_write [Limits] {payload : Payload} {value : Json}
    (hvalue : payload.toJson? = some value) (hreadable : value.IsReadable .content)
    (hdepth : payload.depth ≤ Limits.contentValue) (htext : payload.depth ≤ Limits.contentText)
    (hstring : ∀ s, value ≠ .string s) :
    ∃ text, payload.written.map (Json.write .stored) = .ok text ∧
      ∀ query, matchesQuery (.json (.string text)) query = matchesQuery payload query := by
  refine ⟨value.write .stored, ?_, ?_⟩
  · rw [payload.written_of_toJson? hvalue]
    rfl
  · have hdeep : value.depth ≤ Limits.contentText :=
      (payload.depth_of_toJson? hvalue).trans_le htext
    have hcontent : Content.ofPayload (.json (.string (value.write .stored))) =
        Content.ofPayload payload := by
      rw [Content.ofPayload_of_toJson? hvalue hdepth hstring]
      exact congrArg Except.ok (Content.ofText_write .stored hreadable hdeep)
    intro query
    unfold matchesQuery
    rw [hcontent]

namespace StoredForm

/-- A mapping of a fixed list, in which a code point beyond the basic plane, a control, a negative
integer and a number of the binary format stand. -/
def mixed : Payload :=
  .mapping [(.text "n", .tuple [.json (.string (Text.ofString "😀\n")), .json (.int (-3)),
    .json (.float (.finite true ⟨1023, by decide⟩ ⟨1, by decide⟩))])]

/-- The same outcome on the mapping and on the text that is written for it. -/
theorem matchesQuery_write_mixed :
    ∃ text, mixed.written.map (Json.write .stored) = .ok text ∧
      ∀ query, matchesQuery (.json (.string text)) query = matchesQuery mixed query := by
  refine matchesQuery_write rfl ?_ (by decide) (by decide) fun s h => by contradiction
  have hname : Json.IsJoined (Text.ofString "n") := by decide
  have htext : Json.IsJoined (Text.ofString "😀\n") := by decide
  have hinteger : (3 : Nat) < 10 ^ Json.maxDigits :=
    Nat.lt_of_lt_of_le (by decide) (Nat.le_self_pow (by decide) 10)
  exact ⟨by decide, hname, ⟨htext, hinteger, .inr rfl, trivial⟩, trivial⟩

/-- The halves of a pair, next to each other. -/
def halves : Text := [⟨0xD83D, by decide⟩, ⟨0xDE00, by decide⟩]

/-- The code point that they name. -/
def named : Text := Text.ofString "😀"

/-- Not every payload is like the text that is written for it: a string that holds the halves of a
pair differs from the code point that they name, and is read as it. -/
theorem exists_payload_unlike_its_text :
    let payload : Payload := .json (.object [("a", .string halves)])
    ∃ query text, Query.parse ["a equals " ++ named] = .ok (some query) ∧
      payload.written.map (Json.write .stored) = .ok text ∧
      matchesQuery payload (some query) = .ok false ∧
      matchesQuery (.json (.string text)) (some query) = .ok true :=
  ⟨Query.chain ⟨"a", ⟨.equals, false⟩, .string named, "a equals " ++ named⟩ [], _,
    rfl, rfl, rfl, rfl⟩

end StoredForm

end ContentQuery
