import ContentQuery.Payload
import ContentQuery.Text.Blank

/-!
# ContentQuery.Payload.Preview

The preview of a payload: one line that fits into a column.
-/

namespace ContentQuery.Payload

/-- The most code points of a preview. -/
def previewWidth : Nat := 60

/-- A text cut to the width of a preview, with an ellipsis in the place of what is cut off. -/
def shorten (s : Text) : Text :=
  if s.length ≤ previewWidth then s else s.take (previewWidth - 1) ++ "…"

theorem length_shorten_le (s : Text) : (shorten s).length ≤ previewWidth := by
  unfold shorten
  split
  · assumption
  · have : (Text.ofString "…").length = 1 := rfl
    simp only [List.length_append, List.length_take, this]
    unfold previewWidth
    omega

/-- The text that a preview is made of: a string as it is, and any other payload as JSON. -/
def source : Payload → Except WriteError Text
  | json (.string s) => .ok s
  | payload => payload.written.map (Json.write .line)

/-- The preview of a payload. Runs of white space become single spaces. -/
def preview (payload : Payload) : Except WriteError Text :=
  payload.source.map fun s => shorten s.collapse

end ContentQuery.Payload
