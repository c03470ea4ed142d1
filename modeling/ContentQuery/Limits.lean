/-!
# ContentQuery.Limits

How much nesting each function that goes into nested values has room for.

The interpreter bounds the number of calls that are open at a time, so the room that a function has
depends on how many calls are open when it is reached. It is not the same for two functions, nor for
one function in two programs.
-/

namespace ContentQuery

/-- The room for nested values. -/
class Limits where
  /-- Around the values in a text that is the content of a document. -/
  contentText : Nat
  /-- Around the values in a content that is no text. -/
  contentValue : Nat
  /-- Around the values in a content that is shown. -/
  shown : Nat
  /-- Around the values in a snapshot. -/
  snapshot : Nat
  /-- Around the values in the content that a row keeps. -/
  row : Nat
  /-- In a file of settings, where an array takes two and an inline table three. -/
  settings : Nat
  /-- A snapshot has room for the three objects around the content of a document. -/
  three_le_snapshot : 3 ≤ snapshot
  /-- A content that stands inside three objects of a snapshot has room in a row. -/
  snapshot_le_row : snapshot ≤ row + 3

/-- The limits of the program as it is run from the command line. -/
instance Limits.usual : Limits where
  contentText := 990
  contentValue := 990
  shown := 990
  snapshot := 990
  row := 990
  settings := 975
  three_le_snapshot := by decide
  snapshot_le_row := by decide

end ContentQuery
