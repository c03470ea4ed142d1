import ContentQuery.Text
import ContentQuery.Text.Quoted.Table

/-!
# ContentQuery.Text.Quoted

A text between quotes, on one line and without unprintable characters: the form in which texts
inside lists and mappings are shown to a reader.
-/

namespace ContentQuery.Quoted

/-- The apostrophe is the quote, unless the text holds one and no double quote. -/
def quoteFor (s : Text) : CodePoint :=
  if s.contains ('\'' : CodePoint) && !s.contains ('"' : CodePoint) then '"' else '\''

/-- One code point between quotes: the quote and the backslash are escaped, line breaks and tabs
have names, and what cannot be printed is given by its number. -/
def escape (quote c : CodePoint) : Text :=
  if c = quote || c = '\\' then ['\\', c]
  else if c = '\n' then "\\n"
  else if c = '\r' then "\\r"
  else if c = '\t' then "\\t"
  else if 0x20 ≤ c.val && c.val < 0x7F then [c]
  else if unprintable.has c.val then
    if c.val ≤ 0xFF then "\\x" ++ Text.ofNatHex 2 c.val
    else if c.val ≤ 0xFFFF then "\\u" ++ Text.ofNatHex 4 c.val
    else "\\U" ++ Text.ofNatHex 8 c.val
  else [c]

end Quoted

/-- The text between quotes. -/
def Text.quoted (s : Text) : Text :=
  let quote := Quoted.quoteFor s
  quote :: s.flatMap (Quoted.escape quote) ++ [quote]

end ContentQuery
