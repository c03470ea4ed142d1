import ContentQuery.Binary64
import ContentQuery.FilePath
import ContentQuery.Text.Quoted

/-!
# ContentQuery.Database.Engine

What the library that keeps stores in files decides by itself: the text that a column of texts keeps
of a number, the file that the path of a store stands for once it is read as an address, and which
files it takes.
-/

namespace ContentQuery

/-- Why an address names no file. -/
inductive AddressProblem where
  /-- It asks for an extension; there are none. -/
  | extension (name : Text)
  /-- A value has not the form that its option requires, or the path has a null character. -/
  | malformed
  /-- An option that takes one number is given several times. -/
  | repeated
  /-- A number is too large for its option. -/
  | outOfRange

/-- The wording of a problem with an address. -/
def AddressProblem.message : AddressProblem → Text
  | extension name => "Can't load plugin: sqlalchemy.plugins:" ++ name
  | malformed => "a value in the address of the store is malformed"
  | repeated => "an option in the address of the store is given several times"
  | outOfRange => "a number in the address of the store is too large"

/-- The decisions of the library that keeps stores. -/
class Engine where
  /-- The text that a column keeps of a number; none if it keeps nothing. -/
  columnText? : Binary64 → Option Text
  /-- The file that a location names if its path is taken as an address. -/
  fileOf : Location → Except AddressProblem Location
  /-- The most octets of the path of a store's file. -/
  maxPath : Nat
  /-- The most octets of the name of a store's file that is made. -/
  maxName : Nat
  /-- Whether the octets of a file count as a store without any rows. -/
  isEmpty : List UInt8 → Bool

end ContentQuery
