import ContentQuery.Binary64.Significant
import ContentQuery.Database.Address

/-!
# ContentQuery.Database.Engine.Usual

The library that the program keeps its stores with, as far as it is known. The last digit that it
keeps of a number differs from one release to another.
-/

namespace ContentQuery

/-- The library of the program. While it writes a store there is another file, whose name is eight
octets longer than that of the store. A file of a single octet counts as empty. -/
instance Engine.usual : Engine where
  columnText? := Binary64.columnText?
  fileOf place := (Address.parse place.text).file
  maxPath := 504
  maxName := 255 - 8
  isEmpty octets := octets.length ≤ 1

end ContentQuery
