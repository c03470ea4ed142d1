import ContentQuery.Database.Engine
import ContentQuery.Text.Blank
import ContentQuery.Text.Case
import ContentQuery.Text.Numeral
import ContentQuery.Text.Percent

/-!
# ContentQuery.Database.Address

The address of a store: the path of its file, in which percent signs stand for octets, and options
after a question mark.

Options that are known are checked, whatever they ask for, and have no effect but one: with `uri`
switched on, the other options become part of the path.
-/

namespace ContentQuery

/-- The address of a store. -/
structure Address where
  path : Text
  /-- The options with their values; an option may be given several times. -/
  options : List (Text × Text)

namespace Address

/-- Reads an address. Its options end with the line. -/
def parse (s : Text) : Address :=
  let query := (s.dropWhile fun (c : CodePoint) => c ≠ '?').drop 1
  { path := Percent.decode (s.takeWhile fun (c : CodePoint) => c ≠ '?')
    options := Percent.fields (query.takeWhile fun (c : CodePoint) => c ≠ '\n') }

/-- The values that an option is given. -/
def values (address : Address) (name : Text) : List Text :=
  (address.options.filter fun option => option.1 = name).map (·.2)

/-! ## Checking options -/

/-- The options that are known. -/
def known : List Text :=
  ["uri", "timeout", "isolation_level", "detect_types", "check_same_thread", "cached_statements"]

/-- The words that switch an option on. -/
def onWords : List Text := ["true", "yes", "on", "y", "t", "1"]

/-- The words that switch an option off. -/
def offWords : List Text := ["false", "no", "off", "n", "f", "0"]

/-- Whether an option is switched on. One that is given several times is. -/
def isOn (address : Address) (name : Text) : Except AddressProblem Bool :=
  match address.values name with
  | [] => .ok false
  | [value] =>
    let word := value.trim.lower
    if onWords.contains word then .ok true
    else if offWords.contains word then .ok false
    else .error .malformed
  | _ => .ok true

/-- The only value of an option, if it is given, in the form that is required. -/
def only {α : Type} (address : Address) (name : Text) (read : Text → Option α) :
    Except AddressProblem (Option α) :=
  match address.values name with
  | [] => .ok none
  | [value] =>
    match read value with
    | some a => .ok (some a)
    | none => .error .malformed
  | _ => .error .repeated

/-- The bound of the numbers that an option can be. -/
def numberBound : Int := 0x80000000

/-- Refuses a number that is too large, in either direction. -/
def requireInRange : Option Int → Except AddressProblem Unit
  | none => .ok ()
  | some n => if -numberBound ≤ n ∧ n < numberBound then .ok () else .error .outOfRange

/-- Checks the options, and tells whether they become part of the path. -/
def check (address : Address) : Except AddressProblem Bool := do
  if let name :: _ := address.values "plugin" then throw (.extension name)
  let joined ← address.isOn "uri"
  let _ ← address.only "timeout" fun s => if Numeral.isReal s then some () else none
  let types ← address.only "detect_types" Numeral.integer?
  let _ ← address.isOn "check_same_thread"
  let statements ← address.only "cached_statements" Numeral.integer?
  requireInRange types
  if 1 < (address.values "isolation_level").length then throw .malformed
  requireInRange statements
  return joined

/-! ## The file -/

/-- The values of an option as they stand in a path. -/
def shownValues : List Text → Text
  | [value] => value
  | values => "(" ++ Text.joinWith ", " (values.map Text.quoted) ++ ")"

/-- The options that are not known, in the order of their names, as they stand in a path. -/
def shownOptions (address : Address) : Text :=
  let names := ((address.options.map (·.1)).filter fun name => !known.contains name).eraseDups
  match names.mergeSort fun a b => !b.precedes a with
  | [] => []
  | names => "?" ++ Text.joinWith "&" (names.map fun name =>
      name ++ "=" ++ shownValues (address.values name))

/-- The location of the file that an absolute address names. -/
def file (address : Address) : Except AddressProblem Location := do
  let path := if ← address.check then address.path ++ address.shownOptions else address.path
  if path.any fun (c : CodePoint) => c.val = 0 then throw .malformed
  return (FilePath.parse path).names.foldl FilePath.step []

end Address

end ContentQuery
