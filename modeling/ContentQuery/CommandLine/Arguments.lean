import ContentQuery.CommandLine.UsageProblem
import ContentQuery.Text.Similarity

/-!
# ContentQuery.CommandLine.Arguments

Sorting the words of a command line into options with their values and other arguments.

A word that begins with a dash, and is not just a dash, holds options: a long one with two dashes,
to which a value may be attached by an equals sign, or a cluster of short ones of one letter each,
to which a value may be attached directly. Two dashes alone end the options.
-/

namespace ContentQuery.CommandLine

/-- An option as a command declares it; `κ` is the type of what options mean. -/
structure OptionForm (κ : Type) where
  key : κ
  /-- The long name, with its two dashes. -/
  long : Text
  /-- The letter of the short name, if there is one. -/
  short : Option CodePoint
  takesValue : Bool

/-- The two dashes that long names begin with; alone they end the options. -/
def longMark : Text := "--"

/-- The short name for a letter. -/
def shortName (letter : CodePoint) : Text := ['-', letter]

/-- The names of an option as they are shown in reports. -/
def OptionForm.shown {κ : Type} (form : OptionForm κ) : Text :=
  match form.short with
  | some letter => "'" ++ form.long ++ "' / '" ++ shortName letter ++ "'"
  | none => "'" ++ form.long ++ "'"

/-- The words of a command line, sorted: the options in order, each with its value, which is empty
for one that takes none, and the other arguments. -/
structure Arguments (κ : Type) where
  options : List (κ × Text)
  others : List Text

namespace Arguments

variable {κ : Type}

/-- What a word with options comes to: the options that are complete, and an option, by its name,
whose value is the next word. -/
abbrev Cluster (κ : Type) := List (κ × Text) × Option (κ × Text)

/-- Whether a word holds options. -/
def holdsOptions (word : Text) : Bool := word.head? = some ('-' : CodePoint) && 1 < word.length

/-- Reads letters as short options. What follows an option that takes a value is its value. -/
def readShort (forms : List (OptionForm κ)) : Text → Except UsageProblem (Cluster κ)
  | [] => .ok ([], none)
  | c :: rest =>
    match forms.find? fun form => form.short = some c with
    | none => .error (.unknownOption (shortName c) [])
    | some form =>
      if form.takesValue then
        if rest = [] then .ok ([], some (form.key, shortName c)) else .ok ([(form.key, rest)], none)
      else (readShort forms rest).map fun (options, awaiting) =>
        ((form.key, []) :: options, awaiting)

/-- Reads a long option whose form is known, with the value attached to it, if there is one. -/
def readLong (form : OptionForm κ) (attached : Option Text) : Except UsageProblem (Cluster κ) :=
  match form.takesValue, attached with
  | true, some value => .ok ([(form.key, value)], none)
  | true, none => .ok ([], some (form.key, form.long))
  | false, some _ => .error (.valueRefused form.long)
  | false, none => .ok ([(form.key, [])], none)

/-- Reads a word with options. -/
def readWord (forms : List (OptionForm κ)) (word : Text) : Except UsageProblem (Cluster κ) :=
  let name := word.takeWhile fun (c : CodePoint) => c ≠ '='
  match forms.find? fun form => form.long = name with
  | some form => readLong form (word.dropWhile fun (c : CodePoint) => c ≠ '=').tail?
  | none =>
    if longMark.isPrefixOf word then
      .error (.unknownOption name (Similarity.closest name (forms.map OptionForm.long)))
    else readShort forms (word.drop 1)

/-- Sorts words. `awaiting` is an option whose value is the next word. Unless other arguments may
stand between options, the first of them ends the options. -/
def parseFrom (forms : List (OptionForm κ)) (mixed : Bool) :
    (awaiting : Option (κ × Text)) → List Text → Except UsageProblem (Arguments κ)
  | none, [] => .ok ⟨[], []⟩
  | some (_, name), [] => .error (.valueMissing name)
  | some (key, _), word :: rest => do
    let later ← parseFrom forms mixed none rest
    return { later with options := (key, word) :: later.options }
  | none, word :: rest =>
    if word = longMark then .ok ⟨[], rest⟩
    else if holdsOptions word then do
      let (options, awaiting) ← readWord forms word
      let later ← parseFrom forms mixed awaiting rest
      return { later with options := options ++ later.options }
    else if mixed then do
      let later ← parseFrom forms mixed none rest
      return { later with others := word :: later.others }
    else .ok ⟨[], word :: rest⟩

/-- Sorts the words of a command line. -/
def parse (forms : List (OptionForm κ)) (mixed : Bool) (words : List Text) :
    Except UsageProblem (Arguments κ) :=
  parseFrom forms mixed none words

/-! ## Looking up options -/

variable [DecidableEq κ]

/-- The values that an option is given, in order. -/
def values (arguments : Arguments κ) (key : κ) : List Text :=
  (arguments.options.filter fun option => option.1 = key).map (·.2)

/-- The value of an option; of several the last one counts. -/
def value? (arguments : Arguments κ) (key : κ) : Option Text := (arguments.values key).getLast?

/-- Whether an option is given. -/
def has (arguments : Arguments κ) (key : κ) : Bool := !(arguments.values key).isEmpty

/-- The options that are given, in the order in which each is given first. -/
def keys (arguments : Arguments κ) : List κ := (arguments.options.map (·.1)).eraseDups

/-- The first problem with the value of an option, in the order in which options are given. -/
def firstProblem? {ε : Type} (arguments : Arguments κ) (problem? : κ → Text → Option ε) :
    Option ε :=
  arguments.keys.findSome? fun key => (arguments.value? key).bind (problem? key)

end Arguments

end ContentQuery.CommandLine
