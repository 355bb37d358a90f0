/-!
# Arguments

A command takes options and words. An option is a flag or takes a value, and has a long name, after
two dashes, and possibly a letter, after one. A long option may have its value after an equals sign;
letters may be written together, and the first that takes a value takes what is left, or else the
next argument. Two dashes alone end the options. A command either reads options after words too, or
leaves everything from the first word on to somebody else.
-/

namespace MapMetrics.CommandLine

/-- An option of a command. -/
structure OptionSpec (ι : Type) where
  /-- What it is. -/
  id : ι
  /-- Its long name, without the dashes. -/
  long : String
  /-- Its letter, if it has one. -/
  letter : Option Char := none
  /-- Whether it takes a value. -/
  takesValue : Bool := false

/-- A command as far as arguments are concerned. -/
structure CommandSpec (ι : Type) where
  /-- Its options. -/
  options : List (OptionSpec ι)
  /-- Whether options are read after words too. -/
  interspersed : Bool

/-- The ways in which arguments are refused. -/
inductive UsageError where
  /-- There is no such option. -/
  | noSuchOption (name : String)
  /-- The option takes a value, and there is none. -/
  | valueMissing (name : String)
  /-- The option takes no value. -/
  | valueUnexpected (name : String)
  /-- There is no such command. -/
  | noSuchCommand (name : String)
  /-- No command is given. -/
  | commandMissing
  /-- A word that must be given is absent. -/
  | wordMissing (name : String)
  /-- There are more words than are taken. -/
  | wordUnexpected (word : String)
  deriving DecidableEq, Repr

/-- Why the arguments are refused. -/
def UsageError.message : UsageError → String
  | noSuchOption name => "No such option: " ++ name
  | valueMissing name => "Option '" ++ name ++ "' requires an argument."
  | valueUnexpected name => "Option '" ++ name ++ "' does not take a value."
  | noSuchCommand name => "No such command '" ++ name ++ "'."
  | commandMissing => "Missing command."
  | wordMissing name => "Missing argument '" ++ name ++ "'."
  | wordUnexpected word => "Got unexpected extra argument (" ++ word ++ ")"

/-- What was read: options in order, with their values, and words. -/
structure Arguments (ι : Type) where
  /-- Options. -/
  options : List (ι × Option String) := []
  /-- Words, and whatever else is not read. -/
  words : List String := []

namespace Arguments

variable {ι : Type}

/-- Arguments with an option in front. -/
def consOption (id : ι) (value : Option String) (a : Arguments ι) : Arguments ι :=
  { a with options := (id, value) :: a.options }

/-- Arguments with a word in front. -/
def consWord (word : String) (a : Arguments ι) : Arguments ι :=
  { a with words := word :: a.words }

/-- The options that an argument names, and whether the last of them takes the next argument. -/
structure Named (ι : Type) where
  /-- Options with the values that the argument gives them. -/
  options : List (ι × Option String) := []
  /-- An option that takes the next argument, with its name. -/
  pending : Option (ι × String) := none

/-- The options of letters written together. -/
def ofLetters (spec : CommandSpec ι) : List Char → Except UsageError (Named ι)
  | [] => .ok {}
  | c :: rest =>
    let name := String.ofList ['-', c]
    match spec.options.find? fun o => o.letter == some c with
    | none => .error (.noSuchOption name)
    | some o =>
      if o.takesValue then
        if rest.isEmpty then .ok { pending := some (o.id, name) }
        else .ok { options := [(o.id, some (String.ofList rest))] }
      else (ofLetters spec rest).map fun n => { n with options := (o.id, none) :: n.options }

/-- The options of an argument that starts with a dash. -/
def ofDashed (spec : CommandSpec ι) (arg : String) : Except UsageError (Named ι) :=
  let cs := arg.toList
  let name := cs.takeWhile (· != '=')
  let value := if name.length < cs.length then some (String.ofList (cs.drop (name.length + 1)))
    else none
  let shown := String.ofList name
  match spec.options.find? fun o => "--" ++ o.long == shown with
  | some o =>
    match o.takesValue, value with
    | true, some v => .ok { options := [(o.id, some v)] }
    | true, none => .ok { pending := some (o.id, shown) }
    | false, some _ => .error (.valueUnexpected shown)
    | false, none => .ok { options := [(o.id, none)] }
  | none =>
    if cs.take 2 == ['-', '-'] then .error (.noSuchOption shown)
    else ofLetters spec (cs.drop 1)

/-- An argument that names options: a dash and something after it. -/
def isDashed (arg : String) : Bool :=
  match arg.toList with
  | '-' :: _ :: _ => true
  | _ => false

/-- Reads arguments. -/
def read (spec : CommandSpec ι) : List String → Except UsageError (Arguments ι)
  | [] => .ok {}
  | arg :: rest =>
    if arg == "--" then .ok { words := rest }
    else if isDashed arg then
      match ofDashed spec arg with
      | .error e => .error e
      | .ok named =>
        let withOptions (a : Arguments ι) : Arguments ι :=
          named.options.foldr (fun o a => a.consOption o.1 o.2) a
        match named.pending, rest with
        | none, rest => (read spec rest).map withOptions
        | some (_, name), [] => .error (.valueMissing name)
        | some (id, _), value :: rest =>
          (read spec rest).map fun a => withOptions (a.consOption id (some value))
    else if spec.interspersed then (read spec rest).map (consWord arg)
    else .ok { words := arg :: rest }

end Arguments

end MapMetrics.CommandLine
