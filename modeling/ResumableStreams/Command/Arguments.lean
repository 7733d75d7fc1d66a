import ResumableStreams.Command
import ResumableStreams.Text.Control
import ResumableStreams.Text.Numeral

namespace ResumableStreams

/-!
# The command by its arguments

This is the edge of the command: it is told by arguments what to do, and shows
what it has to say where there is no terminal.

Arguments are options, values of options, and sources, in any order.  A long
option takes its value after an equals sign or from the next argument; short
options may share one dash, and the rest of the argument, or else the next
argument, is the value of the first that takes one.  Two dashes alone end the
options, and one dash alone is a source.  Of an option that is repeated the
last one counts.
-/

namespace Command

/-- What an option sets. -/
inductive Setting where
  | bytes
  | capacity
  | output
  | sync
  | verbose
  | help
  deriving DecidableEq

def Setting.takesValue : Setting -> Bool
  | .bytes | .capacity | .output => true
  | .sync | .verbose | .help => false

def Setting.name : Setting -> String
  | .bytes => "--bytes"
  | .capacity => "--capacity"
  | .output => "--output"
  | .sync => "--sync"
  | .verbose => "--verbose"
  | .help => "--help"

def Setting.all : List Setting := [.bytes, .capacity, .output, .sync, .verbose, .help]

def Setting.ofLong (name : String) : Option Setting :=
  Setting.all.find? fun setting => setting.name = name

def Setting.ofLetter : Char -> Option Setting
  | 'o' => some .output
  | 'v' => some .verbose
  | _ => none

/-- Why arguments are refused. -/
inductive UsageError where
  | unknownOption (name : String)
  | missingValue (setting : Setting)
  | unwantedValue (setting : Setting)
  | notAnInteger (setting : Setting) (text : String)
  | belowMinimum (setting : Setting) (value minimum : Int)
  | nullInPath (setting : Setting)
  deriving DecidableEq

def UsageError.message : UsageError -> String
  | .unknownOption name => s!"No such option: {name}"
  | .missingValue setting => s!"Option '{setting.name}' requires an argument."
  | .unwantedValue setting => s!"Option '{setting.name}' does not take a value."
  | .notAnInteger setting text =>
    s!"Invalid value for '{setting.name}': '{text}' is not a valid integer."
  | .belowMinimum setting value minimum =>
    s!"Invalid value for '{setting.name}': {value} is not in the range x>={minimum}."
  | .nullInPath setting => s!"Invalid value for '{setting.name}': embedded null byte."

/-- The settings that one argument makes, with their values, and whether the
next argument has been used as a value. -/
structure Given where
  settings : List (Setting × String)
  tookNext : Bool

/-- A setting with its value, from the next argument if need be. -/
def Given.of (setting : Setting) (value : Option String) (next : Option String) :
    Except UsageError Given :=
  match setting.takesValue, value, next with
  | true, some value, _ => .ok ⟨[(setting, value)], false⟩
  | true, none, some next => .ok ⟨[(setting, next)], true⟩
  | true, none, none => .error (.missingValue setting)
  | false, none, _ => .ok ⟨[(setting, "")], false⟩
  | false, some _, _ => .error (.unwantedValue setting)

/-- Short options that share one dash. -/
def readLetters (next : Option String) : List Char -> Except UsageError Given
  | [] => .ok ⟨[], false⟩
  | letter :: rest =>
    match Setting.ofLetter letter with
    | none => .error (.unknownOption (String.ofList ['-', letter]))
    | some setting =>
      if setting.takesValue then
        Given.of setting (if rest.isEmpty then none else some (String.ofList rest)) next
      else do
        let others <- readLetters next rest
        .ok { others with settings := (setting, "") :: others.settings }

/-- One argument that starts with a dash and is longer. -/
def readOption (argument : String) (next : Option String) : Except UsageError Given :=
  let chars := argument.toList
  let name := String.ofList (chars.takeWhile (· ≠ '='))
  let value := match chars.dropWhile (· ≠ '=') with
    | [] => none
    | _ :: value => some (String.ofList value)
  match Setting.ofLong name with
  | some setting => Given.of setting value next
  | none =>
    if argument.startsWith "--" then .error (.unknownOption name)
    else readLetters next (chars.drop 1)

def isOption (argument : String) : Bool := argument.startsWith "-" && argument ≠ "-"

/-- All settings, in order, and all sources, where `used` tells that the first
argument has been used as a value. -/
def readFrom : (used : Bool) -> List String ->
    Except UsageError (List (Setting × String) × List String)
  | _, [] => .ok ([], [])
  | true, _ :: rest => readFrom false rest
  | false, argument :: rest =>
    if argument = "--" then .ok ([], rest)
    else if isOption argument then do
      let given <- readOption argument rest.head?
      let (settings, sources) <- readFrom given.tookNext rest
      .ok (given.settings ++ settings, sources)
    else do
      let (settings, sources) <- readFrom false rest
      .ok (settings, argument :: sources)

/-- All settings, in order, and all sources. -/
def readArguments (arguments : List String) :
    Except UsageError (List (Setting × String) × List String) :=
  readFrom false arguments

/-- The value of a setting: the last one given. -/
def valueOf (settings : List (Setting × String)) (setting : Setting) : Option String :=
  settings.reverse.lookup setting

/-- The number that a setting is given, which must not be below a minimum. -/
def numberOf (settings : List (Setting × String)) (setting : Setting) (minimum : Nat) :
    Except UsageError (Option { number : Nat // minimum ≤ number }) :=
  match valueOf settings setting with
  | none => .ok none
  | some text =>
    match Text.readNumeral text with
    | some value =>
      if enough : minimum ≤ value then .ok (some ⟨value.toNat, Int.toNat_le_toNat enough⟩)
      else .error (.belowMinimum setting value minimum)
    | none => .error (.notAnInteger setting text)

/-- The path that a setting is given.  No path contains a null character. -/
def pathOf (settings : List (Setting × String)) (setting : Setting) :
    Except UsageError (Option { path : String // path.toList.contains '\x00' = false }) :=
  match valueOf settings setting with
  | none => .ok none
  | some path =>
    if contains : path.toList.contains '\x00' = true then .error (.nullInPath setting)
    else .ok (some ⟨path, eq_false_of_ne_true contains⟩)

/-- The options that settings make. -/
def Options.ofSettings (settings : List (Setting × String)) (sources : List String) :
    Except UsageError Options := do
  let has := fun setting => (valueOf settings setting).isSome
  let bytes <- numberOf settings .bytes 0
  let capacity <- numberOf settings .capacity 1
  let output <- pathOf settings .output
  let capacity := capacity.getD ⟨Read.defaultCapacity, by decide⟩
  .ok {
    bytes := bytes.map Subtype.val
    capacity := capacity.val
    capacity_pos := capacity.property
    output := output.map Subtype.val
    output_clean := by
      rintro _ named
      rcases Option.map_eq_some_iff.mp named with ⟨path, -, rfl⟩
      exact path.property
    concurrency := if has .sync then .blocking else .asynchronous
    verbose := has .verbose
    sources := sources }

/-- The options that arguments ask for, if they do not ask for help. -/
def Options.parse (arguments : List String) : Except UsageError (Option Options) := do
  let (settings, sources) <- readArguments arguments
  let options <- Options.ofSettings settings sources
  .ok (if (valueOf settings .help).isSome then none else some options)

/-- Run the command with the given arguments, where no terminal shows what it has
to say. -/
def runArguments (limit : Nat) (schedule : List Nat) (arguments : List String)
    (context : Context Host) : Outcome :=
  let ended := fun (exitCode : Nat) (stderr : String) =>
    ({ exitCode, stdout := [], stderr, escaped := none, host := context.state } : Outcome)
  match Options.parse arguments with
  | .error refusal => ended 2 (refusal.message ++ "\n")
  | .ok none => ended 0 ""
  | .ok (some options) => run Text.withoutSequences limit schedule options context

end Command

end ResumableStreams
