/-!
# Command lines

A command line names a command, perhaps one of its own commands, and options. An option is a flag,
or takes a value, which stands behind an equals sign or in the next word. No option may be repeated;
whether an option has its value is settled when the next option, or the end, is reached. Behind two
dashes words are no options, and no command takes plain words.
-/

namespace Attestation.CommandLine

/-- Why a command line is refused. -/
inductive UsageError where
  | missingCommand
  | unknownCommand
  | unknownArgument
  /-- An option that has to be given is not. -/
  | missingOption
  | repeatedOption
  /-- An option lacks its value, or its value may not be empty. -/
  | invalidValue
  /-- A flag has a value. -/
  | unneededValue
  /-- The version of the program is asked for. -/
  | version
deriving DecidableEq

/-! ### Options -/

/-- What an option takes. -/
inductive OptionKind where
  | flag
  /-- A text. -/
  | text
  /-- The path of a file, which is not empty. -/
  | path
deriving DecidableEq

/-- An option. -/
structure OptionSpec where
  /-- The name behind the dashes. -/
  name : String
  /-- What it takes. -/
  kind : OptionKind
deriving DecidableEq

/-- The options read so far. -/
structure OptionState where
  /-- The names and values of options; flags have an empty value. -/
  given : List (String × String) := []
  /-- An option whose value is not settled, and the value, if it has been read. -/
  pending : Option (OptionSpec × Option String) := none
  /-- Whether two dashes have been read. -/
  closed : Bool := false

namespace OptionState

/-- The value of an option. -/
def value? (s : OptionState) (name : String) : Option String :=
  (s.given.find? (·.1 == name)).map (·.2)

/-- Takes the value of an option. -/
def record (s : OptionState) (spec : OptionSpec) (value : String) :
    Except UsageError OptionState :=
  if (s.value? spec.name).isSome then .error .repeatedOption
  else if spec.kind = .path ∧ value = "" then .error .invalidValue
  else .ok { s with given := s.given ++ [(spec.name, value)] }

/-- Settles the value of the option before. -/
def settle (s : OptionState) : Except UsageError OptionState :=
  match s.pending with
  | none => .ok s
  | some (_, none) => .error .invalidValue
  | some (spec, some value) => { s with pending := none }.record spec value

/-- Reads a word that starts with two dashes, which are left out. -/
def readLong (specs : List OptionSpec) (s : OptionState) (word : List Char) :
    Except UsageError OptionState :=
  let name := String.ofList (word.takeWhile (· ≠ '='))
  let value? := match word.dropWhile (· ≠ '=') with
    | _ :: value => some (String.ofList value)
    | [] => none
  match specs.find? (·.name == name) with
  | none => .error .unknownArgument
  | some spec =>
    match spec.kind, value? with
    | .flag, some _ => .error .unneededValue
    | .flag, none => do (← s.settle).record spec ""
    | _, some value => do (← s.settle).record spec value
    | _, none => do return { ← s.settle with pending := some (spec, none) }

/-- Reads a word. -/
def read (specs : List OptionSpec) (s : OptionState) (word : String) :
    Except UsageError OptionState :=
  if s.closed then .error .unknownArgument
  else
    match word.toList with
    | ['-', '-'] => .ok { s with closed := true }
    | '-' :: '-' :: long => s.readLong specs long
    | '-' :: _ :: _ => .error .unknownArgument
    | _ =>
      match s.pending with
      | some (spec, none) => .ok { s with pending := some (spec, some word) }
      | _ => .error .unknownArgument

end OptionState

/-- Reads options up to the end of the command line. -/
def readOptions (specs : List OptionSpec) (words : List String) :
    Except UsageError OptionState := do
  (← words.foldlM (OptionState.read specs) {}).settle

/-! ### Commands -/

/-- Why a word, with more behind it, names none of some commands. -/
def refuseCommand (names : List String) (versioned : Bool) (word : String) (behind : List String) :
    UsageError :=
  match word.toList with
  | ['-', '-'] =>
    match behind with
    | [] => .missingCommand
    | next :: _ => if names.contains next then .unknownArgument else .unknownCommand
  | '-' :: '-' :: long =>
    if versioned ∧ long = "version".toList then .version
    else if versioned ∧ long.takeWhile (· ≠ '=') = "version".toList then .unneededValue
    else .unknownArgument
  | '-' :: short :: _ => if versioned ∧ short = 'V' then .version else .unknownArgument
  | _ => .unknownCommand

/-- The option that names the settings of a service. -/
def configOption : OptionSpec := ⟨"config", .text⟩

/-- The option that names a keystore. -/
def keystoreOption : OptionSpec := ⟨"keystore", .path⟩

/-- Reads the options of a service: the file of its settings. -/
def readServer (words : List String) : Except UsageError String := do
  match (← readOptions [configOption] words).value? configOption.name with
  | some config => return config
  | none => throw .missingOption

/-- What the attesting program is asked to do. -/
inductive AttestingCommand where
  /-- Run the service with the settings in a file. -/
  | server (config : String)
  /-- Make a key and put it into a keystore. -/
  | generateKey (keystore : Option String)
  /-- Show the key in a keystore, in part. -/
  | showKey (keystore : Option String) (hidePrivate hidePublic : Bool)
deriving DecidableEq

namespace AttestingCommand

/-- Reads a command about keys. -/
def readKey : List String → Except UsageError AttestingCommand
  | [] => .error .missingCommand
  | "generate" :: words => do
    return .generateKey ((← readOptions [keystoreOption] words).value? keystoreOption.name)
  | "show" :: words => do
    let options ← readOptions
      [keystoreOption, ⟨"hide-private", .flag⟩, ⟨"hide-public", .flag⟩] words
    return .showKey (options.value? keystoreOption.name)
      (options.value? "hide-private").isSome (options.value? "hide-public").isSome
  | word :: behind => .error (refuseCommand ["generate", "show"] false word behind)

/-- The command of the words behind the name of the program. -/
def ofWords : List String → Except UsageError AttestingCommand
  | [] => .error .missingCommand
  | "server" :: words => server <$> readServer words
  | "key" :: words => readKey words
  | word :: behind => .error (refuseCommand ["server", "key"] true word behind)

end AttestingCommand

/-- What the proving program is asked to do: to run the service with the settings in a file. -/
structure ProvingCommand where
  /-- The file of the settings. -/
  config : String
deriving DecidableEq

/-- The command of the words behind the name of the program. -/
def ProvingCommand.ofWords : List String → Except UsageError ProvingCommand
  | [] => .error .missingCommand
  | "server" :: words => ProvingCommand.mk <$> readServer words
  | word :: behind => .error (refuseCommand ["server"] true word behind)

end Attestation.CommandLine
