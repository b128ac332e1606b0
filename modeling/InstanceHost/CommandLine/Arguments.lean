/-
**Arguments.**

The command line is `init` or `get KEY`, with options before and behind the command. An option is
`--name VALUE` or `--name=VALUE`; a value of its own does not start with a hyphen, unless it is a
single one. An option may be given once before the command and once behind it, where the second
counts. Behind `--` there are no options. Options that are not given may be set by the environment,
and some have a value of their own.

* `Setting`: the options;
* `Parsed`: what arguments ask for;
* `parseArguments`: the arguments of a command line in an environment.
-/

import InstanceHost.Config.Basic
import InstanceHost.Text.Pieces

namespace InstanceHost.CommandLine

/-- An option. -/
inductive Setting where
  | config
  | configFile
  | moduleDirectory
  | logDirectory
  | logLevel
deriving DecidableEq, Repr

namespace Setting

/-- The options with their names. -/
def byName : List (String × Setting) :=
  [("config", .config), ("config-file", .configFile), ("module-dir", .moduleDirectory),
    ("log-dir", .logDirectory), ("log-level", .logLevel)]

/-- The option with a name. -/
def ofName? (name : String) : Option Setting :=
  (byName.find? fun entry => entry.1 == name).map (·.2)

/-- The variable of the environment that sets an option. -/
def variableName? : Setting → Option String
  | .config => some "MIZE_CONFIG"
  | .configFile => some "MIZE_CONFIG_FILE"
  | .moduleDirectory => some "MIZE_MODULE_DIR"
  | .logDirectory => none
  | .logLevel => none

/-- Whether the value of an option is a path, which is never empty. -/
def isPath : Setting → Bool
  | .configFile => true
  | .moduleDirectory => true
  | _ => false

/-- Whether an option may have a value. -/
def admits (setting : Setting) (value : String) : Bool :=
  !(setting.isPath && value == "")

end Setting

/-- The values given for options, each option at most once. -/
abbrev Given := List (Setting × String)

/-- The value given for an option. -/
def Given.value? (given : Given) (setting : Setting) : Option String :=
  (given.find? fun entry => entry.1 == setting).map (·.2)

/-- One more value, if the option is free and admits it. -/
def Given.add? (given : Given) (setting : Setting) (value : String) : Option Given :=
  if (given.value? setting).isSome || !setting.admits value then none
  else some (given ++ [(setting, value)])

/-- What to do with an instance. -/
inductive Command where
  | init
  | get (key : String)
deriving DecidableEq, Repr

/-- A complete command line. -/
structure Invocation where
  command : Command
  config : String
  configFile : Option String
  moduleDirectory : String
  logDirectory : Option String
  logLevel : Option String
deriving DecidableEq, Repr

/-- What arguments ask for. -/
inductive Parsed where
  | misuse
  | version
  | help
  | run (invocation : Invocation)
deriving DecidableEq, Repr

/-! ### Single arguments -/

/-- What a single argument is. -/
inductive Argument where
  /-- The mark behind which there are no options. -/
  | separator
  /-- An option by name, with a value behind an equals sign if there is one. -/
  | long (name : String) (value : Option String)
  /-- An option of one letter, perhaps with more behind it. -/
  | short (letter : Char)
  | plain (text : String)
deriving DecidableEq, Repr

/-- The option behind two hyphens. -/
def classifyLong (characters : List Char) : Argument :=
  match Text.cutAt '=' characters with
  | some (name, value) => .long (String.ofList name) (some (String.ofList value))
  | none => .long (String.ofList characters) none

/-- What a single argument is. -/
def classify (argument : String) : Argument :=
  match argument.toList with
  | ['-', '-'] => .separator
  | '-' :: '-' :: rest => classifyLong rest
  | '-' :: letter :: _ => .short letter
  | _ => .plain argument

/-- Whether an argument can be the value of the option before it. -/
def isValue (argument : String) : Bool :=
  match classify argument with
  | .plain _ => true
  | _ => false

/-! ### Options -/

/-- What an option does to the arguments: it takes a value, ends everything, or is refused. -/
inductive OptionStep where
  /-- The values with that of the option, and the arguments behind it. -/
  | taken (given : Given) (rest : List String)
  /-- The answer that the option asks for at once. -/
  | answered (parsed : Parsed)

/-- A value for an option. -/
def takeValue (given : Given) (setting : Setting) (value : String) (rest : List String) :
    OptionStep :=
  match given.add? setting value with
  | some longer => .taken longer rest
  | none => .answered .misuse

/-- An option by name. -/
def stepLong (given : Given) (atTop : Bool) (name : String) (value : Option String)
    (rest : List String) : OptionStep :=
  match Setting.ofName? name, value, rest with
  | some setting, some value, rest => takeValue given setting value rest
  | some setting, none, value :: rest =>
    if isValue value then takeValue given setting value rest else .answered .misuse
  | some _, none, [] => .answered .misuse
  | none, none, _ =>
    if name = "help" then .answered .help
    else if name = "version" ∧ atTop = true then .answered .version
    else .answered .misuse
  | none, some _, _ => .answered .misuse

/-- An option of one letter. -/
def stepShort (atTop : Bool) (letter : Char) : Parsed :=
  if letter = 'h' then .help
  else if letter = 'V' ∧ atTop = true then .version
  else .misuse

/-! ### The environment -/

/-- The variables of an environment. -/
abbrev Environment := List (String × String)

/-- The value of a variable. -/
def Environment.value? (environment : Environment) (name : String) : Option String :=
  (environment.find? fun entry => entry.1 == name).map (·.2)

/-- The value that the environment sets for an option. -/
def Environment.setting? (environment : Environment) (setting : Setting) : Option String :=
  setting.variableName?.bind environment.value?

/-- Whether the environment sets nothing that an option without a given value does not admit. -/
def Environment.fits (environment : Environment) (given : Given) : Bool :=
  Setting.byName.all fun (_, setting) =>
    match given.value? setting, environment.setting? setting with
    | none, some value => setting.admits value
    | _, _ => true

/-! ### Command lines -/

/-- Completes a command with the values given before and behind it. -/
def complete (environment : Environment) (before behind : Given) (command : Command) : Parsed :=
  if environment.fits before && environment.fits behind then
    let value? := fun setting =>
      ((behind.value? setting).or (before.value? setting)).or (environment.setting? setting)
    .run
      { command := command
        config := (value? .config).getD ""
        configFile := value? .configFile
        moduleDirectory := (value? .moduleDirectory).getD defaultModuleDirectory
        logDirectory := value? .logDirectory
        logLevel := value? .logLevel }
  else .misuse

/-- A command while its arguments are read: `get` still needs its key. -/
inductive Draft where
  | init
  | get (key : Option String)

/-- A command with one more plain argument. -/
def Draft.take? : Draft → String → Option Draft
  | .get none, key => some (.get (some key))
  | _, _ => none

/-- A command that has all its arguments. -/
def Draft.command? : Draft → Option Command
  | .init => some .init
  | .get key => key.map Command.get

/-- The end of a command line. -/
def finish (environment : Environment) (before behind : Given) (draft : Draft) : Parsed :=
  match draft.command? with
  | some command => complete environment before behind command
  | none => .misuse

/-- Plain arguments up to the end of a command line. -/
def readPlain (environment : Environment) (before behind : Given) (draft : Draft) :
    List String → Parsed
  | [] => finish environment before behind draft
  | argument :: rest =>
    match draft.take? argument with
    | some draft => readPlain environment before behind draft rest
    | none => .misuse

/-- The arguments behind a command; each step takes at least one. -/
def readBehind (environment : Environment) (before : Given) :
    (bound : Nat) → Given → Draft → List String → Parsed
  | _, behind, draft, [] => finish environment before behind draft
  | 0, _, _, _ => .misuse
  | bound + 1, behind, draft, argument :: rest =>
    match classify argument with
    | .separator => readPlain environment before behind draft rest
    | .short letter => stepShort false letter
    | .long name value =>
      match stepLong behind false name value rest with
      | .answered parsed => parsed
      | .taken behind rest => readBehind environment before bound behind draft rest
    | .plain text =>
      match draft.take? text with
      | some draft => readBehind environment before bound behind draft rest
      | none => .misuse

/-- The arguments behind the word `help`. -/
def readHelp (rest : List String) : Parsed :=
  if rest = [] ∨ rest = ["init"] ∨ rest = ["get"] ∨ rest = ["help"] then .help else .misuse

/-- The command behind a word. -/
def readCommand (environment : Environment) (before : Given) (word : String)
    (rest : List String) : Parsed :=
  if word = "init" then readBehind environment before rest.length [] .init rest
  else if word = "get" then readBehind environment before rest.length [] (.get none) rest
  else if word = "help" then readHelp rest
  else .misuse

/-- The arguments up to a command; each step takes at least one. -/
def readBefore (environment : Environment) : (bound : Nat) → Given → List String → Parsed
  | _, _, [] => .misuse
  | 0, _, _ => .misuse
  | bound + 1, before, argument :: rest =>
    match classify argument with
    | .separator => .misuse
    | .short letter => stepShort true letter
    | .long name value =>
      match stepLong before true name value rest with
      | .answered parsed => parsed
      | .taken before rest => readBefore environment bound before rest
    | .plain text => readCommand environment before text rest

/-- **The arguments of a command line in an environment.** -/
def parseArguments (environment : Environment) (arguments : List String) : Parsed :=
  readBefore environment arguments.length [] arguments

end InstanceHost.CommandLine
