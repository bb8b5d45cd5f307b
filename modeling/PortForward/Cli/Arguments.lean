/-
# Command line arguments

`ports PATH` shows the ports of a container, `forward PATH` forwards them. Options may stand
before or after the path; a value follows its option as the next argument or attached to it. After
a bare `--` every argument is a word.

* `Invocation.read` : what the arguments ask for, or why they ask for nothing.
-/
import PortForward.Text.Pieces

namespace PortForward.Cli

/-- What to do. -/
inductive Command where
  | ports (path container : String) (json : Bool)
  | forward (path container : String) (remote localPorts address : Option String)
deriving DecidableEq, Repr

/-- A command, and the file with the settings if one is asked for. -/
structure Invocation where
  config : Option String
  command : Command
deriving DecidableEq, Repr

/-- The parts of the program that can be explained. -/
inductive Topic where
  | all
  | ports
  | forward
  /-- The explanation of explanations. -/
  | help
deriving DecidableEq, Repr

/-- Why there is nothing to do. -/
inductive Refusal where
  | version
  | help (topic : Topic)
  | misused
deriving DecidableEq, Repr

/-! ## Options -/

/-- An option that may be given. -/
inductive Switch where
  | config
  | container
  | json
  | remote
  | localPorts
  | address
  | help
  | version
deriving DecidableEq, Repr

namespace Switch

/-- The long name of an option. -/
def name : Switch → String
  | .config => "config"
  | .container => "container"
  | .json => "json"
  | .remote => "remote"
  | .localPorts => "local"
  | .address => "address"
  | .help => "help"
  | .version => "version"

/-- The letter of an option. -/
def letter? : Switch → Option Char
  | .container => some 'c'
  | .help => some 'h'
  | .version => some 'V'
  | _ => none

/-- The option needs a value. -/
def takesValue : Switch → Bool
  | .json => false
  | .help => false
  | .version => false
  | _ => true

end Switch

/-- An option as an argument gives it, with a value if one is attached. -/
structure Given where
  switch : Switch
  value : Option String

/-- How an argument is meant. -/
inductive Argument where
  | word
  | option (given : Given)
  /-- All that follows are words. -/
  | onlyWords
  | unknown

/-- Reads an argument such as `--name` or `--name=value`. -/
def readLong (known : List Switch) (body : List Char) : Argument :=
  let (name, value) :=
    match Text.cutAt '=' body with
    | some (n, v) => (n, some (String.ofList v))
    | none => (body, none)
  match known.find? fun s => s.name.toList = name with
  | some s => .option ⟨s, value⟩
  | none => .unknown

/-- Reads an argument such as `-x`, `-xvalue` or `-x=value`. Of an option without a value only the
letter counts. -/
def readShort (known : List Switch) (letter : Char) (rest : List Char) : Argument :=
  match known.find? fun s => s.letter? = some letter with
  | none => .unknown
  | some s =>
    if !s.takesValue || rest = [] then .option ⟨s, none⟩
    else .option ⟨s, some (String.ofList (if rest.head? = some '=' then rest.tail else rest))⟩

/-- How an argument is meant. -/
def readArgument (known : List Switch) (arg : String) : Argument :=
  match arg.toList with
  | ['-', '-'] => .onlyWords
  | '-' :: '-' :: body => readLong known body
  | '-' :: letter :: rest => readShort known letter rest
  | _ => .word

/-- Cannot be the value of the option before it. -/
def isOptionLike (arg : String) : Bool :=
  match arg.toList with
  | '-' :: _ :: _ => true
  | _ => false

/-! ## A level of the command line -/

/-- What was read so far of a level: the options with their values, and the words. -/
structure Level where
  options : List (Switch × String) := []
  words : List String := []

namespace Level

/-- The value of an option. -/
def value? (l : Level) (s : Switch) : Option String := l.options.lookup s

/-- Adds an option; it must not be given twice. -/
def add (l : Level) (s : Switch) (value : String) : Except Refusal Level :=
  match l.value? s with
  | some _ => .error .misused
  | none => .ok { l with options := (s, value) :: l.options }

/-- Adds words; there may be only so many. -/
def addWords (l : Level) (most : Nat) (ws : List String) : Except Refusal Level :=
  if l.words.length + ws.length ≤ most then .ok { l with words := l.words ++ ws }
  else .error .misused

end Level

/-- Reads arguments up to the first word if there may be none, and else to the end. -/
def readLevel (topic : Topic) (known : List Switch) (most : Nat) :
    List String → Level → Except Refusal (Level × List String)
  | [], l => .ok (l, [])
  | arg :: args, l =>
    match readArgument known arg with
    | .unknown => .error .misused
    | .onlyWords => do return (← l.addWords most args, [])
    | .word => do
      if most = 0 then return (l, arg :: args)
      readLevel topic known most args (← l.addWords most [arg])
    | .option ⟨s, some value⟩ => do
      if !s.takesValue then throw .misused
      readLevel topic known most args (← l.add s value)
    | .option ⟨s, none⟩ =>
      if s = .help then .error (.help topic)
      else if s = .version then .error .version
      else if s.takesValue then
        match args with
        | [] => .error .misused
        | value :: args =>
          if isOptionLike value then .error .misused
          else do readLevel topic known most args (← l.add s value)
      else do readLevel topic known most args (← l.add s "")

/-! ## The whole command line -/

/-- The options of `ports`. -/
def portsSwitches : List Switch := [.config, .container, .json, .help]

/-- The options of `forward`. -/
def forwardSwitches : List Switch := [.config, .container, .remote, .localPorts, .address, .help]

/-- The path and the container, which both commands need. -/
def readTarget (l : Level) : Except Refusal (String × String) :=
  match l.words, l.value? .container with
  | [path], some container => .ok (path, container)
  | _, _ => .error .misused

/-- Reads what follows the name of a command. -/
def readCommand (name : String) (args : List String) : Except Refusal (Command × Option String) :=
  match name with
  | "ports" => do
    let (l, _) ← readLevel .ports portsSwitches 1 args {}
    let (path, container) ← readTarget l
    return (.ports path container (l.value? .json).isSome, l.value? .config)
  | "forward" => do
    let (l, _) ← readLevel .forward forwardSwitches 1 args {}
    let (path, container) ← readTarget l
    return (.forward path container (l.value? .remote) (l.value? .localPorts) (l.value? .address),
      l.value? .config)
  | "help" =>
    match args with
    | [] => .error (.help .all)
    | ["ports"] => .error (.help .ports)
    | ["forward"] => .error (.help .forward)
    | ["help"] => .error (.help .help)
    | _ => .error .misused
  | _ => .error .misused

/-- Reads the arguments. The settings file may be named before and after the command; what stands
after it counts. -/
def Invocation.read (args : List String) : Except Refusal Invocation := do
  let (l, rest) ← readLevel .all [.config, .help, .version] 0 args {}
  match rest with
  | [] => throw .misused
  | name :: rest =>
    let (command, config) ← readCommand name rest
    return ⟨config.or (l.value? .config), command⟩

/-! ## Explanations -/

/-- What the program says about its version. -/
def versionText : String := "kfwd 0.1.0\n"

/-- What the program says about itself. -/
def helpText : Topic → String
  | .all =>
    "Forward local ports into pod containers\n\nUsage: kfwd [OPTIONS] <COMMAND>\n\nCommands:\n" ++
    "  ports    Show forwardable ports of a container\n" ++
    "  forward  Forward ports until interrupted\n" ++
    "  help     Print this message or the help of the given subcommand(s)\n\nOptions:\n" ++
    "      --config <CONFIG>  Path to TOML config file\n" ++
    "  -h, --help             Print help\n" ++
    "  -V, --version          Print version\n"
  | .ports =>
    "Show forwardable ports of a container\n\n" ++
    "Usage: kfwd ports [OPTIONS] --container <CONTAINER> <PATH>\n\nArguments:\n" ++
    "  <PATH>  Pod path, `namespace/name` or a bare name\n\nOptions:\n" ++
    "  -c, --container <CONTAINER>  \n" ++
    "      --config <CONFIG>        Path to TOML config file\n" ++
    "      --json                   Print the port list as JSON\n" ++
    "  -h, --help                   Print help\n"
  | .forward =>
    "Forward ports until interrupted\n\n" ++
    "Usage: kfwd forward [OPTIONS] --container <CONTAINER> <PATH>\n\nArguments:\n" ++
    "  <PATH>  \n\nOptions:\n" ++
    "  -c, --container <CONTAINER>  \n" ++
    "      --config <CONFIG>        Path to TOML config file\n" ++
    "      --remote <REMOTE>        Container port(s); defaults to the suggested value\n" ++
    "      --local <LOCAL>          Local port(s); mirrors the remote ports when omitted\n" ++
    "      --address <ADDRESS>      Local bind address\n" ++
    "  -h, --help                   Print help\n"
  | .help =>
    "Print this message or the help of the given subcommand(s)\n\n" ++
    "Usage: kfwd help [COMMAND]...\n\nArguments:\n" ++
    "  [COMMAND]...  Print help for the subcommand(s)\n"

end PortForward.Cli
