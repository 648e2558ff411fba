import SubscriptionGateway.Server.Config

/-! The options of the gateway's command line. An option and its value are two arguments, or one
with an equals sign between them. The value of an option is looked at when the next option is met
or the arguments end, so that an unknown argument is reported ahead of it; a value behind an equals
sign is looked at once. -/
namespace SubscriptionGateway

inductive ArgumentError where
  | unknownArgument
  | missingValue
  | badValue
  | unneededValue
  /-- An option is given twice. -/
  | repeatedOption
  | helpRequested
deriving DecidableEq, Repr

def ArgumentError.message : ArgumentError → String
  | .unknownArgument => "unexpected argument"
  | .missingValue => "a value is required"
  | .badValue => "invalid value"
  | .unneededValue => "unexpected value"
  | .repeatedOption => "an option cannot be used twice"
  | .helpRequested => "help requested"

inductive CommandOption where
  | host
  | port
  | config
  | initTimeoutMs
  | logLevel
deriving DecidableEq, Repr

/-- The options that were given. -/
structure Arguments where
  host : Option String
  port : Option Nat
  /-- The path of the settings file. -/
  config : Option String
  initTimeoutMs : Option Nat
  logLevel : Option String
deriving DecidableEq, Repr

def CommandOption.ofName? : String → Option CommandOption
  | "host" => some .host
  | "port" => some .port
  | "config" => some .config
  | "init-timeout-ms" => some .initTimeoutMs
  | "log-level" => some .logLevel
  | _ => none

/-- A port number, which may have a sign: minus zero is zero. -/
def readPort? (text : String) : Option Nat :=
  match text.toList with
  | '-' :: digits => if !digits.isEmpty && digits.all (· == '0') then some 0 else none
  | _ => readUnsigned? UInt16.size text

namespace Arguments

def empty : Arguments := ⟨none, none, none, none, none⟩

def has (a : Arguments) : CommandOption → Bool
  | .host => a.host.isSome
  | .port => a.port.isSome
  | .config => a.config.isSome
  | .initTimeoutMs => a.initTimeoutMs.isSome
  | .logLevel => a.logLevel.isSome

/-- Takes the value of an option. -/
def put (a : Arguments) (option : CommandOption) (value : String) :
    Except ArgumentError Arguments :=
  match option with
  | .host => .ok { a with host := some value }
  | .port =>
    match readPort? value with
    | some port => .ok { a with port := some port }
    | none => .error .badValue
  | .config => if value.isEmpty then .error .missingValue else .ok { a with config := some value }
  | .initTimeoutMs =>
    match readWithin? UInt64.size 1 (UInt64.size - 1) value with
    | some limit => .ok { a with initTimeoutMs := some limit }
    | none => .error .badValue
  | .logLevel => .ok { a with logLevel := some value }

/-- Takes an option with its value, if it has one. -/
def give (a : Arguments) (option : CommandOption) : Option String → Except ArgumentError Arguments
  | none => .error .missingValue
  | some value => if a.has option then .error .repeatedOption else a.put option value

end Arguments

/-- What a single argument is. -/
inductive ArgumentForm where
  /-- A name after two dashes, with what follows an equals sign. -/
  | long (name : String) (attached : Option String)
  /-- Letters after one dash. -/
  | short (letters : List Char)
  /-- Two dashes: no options follow. -/
  | terminator
  | plain
deriving DecidableEq, Repr

def ArgumentForm.ofText (text : String) : ArgumentForm :=
  match text.toList with
  | ['-', '-'] => .terminator
  | '-' :: '-' :: rest =>
    let name := String.ofList (rest.takeWhile (· != '='))
    match rest.dropWhile (· != '=') with
    | [] => .long name none
    | _ :: value => .long name (some (String.ofList value))
  | ['-'] => .plain
  | '-' :: letters => .short letters
  | _ => .plain

/-- The options taken so far, and the one whose value is still to be looked at. -/
structure ArgumentReader where
  taken : Arguments
  pending : Option (CommandOption × Option String)

namespace ArgumentReader

def start : ArgumentReader := ⟨Arguments.empty, none⟩

/-- Takes the option that is pending. -/
def settle (r : ArgumentReader) : Except ArgumentError Arguments :=
  match r.pending with
  | none => .ok r.taken
  | some (option, value) => r.taken.give option value

def showHelp (r : ArgumentReader) : Except ArgumentError ArgumentReader := do
  let _ ← r.settle
  throw .helpRequested

/-- Takes one argument that is not the terminator. -/
def step (r : ArgumentReader) (text : String) : Except ArgumentError ArgumentReader :=
  match ArgumentForm.ofText text with
  | .long "help" none => r.showHelp
  | .long "help" (some _) => .error .unneededValue
  | .long name attached =>
    match CommandOption.ofName? name with
    | none => .error .unknownArgument
    | some option => do
      let taken ← r.settle
      match attached with
      | none => return ⟨taken, some (option, none)⟩
      | some value => return ⟨← taken.give option (some value), none⟩
  | .short ('h' :: _) => r.showHelp
  | .short _ | .terminator => .error .unknownArgument
  | .plain =>
    match r.pending with
    | some (option, none) => .ok { r with pending := some (option, some text) }
    | _ => .error .unknownArgument

/-- Takes all arguments; nothing may follow the terminator. -/
def run (r : ArgumentReader) : List String → Except ArgumentError Arguments
  | [] => r.settle
  | text :: rest =>
    if ArgumentForm.ofText text = .terminator then
      if rest.isEmpty then r.settle else .error .unknownArgument
    else
      match r.step text with
      | .ok next => next.run rest
      | .error cause => .error cause

end ArgumentReader

namespace Arguments

/-- The options in the arguments of a command line, without the name of the program. -/
def parse (arguments : List String) : Except ArgumentError Arguments :=
  ArgumentReader.start.run arguments

/-- The command line takes precedence over the settings. -/
def apply (a : Arguments) (c : ServerConfig) : ServerConfig :=
  { c with
    host := a.host.getD c.host
    port := a.port.getD c.port
    connection := { c.connection with
      initTimeout := a.initTimeoutMs.getD c.connection.initTimeout } }

/-- What the program says about itself. -/
def usage : String :=
  "Usage: subscription-gateway [OPTIONS]\n\n"
    ++ "  --host <HOST>                        Host to bind\n"
    ++ "  --port <PORT>                        Port to bind, 0 for any\n"
    ++ "  --config <CONFIG>                    Settings file\n"
    ++ "  --init-timeout-ms <INIT_TIMEOUT_MS>  Time for connection_init, in milliseconds\n"
    ++ "  --log-level <LOG_LEVEL>              Log level\n"
    ++ "  -h, --help                           Print help\n"

end Arguments

end SubscriptionGateway
