import SubscriptionGateway.Json.Merge
import SubscriptionGateway.Json.Reader
import SubscriptionGateway.Settings.Document
import SubscriptionGateway.Settings.Override

/-! Settings in layers: the defaults, over them a file if there is one, over that the environment.
What comes out has to be something the server can run with. -/
namespace SubscriptionGateway

/-- What stands at the path of the settings file. -/
inductive SettingsSource where
  | absent
  | directory
  | file (content : ByteArray)

inductive SettingsReadFault where
  | isDirectory
  | notUtf8
deriving DecidableEq, Repr

inductive SettingsError where
  | read (cause : SettingsReadFault)
  | syntaxError
  | data (cause : DataError)
  | invalid (cause : InvalidSetting)
deriving DecidableEq, Repr

def SettingsReadFault.message : SettingsReadFault → String
  | .isDirectory => "Is a directory (os error 21)"
  | .notUtf8 => "stream did not contain valid UTF-8"

def SettingsError.message : SettingsError → String
  | .read cause => "failed to read settings file: " ++ cause.message
  | .syntaxError => "<syntax>"
  | .data cause => "failed to parse settings JSON: " ++ cause.message
  | .invalid cause => "invalid settings value: " ++ cause.message

namespace Settings

/-- Settings out of a document, without a look at the values. -/
def ofJson (document : Json) : Except SettingsError Settings :=
  (decode document).mapError .data

def validate (s : Settings) : Except SettingsError Unit :=
  match s.fault? with
  | some cause => .error (.invalid cause)
  | none => .ok ()

/-- The defaults under the content of a settings file. -/
def ofText (text : String) : Except SettingsError Settings :=
  match Json.read? text with
  | none => .error .syntaxError
  | some document => ofJson (default.toJson.merge document)

/-- The defaults under a settings file, if there is one. -/
def ofSource : SettingsSource → Except SettingsError Settings
  | .absent => ofJson default.toJson
  | .directory => .error (.read .isDirectory)
  | .file content =>
    match String.fromUTF8? content with
    | none => .error (.read .notUtf8)
    | some text => ofText text

/-- All layers, validated. -/
def load (source : SettingsSource) (env : Environment) : Except SettingsError Settings := do
  let layered := (← ofSource source).override env
  layered.validate
  return layered

/-- A path below a directory; an empty directory stands for the current one. -/
def joinPath (directory name : String) : String :=
  if directory.isEmpty || directory.toList.getLast? == some '/' then directory ++ name
  else directory ++ "/" ++ name

/-- Where the settings file is, unless another is named, given the home directory. -/
def defaultPath (home : Option String) : String :=
  joinPath (joinPath (home.getD "/tmp") ".gqlws") "settings.json"

end Settings

end SubscriptionGateway
