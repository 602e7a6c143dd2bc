import Flowchart.Document.Basic
import Flowchart.Reading.Scalar
import Flowchart.Refusal
import Flowchart.Text.LetterCase

/-!
Settings: eight values with defaults, taken from arguments or else from the environment, under
names in any case of letters.
-/

namespace Flowchart

open Reading

inductive LogLevel where
  | critical
  | error
  | warning
  | info
  | debug
  deriving DecidableEq, Repr

namespace LogLevel

def all : List LogLevel := [.critical, .error, .warning, .info, .debug]

def name : LogLevel → Text
  | critical => "CRITICAL"
  | error => "ERROR"
  | warning => "WARNING"
  | info => "INFO"
  | debug => "DEBUG"

/-- The level that a text names, in any case of letters. No name has two letters that are the capital
of one, as SS is of ß. -/
def ofText? (text : Text) : Option LogLevel :=
  all.find? fun level => level.name.codes = text.codes.map (Code.map latinCapital)

@[simp]
theorem ofText?_name (level : LogLevel) : ofText? level.name = some level := by
  cases level <;> decide

def read (value : Json) : Reading LogLevel :=
  match value with
  | .str text =>
      match ofText? text with
      | some level => accepted level
      | none => fault (.refused ("Unknown log level '" ++ text ++ "'"))
  | _ => fault .notText

end LogLevel

structure Settings where
  environment : Text
  logLevel : LogLevel
  dialect : Text
  honorRequired : Bool
  previewIndent : Int
  allowedOrigins : Text
  host : Text
  port : Int
  deriving DecidableEq, Repr

namespace Settings

def default : Settings where
  environment := "dev"
  logLevel := .info
  dialect := defaultDialect
  honorRequired := true
  previewIndent := 2
  allowedOrigins := "*"
  host := "0.0.0.0"
  port := 8000

/-- The value given last under a name, whatever the case of its letters. -/
def given? (name : Text) (entries : List (Text × Json)) : Option Json :=
  (entries.reverse.find? fun entry => lower entry.1 = lower name).map Prod.snd

/-- One setting: from the arguments, else from the environment, else its default. -/
def setting {α : Type} (environment arguments : List (Text × Json)) (name : Text) (default : α)
    (read : Json → Reading α) : Reading α :=
  match (given? name arguments).or (given? name environment) with
  | some value => (read value).under (.name name)
  | none => accepted default

def read (environment arguments : List (Text × Json)) : Reading Settings :=
  let take {α : Type} := setting (α := α) environment arguments
  Settings.mk
    <$> take "ENVIRONMENT" default.environment (fun value => lower <$> text value)
    <*> take "LOG_LEVEL" default.logLevel LogLevel.read
    <*> take "JSON_SCHEMA_DIALECT" default.dialect text
    <*> take "SCHEMA_HONOR_REQUIRED" default.honorRequired flag
    <*> take "PREVIEW_INDENT" default.previewIndent whole
    <*> take "CORS_ALLOWED_ORIGINS" default.allowedOrigins text
    <*> take "API_HOST" default.host text
    <*> take "API_PORT" default.port whole

/-- Settings from the variables of an environment and from arguments. -/
def load (environment arguments : List (Text × Json)) : Except Refusal Settings :=
  (read environment arguments).toExcept.mapError (.invalid "Settings")

end Settings

end Flowchart
