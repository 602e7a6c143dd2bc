import Flowchart.Proofs.Acceptance
import Flowchart.Proofs.LetterCase
import Flowchart.Settings.Basic
import Mathlib.Data.List.Perm.Basic

/-!
Settings that are read from their own values. What was read once is read again as it is: arguments
come before any environment, a text in lower case and the name of a level in capitals stay, and the
other values are of the kind that is read without a change.
-/

namespace Flowchart

namespace LogLevel

theorem capitals_name (level : LogLevel) :
    level.name.codes.map (Code.map latinCapital) = level.name.codes := by
  cases level <;> decide

/-- A text names a level if it is the name once its letters are capitals. -/
theorem ofText?_eq_some_iff {text : Text} {level : LogLevel} :
    ofText? text = some level ↔
      text.codes.map (Code.map latinCapital) = level.name.codes := by
  constructor
  · intro found
    have named : level.name.codes = text.codes.map (Code.map latinCapital) := by
      simpa using List.find?_some found
    exact named.symm
  · intro named
    rw [ofText?, named, ← capitals_name level]
    exact ofText?_name level

end LogLevel

namespace Settings

variable {α : Type} {environment arguments : List (Text × Json)} {name : Text}

/-- Arguments that give each setting its value, under its name. -/
def toArguments (settings : Settings) : List (Text × Json) :=
  [("ENVIRONMENT", .str settings.environment), ("LOG_LEVEL", .str settings.logLevel.name),
    ("JSON_SCHEMA_DIALECT", .str settings.dialect),
    ("SCHEMA_HONOR_REQUIRED", .bool settings.honorRequired),
    ("PREVIEW_INDENT", .int settings.previewIndent),
    ("CORS_ALLOWED_ORIGINS", .str settings.allowedOrigins), ("API_HOST", .str settings.host),
    ("API_PORT", .int settings.port)]

/-- Where no name is repeated, an entry gives its value whatever the order. -/
theorem given?_of_mem {entries : List (Text × Json)} {value : Json}
    (distinct : (entries.map fun entry => lower entry.1).Nodup) (member : (name, value) ∈ entries) :
    given? name entries = some value := by
  rw [given?]
  cases found : entries.reverse.find? fun entry => lower entry.1 = lower name with
  | none =>
      have different := List.find?_eq_none.mp found (name, value) (List.mem_reverse.mpr member)
      simp at different
  | some entry =>
      have listed := List.mem_reverse.mp (List.mem_of_find?_eq_some found)
      have same : lower entry.1 = lower name := by simpa using List.find?_some found
      rw [List.inj_on_of_nodup_map distinct listed member same]
      rfl

/-- An argument counts whatever the environment says. -/
theorem setting_of_given {value : Json} {default : α} {read : Json → Reading α}
    (given : given? name arguments = some value) :
    setting environment arguments name default read = (read value).under (.name name) := by
  rw [setting, given, Option.some_or]

theorem nodup_names_toArguments (settings : Settings) :
    (settings.toArguments.map fun entry => lower entry.1).Nodup := by
  change ((["ENVIRONMENT", "LOG_LEVEL", "JSON_SCHEMA_DIALECT", "SCHEMA_HONOR_REQUIRED",
    "PREVIEW_INDENT", "CORS_ALLOWED_ORIGINS", "API_HOST", "API_PORT"] : List Text).map lower).Nodup
  decide +kernel

/-- Settings are read exactly if each of the eight is. -/
theorem load_eq_ok_iff {settings : Settings} :
    load environment arguments = .ok settings ↔
      (setting environment arguments "ENVIRONMENT" default.environment
        fun value => lower <$> Reading.text value).value? = some settings.environment ∧
      (setting environment arguments "LOG_LEVEL" default.logLevel LogLevel.read).value? =
        some settings.logLevel ∧
      (setting environment arguments "JSON_SCHEMA_DIALECT" default.dialect Reading.text).value? =
        some settings.dialect ∧
      (setting environment arguments "SCHEMA_HONOR_REQUIRED" default.honorRequired
        Reading.flag).value? = some settings.honorRequired ∧
      (setting environment arguments "PREVIEW_INDENT" default.previewIndent Reading.whole).value? =
        some settings.previewIndent ∧
      (setting environment arguments "CORS_ALLOWED_ORIGINS" default.allowedOrigins
        Reading.text).value? = some settings.allowedOrigins ∧
      (setting environment arguments "API_HOST" default.host Reading.text).value? =
        some settings.host ∧
      (setting environment arguments "API_PORT" default.port Reading.whole).value? =
        some settings.port := by
  have whole : load environment arguments = .ok settings ↔
      (read environment arguments).value? = some settings := by
    rw [load]
    cases read environment arguments <;> simp [Reading.toExcept, Except.mapError, Reading.value?]
  rw [whole, read]
  cases settings
  simp only [Reading.value?_seq, Reading.value?_map, Option.bind_eq_some_iff,
    Option.map_eq_some_iff, exists_exists_and_eq_and]
  simp [and_assoc]

/-- The environment of settings that were read is in lower case. -/
theorem lower_environment {settings : Settings}
    (loaded : load environment arguments = .ok settings) :
    lower settings.environment = settings.environment := by
  have accepted := (load_eq_ok_iff.mp loaded).1
  rw [setting] at accepted
  split at accepted
  · next value given =>
    rw [Reading.value?_under, Reading.value?_map, Option.map_eq_some_iff] at accepted
    obtain ⟨content, -, lowered⟩ := accepted
    rw [← lowered, lower_lower]
  · rw [Reading.value?_accepted, Option.some_inj] at accepted
    rw [← accepted]
    decide +kernel

theorem load_toArguments {settings : Settings} {again : List (Text × Json)}
    (order : again.Perm settings.toArguments)
    (settled : lower settings.environment = settings.environment) :
    load environment again = .ok settings := by
  have distinct : (again.map fun entry => lower entry.1).Nodup :=
    (order.map _).nodup_iff.mpr (nodup_names_toArguments settings)
  have taken {α : Type} {name : Text} {default result : α} {read : Json → Reading α} (value : Json)
      (listed : (name, value) ∈ settings.toArguments) (reads : (read value).value? = some result) :
      (setting environment again name default read).value? = some result := by
    have given := given?_of_mem distinct (order.mem_iff.mpr listed)
    rw [setting_of_given given, Reading.value?_under, reads]
  exact load_eq_ok_iff.mpr
    ⟨taken (.str settings.environment) (by simp [toArguments]) (by simp [settled]),
      taken (.str settings.logLevel.name) (by simp [toArguments]) (by simp [LogLevel.read]),
      taken (.str settings.dialect) (by simp [toArguments]) rfl,
      taken (.bool settings.honorRequired) (by simp [toArguments]) rfl,
      taken (.int settings.previewIndent) (by simp [toArguments]) rfl,
      taken (.str settings.allowedOrigins) (by simp [toArguments]) rfl,
      taken (.str settings.host) (by simp [toArguments]) rfl,
      taken (.int settings.port) (by simp [toArguments]) rfl⟩

/-- Settings that were read are read again as they are, and with them their origins, from arguments
with their own values in any order and from any environment. Lower case and the name of a level do
not change when they are read again, whatever the text was that they came from. -/
theorem load_own_values {settings : Settings}
    (loaded : load environment arguments = .ok settings) :
    (∀ other again, again.Perm settings.toArguments → load other again = .ok settings) ∧
    lower settings.environment = settings.environment ∧
    settings.logLevel.name.codes.map (Code.map latinCapital) = settings.logLevel.name.codes ∧
    (∀ text, lower (lower text) = lower text) ∧
    ∀ text level, LogLevel.ofText? text = some level →
      text.codes.map (Code.map latinCapital) = level.name.codes ∧
        LogLevel.ofText? level.name = some level := by
  have settled := lower_environment loaded
  refine ⟨?_, settled, LogLevel.capitals_name _, lower_lower, ?_⟩
  · intro other again order
    exact load_toArguments order settled
  · intro text level named
    exact ⟨LogLevel.ofText?_eq_some_iff.mp named, LogLevel.ofText?_name level⟩

/-- An environment that alone would be refused, and arguments from the last to the first. -/
theorem foreign_load_own_values :
    let settings : Settings :=
      { default with environment := "i\u0307ς", logLevel := .info, port := 80 }
    load [("environment", .str "İΣ")] [("LOG_LEVEL", .str "ınfo"), ("API_PORT", .str " 8_0.0")] =
      .ok settings ∧
    load [("LOG_LEVEL", .str "loud")] settings.toArguments.reverse = .ok settings := by
  intro settings
  have accepted :
      read [("environment", .str "İΣ")]
        [("LOG_LEVEL", .str "ınfo"), ("API_PORT", .str " 8_0.0")] = .accepted settings := by
    decide +kernel
  have loaded :
      load [("environment", .str "İΣ")]
        [("LOG_LEVEL", .str "ınfo"), ("API_PORT", .str " 8_0.0")] = .ok settings := by
    rw [load, accepted]
    rfl
  exact ⟨loaded, (load_own_values loaded).1 _ _ (List.reverse_perm _)⟩

end Settings

end Flowchart
