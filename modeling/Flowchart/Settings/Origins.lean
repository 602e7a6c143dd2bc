import Flowchart.Settings.Basic

/-!
The origins that may call the service: a star for all, else a list divided by commas.
-/

namespace Flowchart

/-- The parts of a text between its commas, without the blanks around them; empty ones are left
out. -/
def splitOrigins (text : Text) : List Text :=
  ((text.codes.splitOn (.char ',')).map fun part => strip ⟨part⟩).filter (· ≠ "")

def Settings.origins (settings : Settings) : List Text :=
  let text := strip settings.allowedOrigins
  if text = "*" then ["*"] else splitOrigins text

def Settings.toJson (settings : Settings) : Json :=
  .obj [("environment", .str settings.environment), ("log_level", .str settings.logLevel.name),
    ("json_schema_dialect", .str settings.dialect),
    ("schema_honor_required", .bool settings.honorRequired),
    ("preview_indent", .int settings.previewIndent),
    ("cors_allowed_origins", .str settings.allowedOrigins), ("api_host", .str settings.host),
    ("api_port", .int settings.port)]

end Flowchart
