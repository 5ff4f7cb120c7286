import HeaderAudit.Settings.Basic
import HeaderAudit.Storage.Workspace
/-!
Reading settings from a YAML file over the defaults: a YAML decoder handed in decodes the file over
the default settings, and the values it gives are then checked.
-/
namespace HeaderAudit

namespace Settings

def ofText (decode : String → Settings → Except String Settings) (source : IdSource) (path text : String) :
    Outcome Settings := do
  let s ← match decode text defaults with
    | .ok s => pure s
    | .error m => throw (Error.plain ("parse config " ++ path ++ ": " ++ m))
  s.validate source
  pure s

def load (decode : String → Settings → Except String Settings) (source : IdSource) (w : Workspace)
    (path : String) : Outcome Settings := do
  let text ← (w.readFile path).mapError (Error.wrap "read config: ")
  ofText decode source path text

end Settings

end HeaderAudit
