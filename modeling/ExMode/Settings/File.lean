import ExMode.Disk
import ExMode.Json
import ExMode.Settings.Reading
import ExMode.Yaml

/-!
# ExMode.Settings.File

Settings files.  A name that ends in `.json`, in any case, says that the file is
JSON; every other file is YAML.  A file that is not there holds the standard
settings.
-/

namespace ExMode.Settings

/-- The format of a settings file. -/
def formatOf (p : Path) : DocumentFormat :=
  if p.suffix.map lowerAscii = ".json".toList then .json else .yaml

/-- The settings that a text in some format spells out. -/
def ofText (format : DocumentFormat) (t : Text) : Except Fault Settings := do
  let read := match format with
    | .json => Json.read t
    | .yaml => Yaml.read t
  let d ← read.mapError (·.toFault (.badSettings format .malformed))
  (ofDocument d).mapError (.badSettings format)

/-- The settings that a text in some format spells out, as they are read under a runtime.  A YAML
document is read by calls within calls, so it can be nested too deeply for them. -/
def ofTextUnder (r : Runtime) (format : DocumentFormat) (t : Text) : Except Fault Settings :=
  if format = .yaml ∧ t ∈ r.exhausting then .error .tooManyCalls
  else (ofText format t).mapError (r.remarkOn t)

/-- The settings in a file. -/
def load (disk : Disk) (p : Path) : Except Fault Settings := do
  if ← disk.pathExists p then ofTextUnder disk.runtime (formatOf p) (← disk.readText p)
  else return standard

end ExMode.Settings
