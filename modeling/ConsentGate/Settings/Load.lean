import ConsentGate.Settings.Environment
import ConsentGate.Toml.Document
import ConsentGate.Wire.Lenient
import ConsentGate.Wire.Read

namespace ConsentGate

/-- Why settings cannot be used: the document is ill-formed, a path leads to an item that no list can
have, a setting has no usable value, or the settings do not go together. -/
inductive LoadError where
  | document
  | reach
  | value
  | settings (e : ServiceSettingsError)
  deriving DecidableEq, Repr

def LoadError.message : LoadError → String
  | .document => "the document is ill-formed"
  | .reach => "an index is out of reach"
  | .value => "a setting has no usable value"
  | .settings e => e.message

def LoadError.orElse {α : Type} (e : LoadError) : Option α → Except LoadError α
  | some a => .ok a
  | none => .error e

namespace ServiceSettings

/-- The document in a file. The byte order mark that a file may start with is no part of it. -/
def fileDocument (text : String) : String :=
  String.ofList (Toml.dropMark text.toList)

def load (file : Option String) (environment : TextMap String)
    (fits : String → Bool := Glob.isSmall) : Except LoadError ServiceSettings := do
  let entries ← LoadError.document.orElse
    ((file.map fun text => Toml.parse? (fileDocument text)).getD (some []))
  let tree ← LoadError.reach.orElse
    ((SettingTree.table []).setAll? (entries ++ Environment.entries environment))
  let settings ← LoadError.value.orElse (Wire.serviceSettings? Wire.lenient tree)
  (settings.validate fits).mapError .settings
  return settings

end ServiceSettings

end ConsentGate
