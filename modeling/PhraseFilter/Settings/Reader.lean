import PhraseFilter.Settings.Basic
import PhraseFilter.Toml.Reader

/-!
# Reading settings

Settings are written as a TOML document. Keys that are not known are passed over, and a known key must
hold a value of its type. The groups `opendota` and `logging` may also be written as arrays of their
fields in order; a date has no fields at all, so that it stands for a group of defaults.

* `Settings.read?`: reads a document.
-/

namespace PhraseFilter

namespace Toml

def string? : Toml → Option String
  | .string s => some s
  | _ => none

/-- The value as an unsigned number; whole numbers of a document are signed 64-bit numbers. -/
def unsigned? : Toml → Option UInt64
  | .integer n => if 0 ≤ n then some (UInt64.ofNat n.toNat) else none
  | _ => none

/-- The fields of a group, in the order of the given names. -/
def group? (names : List String) : Toml → Option (List (String × Toml))
  | .table entries => some entries
  | .array items => some (names.zip items)
  | .datetime _ => some []
  | _ => none

/-- The value of a key, read by `read?`, or else the default when the key is missing. -/
def fieldOr? {α : Type} (read? : Toml → Option α) (default : α) (key : String)
    (entries : List (String × Toml)) : Option α :=
  match lookup key entries with
  | some v => read? v
  | none => some default

end Toml

namespace ServiceSettings

def fieldNames : List String := ["base_url", "api_key", "request_timeout_secs"]

def ofToml? (v : Toml) : Option ServiceSettings := do
  let fields ← v.group? fieldNames
  let initial : ServiceSettings := {}
  let baseUrl ← Toml.fieldOr? Toml.string? initial.baseUrl "base_url" fields
  let apiKey ← Toml.fieldOr? (fun v => v.string?.map some) initial.apiKey "api_key" fields
  let timeoutSecs ← Toml.fieldOr? Toml.unsigned? initial.timeoutSecs "request_timeout_secs" fields
  return { baseUrl, apiKey, timeoutSecs }

end ServiceSettings

namespace LogSettings

def fieldNames : List String := ["level", "format"]

def ofToml? (v : Toml) : Option LogSettings := do
  let fields ← v.group? fieldNames
  let initial : LogSettings := {}
  let level ← Toml.fieldOr? Toml.string? initial.level "level" fields
  let format ← Toml.fieldOr? Toml.string? initial.format "format" fields
  return { level, format }

end LogSettings

namespace Settings

def accounts? : Toml → Option (List (String × UInt64))
  | .table entries => entries.mapM fun (name, v) => v.unsigned?.map fun id => (name, id)
  | _ => none

/-- The settings in the entries of a document. -/
def ofToml? (entries : List (String × Toml)) : Option Settings := do
  let defaultPlayer ← Toml.fieldOr? (fun v => v.string?.map some) none "default_player" entries
  let service ← Toml.fieldOr? ServiceSettings.ofToml? {} "opendota" entries
  let log ← Toml.fieldOr? LogSettings.ofToml? {} "logging" entries
  let accounts ← Toml.fieldOr? accounts? [] "accounts" entries
  return { defaultPlayer, service, log, accounts }

def read? (text : String) : Option Settings := (Toml.read? text).bind ofToml?

end Settings

end PhraseFilter
