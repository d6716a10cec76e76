import CapabilityGuard.Settings.LogLevel
import CapabilityGuard.Json.Records
import CapabilityGuard.Server
import CapabilityGuard.Toml.Document

/-! The settings of a service, read from TOML or JSON. What is not said has a default, and
what is not known is passed over. The log level stays text until it is needed. -/
namespace CapabilityGuard

structure Settings where
  keySource : KeySource := .platform
  logLevel : String := "info"
  maxRequestSize : UInt64 := Server.defaultMaxRequestSize.toUInt64
deriving DecidableEq

namespace Settings

inductive LoadError
  | unreadable
  | unparsable
deriving DecidableEq

/-- A text that is no log level. -/
structure InvalidLogLevel where
  text : String
deriving DecidableEq

def InvalidLogLevel.message (e : InvalidLogLevel) : String := "invalid log level: " ++ e.text

/-- The value of a key, or the default when the key is missing. -/
def setting {α : Type} (entries : Toml.Entries) (key : String) (default : α)
    (read : Toml.Value → Option α) : Option α :=
  match entries.get? key with
  | none => some default
  | some value => read value

/-- A name, or a table with the name as its only key and nothing in it. -/
def keySource? : Toml.Value → Option KeySource
  | .string name => KeySource.ofName? name
  | .table _ [(name, .table _ [])] => KeySource.ofName? name
  | .table _ [(name, .array [])] => KeySource.ofName? name
  | _ => none

def text? : Toml.Value → Option String
  | .string text => some text
  | _ => none

def size? : Toml.Value → Option UInt64
  | .integer (.ofNat n) => some n.toUInt64
  | _ => none

def ofToml? (text : String) : Option Settings := do
  let entries ← Toml.ofText? text
  let defaults : Settings := {}
  return {
    keySource := ← setting entries "key_source" defaults.keySource keySource?
    logLevel := ← setting entries "log_level" defaults.logLevel text?
    maxRequestSize := ← setting entries "max_request_size" defaults.maxRequestSize size? }

/-- Reads settings from the bytes of a file, which may be missing. -/
def load (bytes? : Option (List UInt8)) : Except LoadError Settings :=
  match bytes?.bind fun bytes => String.fromUTF8? ⟨bytes.toArray⟩ with
  | none => .error .unreadable
  | some text =>
    match ofToml? text with
    | none => .error .unparsable
    | some settings => .ok settings

def level (settings : Settings) : Except InvalidLogLevel LogLevel :=
  match LogLevel.ofText? settings.logLevel with
  | some level => .ok level
  | none => .error ⟨settings.logLevel⟩

/-- The JSON form. Of the array of its fields a tail may be missing. -/
def json : Json.Form Settings where
  read value := do
    let [source, level, size] ←
      Json.fields? ["key_source", "log_level", "max_request_size"] value | none
    let defaults : Settings := {}
    return {
      keySource := ← source.elim (some defaults.keySource) Json.Form.keySource.read
      logLevel := ← level.elim (some defaults.logLevel) Json.Form.text.read
      maxRequestSize := ← size.elim (some defaults.maxRequestSize) Json.Form.hyper.read }
  write settings := Json.record [
    ("key_source", Json.Form.keySource.write settings.keySource),
    ("log_level", Json.Form.text.write settings.logLevel),
    ("max_request_size", Json.Form.hyper.write settings.maxRequestSize)]

/-- A server with a new key from the configured source. -/
def server (settings : Settings) (entropy : Entropy) : Server × Entropy :=
  let (key, entropy) := entropy.key settings.keySource
  (⟨⟨key⟩, settings.maxRequestSize.toNat⟩, entropy)

end Settings

end CapabilityGuard
