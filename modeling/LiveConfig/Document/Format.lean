import LiveConfig.Document.Json
import LiveConfig.Document.PropertyText
import LiveConfig.Document.Toml
import LiveConfig.Error

/-!
File formats: how the content of a file is read as properties.
-/
namespace LiveConfig

inductive FileFormat where
  | properties
  | json
  | toml
  deriving DecidableEq

namespace FileFormat

def name : FileFormat → String
  | .properties => "Properties"
  | .json => "Json"
  | .toml => "Toml"

def ofExtension? : Option String → Option FileFormat
  | none | some "properties" | some "props" => some .properties
  | some "json" => some .json
  | some "toml" => some .toml
  | some _ => none

def read? (format : FileFormat) (content : String) : Option PropertyMap :=
  match format with
  | .properties => some (PropertyText.parse content)
  | .json => (Document.Json.parse? content.toList).map Document.flatten
  | .toml => (Document.Toml.parse? content.toList).map Document.flatten

def notationNames : FileFormat → String × String
  | .properties => ("properties", "PROPERTIES")
  | .json => ("json", "JSON")
  | .toml => ("toml", "TOML")

def complaint (format : FileFormat) : String := format.notationNames.2 ++ " error"

def malformed (format : FileFormat) : ConfigError :=
  .sourceUnavailable format.notationNames.1 (.told format.complaint)

def parse (format : FileFormat) (content : String) : Except ConfigError PropertyMap :=
  match format.read? content with
  | some m => .ok m
  | none => .error format.malformed

end FileFormat
end LiveConfig
