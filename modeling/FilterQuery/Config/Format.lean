import FilterQuery.Config.Ini
import FilterQuery.Config.JsonFive
import FilterQuery.Config.Ron
import FilterQuery.Config.Toml
import FilterQuery.Config.Yaml
import FilterQuery.Json.Reader

/-!
# Formats of configuration files

The ending of a file's name says in which notation the file is written.
-/

namespace FilterQuery.Config

inductive Format where
  | toml
  | json
  | yaml
  | ini
  | ron
  | jsonFive
deriving DecidableEq, Repr

namespace Format

/-- The endings of configuration files, in the order in which files are looked for. -/
def endings : List String := ["toml", "json", "yaml", "yml", "ini", "ron", "json5"]

def ofEnding? : String → Option Format
  | "toml" => some toml
  | "json" => some json
  | "yaml" | "yml" => some yaml
  | "ini" => some ini
  | "ron" => some ron
  | "json5" => some jsonFive
  | _ => none

/-- What a text in the format says; none if it is malformed. -/
def read (format : Format) (text : String) : Option Datum :=
  let text := String.ofList (withoutMark text.toList)
  match format with
  | toml => Toml.read text
  | json => (Json.read text).toOption.map Datum.ofJson
  | yaml => Yaml.read text
  | ini => Ini.read text
  | ron => Ron.read text
  | jsonFive => JsonFive.read text

end Format

end FilterQuery.Config
