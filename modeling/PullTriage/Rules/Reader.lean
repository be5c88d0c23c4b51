import PullTriage.Json.Reader
import PullTriage.FilePath
import PullTriage.Rules.Compiler
import PullTriage.Yaml.Reader

/-!
  PullTriage.Rules.Reader: descriptions of rules as text.

  A description is written as YAML or as JSON. For a file the extension decides: `json`, in any case,
  is JSON and everything else is YAML.
-/

namespace PullTriage
namespace RuleDescription

open Json

/-- The description that a JSON text is. -/
def ofJson (text : String) : Except RuleError RuleDescription :=
  match Value.read? text with
  | some v => ofValue v
  | none => .error (.unreadable RuleFormat.json.name "malformed document")

/-- The description that a YAML text is. -/
def ofYaml (text : String) : Except RuleError RuleDescription :=
  match Yaml.read? text with
  | some v => ofValue v
  | none => .error (.unreadable RuleFormat.yaml.name "malformed document")

/-- The format of a file. -/
def formatOf (path : String) : RuleFormat :=
  match FilePath.extension? path.toList with
  | some ext => if ext.map Char.toLower = "json".toList then .json else .yaml
  | none => .yaml

/-- The description in a file, given what the file holds; a file that cannot be read as text holds
nothing. -/
def ofFile (path : String) : Option String → Except RuleError RuleDescription
  | none => .error (.noFile path "unreadable file")
  | some text =>
    match formatOf path with
    | .json => ofJson text
    | .yaml => ofYaml text

end RuleDescription
end PullTriage
