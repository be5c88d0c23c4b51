import PullTriage.Registry
import PullTriage.Rules.RuleSet
import PullTriage.Unicode.PropertyName

/-!
  PullTriage.Shown: values of the library as one-line text, for people who look for a mistake.

  A record is its name with its fields in braces, a variant is its name with its content in
  parentheses, and a text stands between quotation marks with everything escaped that cannot be seen.
-/

namespace PullTriage

/-! ## §1. Texts and lists -/

namespace Shown

open Unicode (CharSet)

/-- Characters that cannot be seen: controls, formats, private and unassigned ones, and separators. -/
def invisible : CharSet :=
  .unions [Unicode.categoryUnion ["cc", "cf", "co", "zl", "zp", "zs"], .compl Unicode.assigned]

/-- Characters that attach to the one before them. -/
def attached : CharSet :=
  ((Unicode.NamedSet.find? Unicode.properties "graphemeextend").map CharSet.table).getD .empty

/-- Whether a character is shown as it is. -/
def isVisible (c : Char) : Bool :=
  if c.toNat < 0x7F then 0x20 ≤ c.toNat
  else !invisible.contains c.toNat && !attached.contains c.toNat

/-- One character of a quoted text. -/
def char (c : Char) : String :=
  if c = '\x00' then "\\0"
  else if c = '\t' then "\\t"
  else if c = '\r' then "\\r"
  else if c = '\n' then "\\n"
  else if c = '\\' then "\\\\"
  else if c = '"' then "\\\""
  else if isVisible c then String.singleton c
  else "\\u\x7b" ++ String.ofList (Nat.toDigits 16 c.toNat) ++ "\x7d"

/-- A quoted text. -/
def text (s : String) : String := "\"" ++ s.foldl (fun acc c => acc ++ char c) "" ++ "\""

/-- Items in brackets. -/
def list (items : List String) : String := "[" ++ ", ".intercalate items ++ "]"

/-- Texts in brackets. -/
def texts (items : List String) : String := list (items.map text)

/-- A name with its content. -/
def variant (name content : String) : String := name ++ "(" ++ content ++ ")"

/-- A name with its fields. -/
def record (name : String) (fields : List (String × String)) : String :=
  name ++ " \x7b " ++ ", ".intercalate (fields.map fun (k, v) => k ++ ": " ++ v) ++ " \x7d"

/-- A value that may be missing. -/
def option : Option String → String
  | none => "None"
  | some s => variant "Some" s

end Shown

open Shown

/-! ## §2. Facts and traces -/

/-- The name under which a field is shown. -/
def TextField.shown : TextField → String
  | branch => "Branch"
  | title => "Title"
  | body => "Body"

/-- The facts of a pull request, shown. -/
def PullRequest.shown (pr : PullRequest) : String := record "PrContext" [
  ("title", text pr.title), ("body", text pr.body), ("branch", text pr.branch),
  ("changed_files", texts pr.changedFiles)]

namespace Trace

mutual

/-- A trace, shown. -/
def shown : Trace → String
  | .text field m pattern => record "Text" [
      ("field", field.shown), ("matched", toString m),
      ("pattern", Shown.option (pattern.map Shown.text))]
  | .files m fs => record "Files" [("matched", toString m), ("matched_files", texts fs)]
  | .all m children => record "All" [("matched", toString m), ("children", shownList children)]
  | .any m children => record "Any" [("matched", toString m), ("children", shownList children)]
  | .or m children => record "Or" [("matched", toString m), ("children", shownList children)]
  | .custom name m => record "Custom" [("name", Shown.text name), ("matched", toString m)]

/-- Traces in brackets. -/
def shownList (ts : List Trace) : String := "[" ++ shownItems ts ++ "]"

/-- Traces separated by commas. -/
def shownItems : List Trace → String
  | [] => ""
  | [t] => shown t
  | t :: rest => shown t ++ ", " ++ shownItems rest

end

end Trace

/-! ## §3. Conditions and rules -/

/-- Patterns for a field, shown. -/
def TextPatterns.shown (field : TextField) (ps : TextPatterns) : String :=
  record "TextCondition" [
    ("field", field.shown), ("matcher", variant "TextMatcher" (texts ps.written))]

namespace Condition

/-- The patterns of one field of an `or`, shown. -/
def shownField (m : FieldPatterns) (f : TextField) : String :=
  option ((m.get f).map (·.shown f))

mutual

/-- A condition, shown. -/
def shown : Condition → String
  | .text f ps => variant "Text" (ps.shown f)
  | .files gs => variant "Files"
      (record "FileCondition" [("matcher", variant "FileMatcher" (texts gs.written))])
  | .all children => variant "All" ("[" ++ shownItems children ++ "]")
  | .any children => variant "Any" ("[" ++ shownItems children ++ "]")
  | .or m => variant "Or" (record "MetadataOr" [
      ("branch", shownField m .branch), ("title", shownField m .title),
      ("body", shownField m .body)])
  | .custom c => variant "Custom" c.shown

/-- Conditions separated by commas. -/
def shownItems : List Condition → String
  | [] => ""
  | [c] => shown c
  | c :: rest => shown c ++ ", " ++ shownItems rest

end

end Condition

/-- A rule group, shown. -/
def RuleGroup.shown (g : RuleGroup) : String :=
  record "RuleGroup" [("conditions", list (g.conditions.map Condition.shown))]

/-- A label with its groups, shown. -/
def LabelRules.shown (l : LabelRules) : String := record "CompiledLabel" [
  ("name", text l.name), ("groups", list (l.groups.map RuleGroup.shown))]

/-- A rule set, shown. -/
def RuleSet.shown (s : RuleSet) : String :=
  record "RuleSet" [("labels", list (s.labels.map LabelRules.shown))]

/-! ## §4. Registries -/

/-- A registry, shown by its kinds. -/
def Registry.shown (r : Registry) : String := record "Registry" [("kinds", texts r.kinds)]

/-- A scope, shown by its depth. -/
def Scope.shown (s : Scope) : String :=
  "BuildScope \x7b depth: " ++ toString s.depth ++ ", .. \x7d"

end PullTriage
