import PullTriage.PullRequest

/-!
  PullTriage.Trace: what happened when a condition was evaluated.

  A trace has the shape of the condition it belongs to, with results in place of patterns. Every
  member of a composite is traced, whether or not it decided the result.
-/

namespace PullTriage

open Json

/-- The trace of a condition. -/
inductive Trace where
  /-- A search in a text field, with the first pattern that was found. -/
  | text (field : TextField) (matched : Bool) (pattern : Option String)
  /-- A match over the changed files, with those that matched. -/
  | files (matched : Bool) (files : List String)
  | all (matched : Bool) (children : List Trace)
  | any (matched : Bool) (children : List Trace)
  | or (matched : Bool) (children : List Trace)
  /-- A condition of a kind from outside the core. -/
  | custom (name : String) (matched : Bool)
  deriving Repr, Inhabited

namespace Trace

/-- The result at the root. -/
def matched : Trace → Bool
  | text _ m _ => m
  | files m _ => m
  | all m _ => m
  | any m _ => m
  | or m _ => m
  | custom _ m => m

mutual

/-- The files of every file match, depth first and with repetitions. -/
def reportedFiles : Trace → List String
  | files _ fs => fs
  | all _ children => reportedFilesOf children
  | any _ children => reportedFilesOf children
  | or _ children => reportedFilesOf children
  | text _ _ _ => []
  | custom _ _ => []

/-- The files reported by a list of traces. -/
def reportedFilesOf : List Trace → List String
  | [] => []
  | t :: rest => reportedFiles t ++ reportedFilesOf rest

end

/-- The files of every file match, depth first, each once. -/
def matchedFiles (t : Trace) : List String := t.reportedFiles.eraseDups

mutual

/-- The trace as JSON. -/
def toValue : Trace → Value
  | text field m pattern => .object (
      [("kind", .string "text"), ("field", .string field.key), ("matched", .bool m)] ++
        (pattern.map fun p => ("pattern", Value.string p)).toList)
  | files m fs => .object [
      ("kind", .string "changed-files"), ("matched", .bool m), ("matched_files", .ofStrings fs)]
  | all m children => .object [
      ("kind", .string "all"), ("matched", .bool m), ("children", .array (toValues children))]
  | any m children => .object [
      ("kind", .string "any"), ("matched", .bool m), ("children", .array (toValues children))]
  | or m children => .object [
      ("kind", .string "or"), ("matched", .bool m), ("children", .array (toValues children))]
  | custom name m => .object [
      ("kind", .string "custom"), ("name", .string name), ("matched", .bool m)]

/-- The traces of a list as JSON. -/
def toValues : List Trace → List Value
  | [] => []
  | t :: rest => toValue t :: toValues rest

end

end Trace
end PullTriage
