import PullTriage.Json.Document

/-!
  PullTriage.PullRequest: the facts about a pull request that rules read.

  The facts are read from a JSON document. A map gives each fact at most once, under either of its
  spellings; what is missing or null is empty, and keys that name no fact are skipped together with
  whatever they hold. A list gives the facts by position.

  Main definitions:
    * `PullRequest.ofEntries?`: the facts of the entries of a map;
    * `PullRequest.ofDocument?`: the facts of a document.
-/

namespace PullTriage

open Json

/-- The facts about a pull request. Changed files are in the order in which they are reported. -/
structure PullRequest where
  title : String := ""
  body : String := ""
  branch : String := ""
  changedFiles : List String := []
  deriving DecidableEq, Repr, Inhabited

/-- The facts, by name. -/
inductive Fact where
  | title
  | body
  | branch
  | changedFiles
  deriving DecidableEq, Repr, Inhabited

/-- The fact that a key names; two facts have a second spelling. -/
def Fact.ofKey? (key : String) : Option Fact :=
  if key = "title" then some .title
  else if key = "body" then some .body
  else if key = "branch" ∨ key = "head_branch" then some .branch
  else if key = "changed_files" ∨ key = "changedFiles" then some .changedFiles
  else none

namespace PullRequest

/-! ## §1. Single facts -/

/-- A text; null stands for the empty one. -/
def readText? : Value → Option String
  | .null => some ""
  | .string s => some s
  | _ => none

/-- A list of strings; null stands for the empty one. -/
def readTexts? : Value → Option (List String)
  | .null => some []
  | .array items => items.mapM Value.string?
  | _ => none

/-- Set a fact to what a value holds. -/
def set? (pr : PullRequest) (v : Value) : Fact → Option PullRequest
  | .title => (readText? v).map fun s => { pr with title := s }
  | .body => (readText? v).map fun s => { pr with body := s }
  | .branch => (readText? v).map fun s => { pr with branch := s }
  | .changedFiles => (readTexts? v).map fun l => { pr with changedFiles := l }

/-! ## §2. Maps and lists -/

/-- Read entries in order into `pr`, in which the facts `given` are already set. -/
def readEntries? (pr : PullRequest) (given : List Fact) :
    List (String × Value) → Option PullRequest
  | [] => some pr
  | (key, v) :: rest =>
    match Fact.ofKey? key with
    | none => readEntries? pr given rest
    | some f =>
      if f ∈ given then none else (pr.set? v f).bind (readEntries? · (f :: given) rest)

/-- The facts of the entries of a map. -/
def ofEntries? (entries : List (String × Value)) : Option PullRequest := readEntries? {} [] entries

/-- The facts in the order of their positions in a list. -/
def positions : List Fact := [.title, .body, .branch, .changedFiles]

/-- The facts of a list, as far as it goes. -/
def ofItems? (items : List Value) : Option PullRequest :=
  if items.length ≤ positions.length then
    (positions.zip items).foldlM (fun pr (f, v) => pr.set? v f) {}
  else none

/-- The facts of a value. -/
def ofValue? : Value → Option PullRequest
  | .object entries => ofEntries? entries
  | .array items => ofItems? items
  | _ => none

/-- The facts of a document, in which a repeated key counts twice and what stands under a key that
names no fact need not be readable. -/
def ofDocument? : Document → Option PullRequest
  | .object entries => (Document.knownEntries? (fun k => (Fact.ofKey? k).isSome) entries).bind ofEntries?
  | .array items => (Document.toValues? items).bind ofItems?
  | _ => none

/-- The facts as a map. -/
def toValue (pr : PullRequest) : Value := .object [
  ("title", .string pr.title),
  ("body", .string pr.body),
  ("branch", .string pr.branch),
  ("changed_files", .ofStrings pr.changedFiles)]

end PullRequest

/-! ## §3. Text fields -/

/-- The facts that text patterns are searched in. -/
inductive TextField where
  | branch
  | title
  | body
  deriving DecidableEq, Repr, Inhabited

namespace TextField

/-- All fields, in the order in which an `or` reports them. -/
def all : List TextField := [branch, title, body]

/-- The key of a field in rules. -/
def key : TextField → String
  | branch => "head-branch"
  | title => "title"
  | body => "body"

/-- The field that a key names. -/
def ofKey? (key : String) : Option TextField :=
  if key = "head-branch" then some branch
  else if key = "title" then some title
  else if key = "body" then some body
  else none

/-- The text of a field. -/
def read (f : TextField) (pr : PullRequest) : String :=
  match f with
  | branch => pr.branch
  | title => pr.title
  | body => pr.body

theorem ofKey?_key (f : TextField) : ofKey? f.key = some f := by cases f <;> decide

theorem mem_all (f : TextField) : f ∈ all := by cases f <;> decide

end TextField
end PullTriage
