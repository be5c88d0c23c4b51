import PullTriage.FilePath
import PullTriage.Json.Document

/-!
  PullTriage.FileSummary: counting changed files.

  The files of a pull request are counted by status, by extension and by directory. A count is kept
  for every key that occurs, sorted by key.

  Main definitions:
    * `FileRecord.ofDocument?`: reading one record;
    * `FileSummary.ofRecords`: the counts of a list of records.
-/

namespace PullTriage

open Json

/-! ## §1. Records -/

/-- A changed file. -/
structure FileRecord where
  filename : String
  status : String := "unknown"
  additions : Nat := 0
  deletions : Nat := 0
  deriving DecidableEq, Repr, Inhabited

/-- The fields of a record. -/
inductive FileField where
  | filename
  | status
  | additions
  | deletions
  deriving DecidableEq, Repr, Inhabited

namespace FileField

/-- The field that a key names. -/
def ofKey? (key : String) : Option FileField :=
  if key = "filename" then some filename
  else if key = "status" then some status
  else if key = "additions" then some additions
  else if key = "deletions" then some deletions
  else none

/-- The fields in the order of their positions in a list. -/
def positions : List FileField := [filename, status, additions, deletions]

end FileField

namespace FileRecord

/-- A count: an unsigned integer. -/
def readCount? : Value → Option Nat
  | .number (.int (.ofNat n)) => some n
  | _ => none

/-- Set a field to what a value holds. -/
def set? (r : FileRecord) (v : Value) : FileField → Option FileRecord
  | .filename => v.string?.map fun s => { r with filename := s }
  | .status => v.string?.map fun s => { r with status := s }
  | .additions => (readCount? v).map fun n => { r with additions := n }
  | .deletions => (readCount? v).map fun n => { r with deletions := n }

/-- Read fields in order into `r`, in which the fields `given` are already set. The file name has to
be given. -/
def readFields? (r : FileRecord) (given : List FileField) :
    List (FileField × Value) → Option FileRecord
  | [] => if FileField.filename ∈ given then some r else none
  | (f, v) :: rest =>
    if f ∈ given then none else (r.set? v f).bind (readFields? · (f :: given) rest)

/-- The record of the entries of a map; a key that names no field is skipped. -/
def ofEntries? (entries : List (String × Value)) : Option FileRecord :=
  readFields? ⟨"", "unknown", 0, 0⟩ [] (entries.filterMap fun (key, v) =>
    (FileField.ofKey? key).map fun f => (f, v))

/-- The record of a list, as far as it goes. -/
def ofItems? (items : List Value) : Option FileRecord :=
  if items.length ≤ FileField.positions.length then
    readFields? ⟨"", "unknown", 0, 0⟩ [] (FileField.positions.zip items)
  else none

/-- The record of a value. -/
def ofValue? : Value → Option FileRecord
  | .object entries => ofEntries? entries
  | .array items => ofItems? items
  | _ => none

/-- The record of a document, in which a repeated key counts twice and what stands under a key that
names no field need not be readable. -/
def ofDocument? : Document → Option FileRecord
  | .object entries =>
    (Document.knownEntries? (fun k => (FileField.ofKey? k).isSome) entries).bind ofEntries?
  | .array items => (Document.toValues? items).bind ofItems?
  | _ => none

/-- The records of a document, which must be a list. -/
def listOfDocument? : Document → Option (List FileRecord)
  | .array items => items.mapM ofDocument?
  | _ => none

end FileRecord

/-! ## §2. Counts -/

/-- How often each key occurred, sorted by key. -/
abbrev Tally := List (String × Nat)

namespace Tally

/-- Count one more occurrence of a key. -/
def add (key : String) : Tally → Tally
  | [] => [(key, 1)]
  | (k, n) :: rest =>
    if key = k then (k, n + 1) :: rest
    else if key < k then (key, 1) :: (k, n) :: rest
    else (k, n) :: add key rest

/-- The tally of a list of keys. -/
def ofList (keys : List String) : Tally := keys.foldl (fun t k => add k t) []

/-- The tally as a map. -/
def toValue (t : Tally) : Value := .object (t.map fun (k, n) => (k, Value.ofNat n))

end Tally

/-! ## §3. The summary -/

/-- Counts of changed files. -/
structure FileSummary where
  total : Nat
  byStatus : Tally
  byExtension : Tally
  byDirectory : Tally
  deriving DecidableEq, Repr, Inhabited

namespace FileSummary

/-- The extension of a file with its point, or nothing. -/
def extensionKey (filename : String) : String :=
  match FilePath.extension? filename.toList with
  | some ext => String.ofList ('.' :: ext)
  | none => ""

/-- The directory of a file; a point stands for the root of the repository. -/
def directoryKey (filename : String) : String :=
  match FilePath.parent? filename.toList with
  | some (c :: cs) => String.ofList (c :: cs)
  | _ => "."

/-- The counts of a list of records. -/
def ofRecords (records : List FileRecord) : FileSummary where
  total := records.length
  byStatus := Tally.ofList (records.map FileRecord.status)
  byExtension := Tally.ofList (records.map fun r => extensionKey r.filename)
  byDirectory := Tally.ofList (records.map fun r => directoryKey r.filename)

/-- The summary as JSON. -/
def toValue (s : FileSummary) : Value := .object [
  ("total_files", .ofNat s.total),
  ("files_by_status", s.byStatus.toValue),
  ("files_by_extension", s.byExtension.toValue),
  ("changes_by_path", s.byDirectory.toValue)]

end FileSummary
end PullTriage
