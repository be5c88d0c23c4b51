import PullTriage.FileSummary
import PullTriage.Rules.Reader

/-!
  PullTriage.CommandLine: what the program does with its arguments.

  There are three commands: `classify` labels a pull request that is described by a JSON file, `check`
  reports what became of a file of rules, and `info` lists the kinds of conditions. The outcome is a
  value: an exit code, the text for standard output and, on failure, a message.

  Main definitions:
    * `Command.ofArguments?`: the command that arguments ask for;
    * `Command.run`: its outcome, given what files hold.
-/

namespace PullTriage

open Json

/-! ## §1. Commands -/

/-- What the program can be asked to do. -/
inductive Command where
  | classify (facts rules : String) (pretty : Bool)
  | check (rules : String) (normalized : Bool)
  | info
  | version
  deriving DecidableEq, Repr, Inhabited

namespace Command

/-- Arguments of a command, sorted: the positional ones in order, the flags, and options with
values. -/
structure Arguments where
  positional : List String
  flags : List String
  options : List (String × String)
  deriving Inhabited

/-- The value that is attached to an option by an equals sign. -/
def attached? (name argument : String) : Option String :=
  let start := (name ++ "=").toList
  if start.isPrefixOf argument.toList then
    some (String.ofList (argument.toList.drop start.length))
  else none

/-- Whether an argument is an option and not a value. -/
def looksLikeOption (argument : String) : Bool :=
  match argument.toList with
  | '-' :: _ :: _ => true
  | _ => false

/-- Whether no value is empty. -/
def Arguments.areFilled (a : Arguments) : Bool :=
  a.positional.all (· != "") && a.options.all (·.2 != "")

/-- Sort the arguments of a command. No flag and no option may be given twice, a value may not look
like an option unless it is attached, and after two hyphens everything is positional. -/
def sort? (flags options : List String) (acc : Arguments) : List String → Option Arguments
  | [] => some acc
  -- nothing behind it is an option
  | "--" :: rest => some { acc with positional := acc.positional ++ rest }
  | a :: rest =>
    if a ∈ flags then
      if a ∈ acc.flags then none
      else sort? flags options { acc with flags := a :: acc.flags } rest
    else if a ∈ options then
      match rest with
      | v :: rest =>
        if looksLikeOption v || (acc.options.lookup a).isSome then none
        else sort? flags options { acc with options := (a, v) :: acc.options } rest
      | [] => none
    else match options.findSome? fun o => (attached? o a).map fun v => (o, v) with
      | some (o, v) =>
        if (acc.options.lookup o).isSome then none
        else sort? flags options { acc with options := (o, v) :: acc.options } rest
      | none =>
        if looksLikeOption a then none
        else sort? flags options { acc with positional := acc.positional ++ [a] } rest

/-- The arguments of a command, sorted. All values name files, so none may be empty. -/
def arguments? (flags options : List String) (arguments : List String) : Option Arguments :=
  (sort? flags options default arguments).filter Arguments.areFilled

/-- Where rules are looked for if nothing else is said. -/
def defaultRules : String := ".github/labeler.yml"

/-- The command of a name, with its arguments. -/
def ofName? (name : String) (arguments : List String) : Option Command :=
  if name = "classify" then
    match arguments? ["--pretty", "--debug"] ["--rules"] arguments with
    | some ⟨[facts], flags, options⟩ =>
      some (.classify facts ((options.lookup "--rules").getD defaultRules) ("--pretty" ∈ flags))
    | _ => none
  else if name = "check" then
    match arguments? ["--normalized", "--debug"] [] arguments with
    | some ⟨[rules], flags, _⟩ => some (.check rules ("--normalized" ∈ flags))
    | _ => none
  else if name = "info" then
    match arguments? ["--debug"] [] arguments with
    | some ⟨[], _, _⟩ => some .info
    | _ => none
  else none

/-- The command that the arguments of the program ask for; `none` if they are not understood. The
flag for details may stand before the command as well. -/
def ofArguments? : List String → Option Command
  | "--version" :: _ => some .version
  | "-V" :: _ => some .version
  | "--debug" :: "--version" :: _ => some .version
  | "--debug" :: "-V" :: _ => some .version
  | "--debug" :: name :: rest => ofName? name rest
  | name :: rest => ofName? name rest
  | [] => none

end Command

/-! ## §2. Input -/

/-- A pull request with the records of its changed files. -/
structure PullRequestFile where
  facts : PullRequest
  files : List FileRecord

namespace PullRequestFile

/-- Split the entries of a map into the list of file records, if it is given, and the others, which
must be readable. -/
def split? (files : Option (List FileRecord)) (others : List (String × Value)) :
    List (Option String × Document) → Option (Option (List FileRecord) × List (String × Value))
  | [] => some (files, others.reverse)
  | (none, _) :: _ => none
  | (some key, d) :: rest =>
    if key = "files" then
      if files.isSome then none
      else (FileRecord.listOfDocument? d).bind fun fs => split? (some fs) others rest
    else if d.depth < Document.maxDepth then
      d.toValue?.bind fun v => split? files ((key, v) :: others) rest
    else none

/-- The pull request of a JSON text, which must be a map. -/
def read? (text : String) : Option PullRequestFile := do
  match ← Document.read? text with
  | .object entries =>
    let (files, others) ← split? none [] entries
    return ⟨← PullRequest.ofEntries? others, files.getD []⟩
  | _ => none

end PullRequestFile

/-! ## §3. Outcomes -/

/-- What a run leaves behind. -/
structure Outcome where
  code : Nat
  output : String
  failure : Option String
  deriving DecidableEq, Repr, Inhabited

namespace Outcome

/-- A run that prints a text. -/
def success (output : String) : Outcome := ⟨0, output, none⟩

/-- A run that fails. -/
def failed (message : String) : Outcome := ⟨1, "", some message⟩

/-- Arguments that are not understood. -/
def usage : Outcome := ⟨2, "", none⟩

end Outcome

/-- A name in quotation marks. -/
def quoted (name : String) : String := "\"" ++ name ++ "\""

/-- The result of classifying, as JSON: the labels, what happened for each of them, and the counts of
changed files. -/
def classificationValue (c : Classification) (files : List FileRecord) : Value := .object [
  ("labels", .ofStrings c.labels),
  ("debug_info", .object (Entries.ofList (c.results.map fun r => (r.label, r.toValue)))),
  ("file_analysis", (FileSummary.ofRecords files).toValue)]

/-- What became of one label. -/
def checkLine (s : RuleSet) (label : String) : String :=
  match s.get? label with
  | some l => "  " ++ label ++ ": " ++ toString l.groups.length ++ " rule group(s)\n"
  | none => "  " ++ label ++ ": dropped (no rule group compiled)\n"

/-- The report on a description of rules and what was compiled from it. -/
def checkReport (d : RuleDescription) (s : RuleSet) : String :=
  String.join (d.labels.map fun (label, _) => checkLine s label) ++
    toString s.labels.length ++ " of " ++ toString d.labels.length ++ " label(s) compiled\n"

/-- The list of kinds. -/
def kindsReport (r : Registry) : String :=
  "Registered condition kinds:\n" ++ String.join (r.kinds.map fun k => "  " ++ k ++ "\n")

namespace Command

/-- Do what a command asks for. `read` tells what a file holds, if it can be read as text. -/
def run (registry : Registry) (read : String → Option String) : Command → Outcome
  | .version => .success "labelr 0.1.0\n"
  | .info => .success (kindsReport registry)
  | .check path normalized =>
    match RuleDescription.ofFile path (read path) with
    | .error _ => .failed ("failed to load rules " ++ quoted path)
    | .ok d =>
      let s := registry.compile d
      .success (if normalized then s.toValue.pretty 0 ++ "\n" else checkReport d s)
  | .classify facts rules pretty =>
    match read facts with
    | none => .failed ("failed to read PR data " ++ quoted facts)
    | some text =>
      match PullRequestFile.read? text with
      | none => .failed ("failed to parse PR data " ++ quoted facts)
      | some pr =>
        match RuleDescription.ofFile rules (read rules) with
        | .error _ => .failed ("failed to load rules " ++ quoted rules)
        | .ok d =>
          let v := classificationValue ((registry.compile d).classify pr.facts) pr.files
          .success ((if pretty then v.pretty 0 else v.compact) ++ "\n")

end Command

/-- The outcome of the program for its arguments. -/
def runArguments (read : String → Option String) (arguments : List String) : Outcome :=
  match Command.ofArguments? arguments with
  | some c => c.run .core read
  | none => .usage

end PullTriage
