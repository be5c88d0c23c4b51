import PullTriage.CommandLine

/-!
  PullTriage.Main: the program itself.

  It reads the files that a command names, prints the outcome and exits with its code.
-/

open PullTriage

/-- What a file holds, if it can be read as text. -/
def readText (path : String) : IO (Option String) := do
  try
    let bytes ← IO.FS.readBinFile path
    return String.fromUTF8? bytes
  catch _ => return none

/-- The files that a command reads. -/
def filesOf (arguments : List String) : List String :=
  match Command.ofArguments? arguments with
  | some (.classify facts rules _) => [facts, rules]
  | some (.check rules _) => [rules]
  | _ => []

/-- Run the program. -/
def main (arguments : List String) : IO UInt32 := do
  let contents ← (filesOf arguments).mapM fun path => return (path, ← readText path)
  let outcome := runArguments (fun path => (contents.lookup path).join) arguments
  IO.print outcome.output
  match outcome.failure with
  | some message => IO.eprintln ("Error: " ++ message)
  | none => pure ()
  return outcome.code.toUInt32
