import PullTriage.RuleError
import PullTriage.Glob.Braces
import PullTriage.Glob.Combined

/-!
  PullTriage.PathGlob: globs over the paths of changed files.

  A glob is matched against a whole path. A list of globs accepts a path when one of them does. It can
  be refused as a whole although each glob compiles, if the globs are too large together.

  Main definitions:
    * `PathGlob.compile`: from a glob as written to one that can be matched;
    * `PathGlobs.accepted`: the paths that a list of globs accepts.
-/

namespace PullTriage

/-- A glob that can be matched: its pieces and the way to match them. -/
structure CompiledGlob where
  tokens : List Glob.Token
  strategy : Glob.Strategy

/-- Whether a compiled glob matches a path. -/
def CompiledGlob.accepts (g : CompiledGlob) (path : String) : Bool :=
  g.strategy.matches g.tokens (Glob.pathBytes path)

namespace PathGlob

/-- Compile a glob as written: not too long, braces taken literally, well formed. -/
def compile (written : String) : Except RuleError CompiledGlob :=
  if written.utf8ByteSize > maxPatternLength then
    .error (.patternTooLong written.utf8ByteSize maxPatternLength)
  else match Glob.Token.read (Glob.literalBraces written.toList) with
    | .ok tokens => .ok ⟨tokens, .ofTokens tokens⟩
    | .error p => .error (.invalidGlob written p.message)

end PathGlob

/-- A glob as written, with what it compiles to. -/
structure PathGlob where
  written : String
  glob : CompiledGlob
  compiled : PathGlob.compile written = .ok glob

namespace PathGlob

/-- Compile a glob and keep how it was written. -/
def ofString (written : String) : Except RuleError PathGlob :=
  match h : compile written with
  | .ok glob => .ok ⟨written, glob, h⟩
  | .error e => .error e

/-- Whether the glob matches a path. -/
def accepts (g : PathGlob) (path : String) : Bool := g.glob.accepts path

end PathGlob

/-- Globs of which one has to match, and which can be used together. -/
structure PathGlobs where
  globs : List PathGlob
  combined : Glob.combinationProblem? (globs.map fun g => g.glob.tokens) = none

namespace PathGlobs

/-- Put globs together. If that fails the error names all of them. -/
def ofGlobs (globs : List PathGlob) : Except RuleError PathGlobs :=
  match h : Glob.combinationProblem? (globs.map fun g => g.glob.tokens) with
  | none => .ok ⟨globs, h⟩
  | some p =>
    .error (.invalidGlob (", ".intercalate (globs.map PathGlob.written)) p.message)

/-- Compile globs; the error is that of the first one that has one. Then put them together. -/
def ofStrings (written : List String) : Except RuleError PathGlobs := do
  ofGlobs (← written.mapM PathGlob.ofString)

/-- The globs as written. -/
def written (gs : PathGlobs) : List String := gs.globs.map PathGlob.written

/-- Whether there is no glob. -/
def isEmpty (gs : PathGlobs) : Bool := gs.globs.isEmpty

/-- Whether one of the globs matches a path. -/
def accepts (gs : PathGlobs) (path : String) : Bool := gs.globs.any (·.accepts path)

/-- The paths that are accepted, in order, each once. -/
def accepted (gs : PathGlobs) (paths : List String) : List String :=
  (paths.filter gs.accepts).eraseDups

end PathGlobs
end PullTriage
