import PullTriage.Glob.Meaning

/-!
  PullTriage.Glob.Strategy: how a glob of a simple shape is matched.

  Most globs ask for a file name, an extension, or a beginning or end of the path, and are answered by
  comparing that part of the path instead of running the pattern. A path whose last component is `..`
  has no file name and no extension, so a strategy that asks for one refuses it.

  Main definitions:
    * `Strategy.ofTokens`: the strategy of a glob;
    * `Strategy.matches`: whether it accepts a path.
-/

namespace PullTriage.Glob

/-! ## §1. Parts of a path -/

/-- The last component of a path: what follows its last slash, unless that is `..`. -/
def fileName (path : List Nat) : List Nat :=
  let name := (path.reverse.takeWhile (· != 0x2F)).reverse
  if name = [0x2E, 0x2E] then [] else name

/-- The extension of a file name: from its last point on, or nothing. -/
def extension (name : List Nat) : List Nat :=
  if name.contains 0x2E then 0x2E :: (name.reverse.takeWhile (· != 0x2E)).reverse else []

/-! ## §2. Shapes -/

/-- How a glob is matched. -/
inductive Strategy where
  /-- The file name is `name`. -/
  | fileName (name : List Nat)
  /-- The path is `path`. -/
  | whole (path : List Nat)
  /-- The extension of the file name is `ext`. -/
  | extension (ext : List Nat)
  /-- The path begins with `start`. -/
  | beginning (start : List Nat)
  /-- The path ends with `tail` or, if `tail` begins with a slash that may be missing at the beginning
  of a path, is `tail` without it. -/
  | ending (tail : List Nat) (optionalSlash : Bool)
  /-- The extension of the file name is `ext` and the pattern matches. -/
  | requiredExtension (ext : List Nat)
  /-- The pattern matches. -/
  | pattern
  deriving DecidableEq, Repr, Inhabited

/-- The characters of pieces that are all literal. -/
def literals? (tokens : List Token) : Option (List Char) :=
  tokens.mapM fun
    | .literal c => some c
    | _ => none

/-- The bytes of characters. -/
def bytesOf (cs : List Char) : List Nat := cs.flatMap charBytes

/-- `**` and a slash, then a name without slash. -/
def fileName? : List Token → Option Strategy
  | .directoriesFirst :: t :: rest =>
    match literals? (t :: rest) with
    | some cs => if cs.contains '/' then none else some (.fileName (bytesOf cs))
    | none => none
  | _ => none

/-- Literal characters only. -/
def whole? (tokens : List Token) : Option Strategy :=
  match literals? tokens with
  | some (c :: cs) => some (.whole (bytesOf (c :: cs)))
  | _ => none

/-- A star, possibly after `**` and a slash, then a point and characters other than points and
slashes. -/
def extension? (tokens : List Token) : Option Strategy :=
  let tokens := match tokens with
    | .directoriesFirst :: rest => rest
    | _ => tokens
  match tokens with
  | .anyRun :: .literal '.' :: rest =>
    match literals? rest with
    | some cs =>
      if cs.contains '.' || cs.contains '/' then none else some (.extension (bytesOf ('.' :: cs)))
    | none => none
  | _ => none

/-- Literal characters, then a star or a slash and `**`. -/
def beginning? (tokens : List Token) : Option Strategy :=
  let (front, slash) := match tokens.getLast? with
    | some .anyRun => (tokens.dropLast, [])
    | some .directoriesLast => (tokens.dropLast, ['/'])
    | _ => (tokens, [])
  match literals? front with
  | some cs => if (cs ++ slash).isEmpty then none else some (.beginning (bytesOf (cs ++ slash)))
  | none => none

/-- A star or `**` with its slash or both, then literal characters. The star takes the slash away from
the tail. -/
def ending? (tokens : List Token) : Option Strategy :=
  let (slash, rest) := match tokens with
    | .directoriesFirst :: .literal c :: rest => (true, Token.literal c :: rest)
    | .directoriesFirst :: rest => (false, rest)
    | ts => (false, ts)
  match rest with
  | [] => none
  | t :: others =>
    let rest := match t with
      | .anyRun => others
      | _ => t :: others
    match literals? rest with
    | some cs =>
      let tail := if slash then '/' :: cs else cs
      if tail.isEmpty || tail == ['/'] then none else some (.ending (bytesOf tail) slash)
    | none => none

/-- The literal characters at the end of a glob from the last point on, if no slash is among them. -/
def requiredExtension? (tokens : List Token) : Option Strategy :=
  (go [] tokens.reverse).map fun cs => .requiredExtension (bytesOf cs)
where
  go (acc : List Char) : List Token → Option (List Char)
    | .literal c :: rest =>
      if c = '/' then none else if c = '.' then some (c :: acc) else go (c :: acc) rest
    | _ => none

/-- The strategy of a glob: the first that its shape admits. -/
def Strategy.ofTokens (tokens : List Token) : Strategy :=
  ((fileName? tokens).or <| (whole? tokens).or <| (extension? tokens).or <|
    (beginning? tokens).or <| (ending? tokens).or <| requiredExtension? tokens).getD .pattern

/-! ## §3. Matching -/

/-- Whether a strategy for a glob accepts a path. -/
def Strategy.matches (tokens : List Token) (path : List Nat) : Strategy → Bool
  | .fileName name => !(Glob.fileName path).isEmpty && Glob.fileName path == name
  | .whole p => path == p
  | .extension ext =>
    !(Glob.extension (Glob.fileName path)).isEmpty && Glob.extension (Glob.fileName path) == ext
  | .beginning start => start.isPrefixOf path
  | .ending tail optionalSlash =>
    tail.isSuffixOf path || (optionalSlash && path == tail.drop 1)
  | .requiredExtension ext =>
    !(Glob.extension (Glob.fileName path)).isEmpty && Glob.extension (Glob.fileName path) == ext &&
      patternMatches tokens path
  | .pattern => patternMatches tokens path

end PullTriage.Glob
