/-!
  PullTriage.Glob.Token: the pieces of a path glob, and reading them.

  A glob is read from left to right. What is being read is a stack of levels, because a brace that is
  not protected opens a group of alternatives; the innermost level is on top. `**` is a piece of its
  own only where it is a whole path component: at the beginning of the glob or after a slash, and
  before a slash or the end.

  Main definition: `Token.read`.
-/

namespace PullTriage.Glob

/-- A piece of a glob. -/
inductive Token where
  | literal (c : Char)
  /-- `?` -/
  | any
  /-- `*` -/
  | anyRun
  /-- `**` with its slash at the beginning: nothing, or directories. -/
  | directoriesFirst
  /-- `**` with its slash at the end: a slash and anything. -/
  | directoriesLast
  /-- `**` between two slashes: a slash, or directories between slashes. -/
  | directoriesBetween
  | oneOf (negated : Bool) (ranges : List (Char × Char))
  | alternatives (branches : List (List Token))
  deriving Repr, Inhabited, BEq

/-- What is wrong with a glob. -/
inductive Problem where
  | unclosedClass
  | invalidRange (low high : Char)
  | unopenedAlternatives
  | unclosedAlternatives
  | danglingEscape
  deriving DecidableEq, Repr, Inhabited

/-- The wording of a problem. -/
def Problem.message : Problem → String
  | unclosedClass => "unclosed character class; missing ']'"
  | invalidRange low high =>
    "invalid range; '" ++ String.singleton low ++ "' > '" ++ String.singleton high ++ "'"
  | unopenedAlternatives =>
    "unopened alternate group; missing '\x7b' (maybe escape '\x7d' with '[\x7d]'?)"
  | unclosedAlternatives =>
    "unclosed alternate group; missing '\x7d' (maybe escape '\x7b' with '[\x7b]'?)"
  | danglingEscape => "dangling '\\'"

/-! ## §1. The reader's state -/

/-- The finished branches of a group and the pieces of the branch being read, both in reverse. -/
structure Level where
  branches : List (List Token)
  current : List Token
  deriving Inhabited

/-- A glob in progress: the innermost level, the levels around it, and the last character read. -/
structure State where
  level : Level
  outer : List Level
  previous : Option Char

namespace State

/-- Before the first character. -/
def initial : State := ⟨⟨[], []⟩, [], none⟩

/-- Add a piece; `c` is the last character read. -/
def push (s : State) (t : Token) (c : Char) : State :=
  ⟨{ s.level with current := t :: s.level.current }, s.outer, some c⟩

/-- A `**` that is not a path component is two single stars. -/
def pushTwoRuns (s : State) : State := (s.push .anyRun '*').push .anyRun '*'

/-- A `**` after a slash takes the place of the piece before it, unless that is a `**` at the
beginning or the end of the glob, which then stands for both. -/
def replaceLast (s : State) (t : Token) (c : Char) : State :=
  match s.level.current with
  | .directoriesFirst :: _ => { s with previous := some c }
  | .directoriesLast :: _ => { s with previous := some c }
  | _ :: rest => ⟨{ s.level with current := t :: rest }, s.outer, some c⟩
  | [] => s.push t c

/-- Whether nothing was read in this branch yet. -/
def isBranchStart (s : State) : Bool := s.level.current.isEmpty

/-- Whether a `**` behind the last character may be a path component. Inside a group a comma or an
opening brace counts like a slash; behind one that stands for itself this is no branch start. -/
def isComponentStart (s : State) : Bool :=
  s.previous == some '/' ||
    (!s.outer.isEmpty && (s.previous == some ',' || s.previous == some '\x7b'))

/-- A brace opens a group. -/
def openGroup (s : State) : State := ⟨⟨[], []⟩, s.level :: s.outer, some '\x7b'⟩

/-- A comma inside a group begins the next branch; elsewhere it stands for itself. -/
def comma (s : State) : State :=
  if s.outer.isEmpty then s.push (.literal ',') ','
  else ⟨⟨s.level.current.reverse :: s.level.branches, []⟩, s.outer, some ','⟩

/-- A brace closes the innermost group. -/
def closeGroup? (s : State) : Option State :=
  match s.outer with
  | [] => none
  | l :: outer =>
    let branches := (s.level.current.reverse :: s.level.branches).reverse
    some ⟨{ l with current := .alternatives branches :: l.current }, outer, some '\x7d'⟩

end State

/-! ## §2. Reading -/

/-- A class in progress: its ranges in reverse, whether it is still empty and whether a hyphen was
read after a member. -/
structure ClassState where
  negated : Bool
  ranges : List (Char × Char)
  first : Bool
  afterHyphen : Bool

namespace ClassState

/-- Add a character. After a hyphen it becomes the upper end of the last range. -/
def add (s : ClassState) (c : Char) : Except Problem ClassState :=
  match s.afterHyphen, s.ranges with
  | true, (low, _) :: rest =>
    if c < low then .error (.invalidRange low c)
    else .ok { s with ranges := (low, c) :: rest, first := false, afterHyphen := false }
  | _, ranges => .ok { s with ranges := (c, c) :: ranges, first := false, afterHyphen := false }

/-- Read a hyphen: a member if it is first or ends a range, else the middle of a range. -/
def hyphen (s : ClassState) : Except Problem ClassState :=
  if s.first ∨ s.afterHyphen then s.add '-' else .ok { s with afterHyphen := true }

/-- The finished class; a hyphen at its end is a member. -/
def close (s : ClassState) : Token :=
  .oneOf s.negated ((if s.afterHyphen then ('-', '-') :: s.ranges else s.ranges).reverse)

end ClassState

mutual

/-- Read pieces. -/
def readTokens (s : State) : List Char → Except Problem State
  | [] => .ok s
  | '?' :: rest => readTokens (s.push .any '?') rest
  | '*' :: '*' :: rest =>
    -- a component of its own: in front of a slash or the end, and behind a slash or nothing
    if s.isBranchStart then
      match rest with
      | [] => readTokens (s.push .directoriesFirst '*') []
      | '/' :: rest => readTokens (s.push .directoriesFirst '/') rest
      | c :: rest => readTokens s.pushTwoRuns (c :: rest)
    else if !s.isComponentStart then readTokens s.pushTwoRuns rest
    else match rest with
      | [] => readTokens (s.replaceLast .directoriesLast '*') []
      | '/' :: rest => readTokens (s.replaceLast .directoriesBetween '/') rest
      | c :: rest =>
        -- inside a group a comma or a closing brace is an end as well
        if (c = ',' ∨ c = '\x7d') ∧ !s.outer.isEmpty then
          readTokens (s.replaceLast .directoriesLast '*') (c :: rest)
        else readTokens s.pushTwoRuns (c :: rest)
  | '*' :: rest => readTokens (s.push .anyRun '*') rest
  | '[' :: '!' :: rest => readClass s ⟨true, [], true, false⟩ rest
  | '[' :: '^' :: rest => readClass s ⟨true, [], true, false⟩ rest
  | '[' :: rest => readClass s ⟨false, [], true, false⟩ rest
  | '\x7b' :: rest => readTokens s.openGroup rest
  | '\x7d' :: rest =>
    match s.closeGroup? with
    | some s => readTokens s rest
    | none => .error .unopenedAlternatives
  | ',' :: rest => readTokens s.comma rest
  | '\\' :: c :: rest => readTokens (s.push (.literal c) c) rest
  | ['\\'] => .error .danglingEscape
  | c :: rest => readTokens (s.push (.literal c) c) rest

/-- Read the members of a class. -/
def readClass (s : State) (k : ClassState) : List Char → Except Problem State
  | [] => .error .unclosedClass
  | ']' :: rest =>
    -- a closing bracket in the first place is a member
    if k.first then
      match k.add ']' with
      | .ok k => readClass s k rest
      | .error p => .error p
    else readTokens (s.push k.close ']') rest
  | '-' :: rest =>
    match k.hyphen with
    | .ok k => readClass s k rest
    | .error p => .error p
  | c :: rest =>
    match k.add c with
    | .ok k => readClass s k rest
    | .error p => .error p

end

/-- The pieces of a glob. -/
def Token.read (glob : List Char) : Except Problem (List Token) :=
  match readTokens .initial glob with
  | .error p => .error p
  | .ok s => if s.outer.isEmpty then .ok s.level.current.reverse else .error .unclosedAlternatives

end PullTriage.Glob
