import PullTriage.Regex.Primitive

/-!
  PullTriage.Regex.Class: bracketed classes.

  A class is read with a stack of what is open: each opening bracket, and each operator that still
  waits for its right side. Operators have one precedence and group to the left.
-/

namespace PullTriage.Regex

/-- The class that is named between colons. -/
def PosixClass.ofName? (name : String) : Option PosixClass :=
  [("alnum", alnum), ("alpha", alpha), ("ascii", ascii), ("blank", blank), ("cntrl", cntrl),
   ("digit", digit), ("graph", graph), ("lower", lower), ("print", print), ("punct", punct),
   ("space", space), ("upper", upper), ("word", word), ("xdigit", xdigit)].lookup name

/-- A class between colons, from the character after its bracket; `none` if this is not one, and then
the bracket opens a nested class. -/
def posixClass? (cs : List Char) : Option (ClassItem × List Char) :=
  match cs with
  | ':' :: rest =>
    let (negated, rest) := match rest with
      | '^' :: rest => (true, rest)
      | _ => (false, rest)
    match rest.dropWhile (· != ':') with
    | ':' :: ']' :: after =>
      (PosixClass.ofName? (String.ofList (rest.takeWhile (· != ':')))).map fun c =>
        (.posix negated c, after)
    | _ => none
  | _ => none

/-- What waits for the end of the class being read; collected members are in reverse. -/
inductive ClassFrame where
  | opened (members : List ClassItem) (negated : Bool)
  | left (op : SetOp) (set : ClassSet)

/-- A class in progress: what waits, the members so far in reverse, and the characters left. -/
structure ClassState where
  frames : List ClassFrame
  members : List ClassItem
  rest : List Char

/-- Combine a right side with the operator that waits for it, if one does. -/
def closeOperator (frames : List ClassFrame) (right : ClassSet) : List ClassFrame × ClassSet :=
  match frames with
  | .left op left :: frames => (frames, .binary op left right)
  | _ => (frames, right)

/-- The members so far as a set. -/
def ClassState.set (s : ClassState) : ClassSet := .items s.members.reverse

/-- Hyphens at the front of a class are members. -/
def leadingHyphens (verbose : Bool) : Nat → List ClassItem → List Char →
    Option (List ClassItem × List Char)
  | 0, _, _ => none
  | fuel + 1, members, cs =>
    match cs with
    | '-' :: rest => leadingHyphens verbose fuel (.literal ⟨'-', false⟩ :: members) (skip verbose rest)
    | [] => none
    | _ => some (members, cs)

/-- Open a class, from the character after its bracket: a caret negates it, hyphens and then a
closing bracket at its front are members. -/
def openClass? (verbose : Bool) (s : ClassState) (cs : List Char) : Option ClassState := do
  let (negated, cs) := match skip verbose cs with
    | '^' :: rest => (true, skip verbose rest)
    | cs => (false, cs)
  let (members, cs) ← leadingHyphens verbose (cs.length + 1) [] cs
  let (members, cs) := match members, cs with
    | [], ']' :: rest => ([ClassItem.literal ⟨']', false⟩], skip verbose rest)
    | _, _ => (members, cs)
  if cs.isEmpty then none
  return ⟨.opened s.members negated :: s.frames, members, cs⟩

/-- One end of a range, or a member on its own. -/
def classPrimitive? (verbose : Bool) : List Char → Option (Primitive × List Char)
  | [] => none
  | '\\' :: rest => escape? verbose rest
  | c :: rest => some (.literal ⟨c, false⟩, rest)

/-- A member or a range. A hyphen before a closing bracket or another hyphen makes no range. -/
def classRange? (verbose : Bool) (cs : List Char) : Option (ClassItem × List Char) := do
  let (low, cs) ← classPrimitive? verbose cs
  match skip verbose cs with
  | [] => none
  | c :: rest =>
    let following := peekPast verbose (c :: rest)
    if c ≠ '-' ∨ following = some ']' ∨ following = some '-' then
      return (← low.toClassItem?, c :: rest)
    else
      let (high, after) ← classPrimitive? verbose (skip verbose rest)
      let low ← low.toLiteral?
      let high ← high.toLiteral?
      if low.char ≤ high.char then return (.range low high, after) else none

/-- The operator that two characters write. -/
def setOp? : List Char → Option (SetOp × List Char)
  | '&' :: '&' :: rest => some (.intersection, rest)
  | '-' :: '-' :: rest => some (.difference, rest)
  | '~' :: '~' :: rest => some (.symmetricDifference, rest)
  | _ => none

/-- Close the innermost class. The right value is a class with nothing open around it. -/
def closeClass? (s : ClassState) (cs : List Char) :
    Option (ClassState ⊕ (Bool × ClassSet) × List Char) :=
  match closeOperator s.frames s.set with
  | ([.opened _ negated], set) => some (.inr ((negated, set), cs))
  | (.opened members negated :: frames, set) =>
    some (.inl ⟨frames, .bracketed negated set :: members, cs⟩)
  | _ => none

/-- Read members until the outermost class closes. Each round reads a character at least. -/
def classLoop? (verbose : Bool) : Nat → ClassState → Option ((Bool × ClassSet) × List Char)
  | 0, _ => none
  | fuel + 1, s =>
    let cs := skip verbose s.rest
    match cs with
    | [] => none
    | '[' :: rest =>
      match posixClass? rest with
      | some (item, after) => classLoop? verbose fuel ⟨s.frames, item :: s.members, after⟩
      | none => (openClass? verbose s rest).bind (classLoop? verbose fuel)
    | ']' :: rest =>
      match closeClass? s rest with
      | none => none
      | some (.inl s) => classLoop? verbose fuel s
      | some (.inr result) => some result
    | _ =>
      match setOp? cs with
      | some (op, rest) =>
        let (frames, set) := closeOperator s.frames s.set
        classLoop? verbose fuel ⟨.left op set :: frames, [], rest⟩
      | none =>
        (classRange? verbose cs).bind fun (item, rest) =>
          classLoop? verbose fuel ⟨s.frames, item :: s.members, rest⟩

/-- A bracketed class, from the character after its bracket: whether it is negated, what it holds,
and the characters after it. -/
def bracketed? (verbose : Bool) (cs : List Char) : Option ((Bool × ClassSet) × List Char) :=
  (openClass? verbose ⟨[], [], []⟩ cs).bind (classLoop? verbose (cs.length + 1))

end PullTriage.Regex
