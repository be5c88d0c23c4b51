/-!
  PullTriage.FilePath: the parts of a path.

  A path is made of components between slashes. Repeated slashes, slashes at the end and components
  that are a single point add nothing, except that a slash or a point at the very beginning stays.

  Main definitions:
    * `FilePath.fileName?`: the last component, unless it is `..`;
    * `FilePath.extension?`: what follows the last point of the file name;
    * `FilePath.parent?`: the path without its last component.
-/

namespace PullTriage
namespace FilePath

/-! ## §1. Beginnings and endings -/

/-- What a path begins with, apart from its components. -/
inductive Anchor where
  | none
  /-- A slash. -/
  | root
  /-- A component that is a single point. -/
  | here
  deriving DecidableEq, Repr, Inhabited

/-- The characters of an anchor. -/
def Anchor.text : Anchor → List Char
  | none => []
  | root => ['/']
  | here => ['.']

/-- The anchor of a path, and the rest. -/
def splitAnchor : List Char → Anchor × List Char
  | '/' :: rest => (.root, rest)
  | ['.'] => (.here, [])
  | '.' :: '/' :: rest => (.here, '/' :: rest)
  | cs => (.none, cs)

/-- Drop what adds nothing at the end of a path that is given from its end. -/
def dropIdle : List Char → List Char
  | '/' :: rest => dropIdle rest
  | '.' :: '/' :: rest => dropIdle rest
  | ['.'] => []
  | cs => cs

/-- The last component of a path that is given from its end, in order. -/
def lastComponent (reversed : List Char) : List Char := (reversed.takeWhile (· != '/')).reverse

/-- A path that is given from its end without its last component and the slash before it. -/
def dropComponent (reversed : List Char) : List Char := (reversed.dropWhile (· != '/')).drop 1

/-! ## §2. Parts -/

/-- The last component of a path; a path that ends in `..` or has no component has none. -/
def fileName? (path : List Char) : Option (List Char) :=
  let name := lastComponent (dropIdle (splitAnchor path).2.reverse)
  if name = [] ∨ name = ['.', '.'] then none else some name

/-- What follows the last point of the file name. A point at the beginning of the name does not
count. -/
def extension? (path : List Char) : Option (List Char) :=
  (fileName? path).bind fun name =>
    let after := (name.reverse.takeWhile (· != '.')).reverse
    if after.length + 1 < name.length then some after else none

/-- The path without its last component; a path that is only a slash has no parent. -/
def parent? (path : List Char) : Option (List Char) :=
  let (anchor, body) := splitAnchor path
  match dropIdle body.reverse with
  | [] => if anchor = .here then some [] else none
  | reversed => some (anchor.text ++ (dropIdle (dropComponent reversed)).reverse)

end FilePath
end PullTriage
