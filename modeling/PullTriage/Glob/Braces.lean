/-!
  PullTriage.Glob.Braces: braces that stand for themselves.

  Outside character classes a brace of a path glob is an ordinary character, so it is put into a class
  of its own before the glob is read. A backslash keeps the character after it as it is. The bracket
  that opens a class takes a following `!` or `^` with it, and then a closing bracket.
-/

namespace PullTriage.Glob

mutual

/-- Rewrite outside a class. -/
def bracesOutside : List Char → List Char
  | [] => []
  | '\\' :: c :: rest => '\\' :: c :: bracesOutside rest
  | '[' :: '!' :: ']' :: rest => '[' :: '!' :: ']' :: bracesInside rest
  | '[' :: '^' :: ']' :: rest => '[' :: '^' :: ']' :: bracesInside rest
  | '[' :: '!' :: rest => '[' :: '!' :: bracesInside rest
  | '[' :: '^' :: rest => '[' :: '^' :: bracesInside rest
  | '[' :: ']' :: rest => '[' :: ']' :: bracesInside rest
  | '[' :: rest => '[' :: bracesInside rest
  | '\x7b' :: rest => '[' :: '\x7b' :: ']' :: bracesOutside rest
  | '\x7d' :: rest => '[' :: '\x7d' :: ']' :: bracesOutside rest
  | c :: rest => c :: bracesOutside rest

/-- Rewrite inside a class. -/
def bracesInside : List Char → List Char
  | [] => []
  | '\\' :: c :: rest => '\\' :: c :: bracesInside rest
  | ']' :: rest => ']' :: bracesOutside rest
  | c :: rest => c :: bracesInside rest

end

/-- The glob in which braces outside classes stand for themselves. -/
def literalBraces (glob : List Char) : List Char := bracesOutside glob

end PullTriage.Glob
