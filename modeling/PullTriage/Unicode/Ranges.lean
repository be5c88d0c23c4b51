import PullTriage.Unicode.CharSet

/-!
  PullTriage.Unicode.Ranges: the ranges that a set of characters consists of.

  Before a pattern is compiled every character class in it becomes a list of ranges, in increasing
  order and so far apart that no two of them could be one. How large the compiled pattern is depends
  on these ranges.

  Main definitions:
    * `Ranges.union`, `Ranges.compl`: the operations on lists of ranges;
    * `CharSet.ranges`: the ranges of a set.
-/

namespace PullTriage.Unicode

/-- Inclusive ranges of numbers, in increasing order and apart from each other. -/
abbrev Ranges := List (Nat × Nat)

namespace Ranges

/-- Add a range. Ranges that overlap it or touch it become one with it. -/
def insert (r : Nat × Nat) : Ranges → Ranges
  | [] => [r]
  | s :: rest =>
    if r.2 + 1 < s.1 then r :: s :: rest
    else if s.2 + 1 < r.1 then s :: insert r rest
    else insert (min r.1 s.1, max r.2 s.2) rest

/-- The numbers of either list. -/
def union (a b : Ranges) : Ranges := a.foldr insert b

/-- Single numbers as ranges. -/
def ofNumbers (numbers : List Nat) : Ranges := union (numbers.map fun n => (n, n)) []

/-- The numbers from `low` to `last` that are in no range; all ranges begin at `low` or later. -/
def gaps (last low : Nat) : Ranges → Ranges
  | [] => if low ≤ last then [(low, last)] else []
  | r :: rest => if low < r.1 then (low, r.1 - 1) :: gaps last (r.2 + 1) rest else gaps last (r.2 + 1) rest

/-- The numbers up to `last` that are in no range. -/
def compl (last : Nat) (a : Ranges) : Ranges := gaps last 0 a

/-- The numbers up to `last` that are in both lists. -/
def inter (last : Nat) (a b : Ranges) : Ranges := compl last (union (compl last a) (compl last b))

/-- How many numbers there are. -/
def count : Ranges → Nat
  | [] => 0
  | r :: rest => r.2 + 1 - r.1 + count rest

/-- Whether a number is in a range. -/
def contains (a : Ranges) (n : Nat) : Bool := a.any fun r => r.1 ≤ n && n ≤ r.2

/-- The numbers one by one. -/
def numbers (a : Ranges) : List Nat := a.flatMap fun r => (List.range (r.2 + 1 - r.1)).map (r.1 + ·)

end Ranges

namespace CharSet

/-- The greatest code point. -/
def lastCode : Nat := 0x10FFFF

/-- The classes of letters below U+0080 that agree but for case. -/
def asciiClasses : List (List Nat) := (List.range 26).map fun i => [0x41 + i, 0x61 + i]

/-- The classes that a set may have members of. Those of `pairRuns` hold no character below U+0080. -/
def classesNear (a : Ranges) : List (List Nat) :=
  asciiClasses ++ largerClasses ++
    if a.all (·.2 < 0x80) then [] else pairRuns.flatMap PairRun.classes

/-- The characters that agree with a member but for case, if there are others than the member. -/
def partners (a : Ranges) : List Nat :=
  ((classesNear a).filter fun members => members.any a.contains).flatten

/-- The ranges of a set. -/
def ranges : CharSet → Ranges
  | range low high => if low ≤ high then [(low, high)] else []
  | shorthand s =>
    Ranges.union (Ranges.ofNumbers ((List.range 0x80).filter s.containsAscii)) s.table.ranges.toList
  | asciiShorthand s => Ranges.ofNumbers ((List.range 0x80).filter s.containsAscii)
  | table t => t.ranges.toList
  | union a b => Ranges.union a.ranges b.ranges
  | inter a b => Ranges.inter lastCode a.ranges b.ranges
  | compl a => Ranges.compl lastCode a.ranges
  | foldCase a => Ranges.union (Ranges.ofNumbers (partners a.ranges)) a.ranges
  | foldAsciiCase a =>
    let letters := (List.range 0x80).filter fun c => isAsciiLetter c && a.ranges.contains c
    Ranges.union (Ranges.ofNumbers (letters.map swapAsciiCase)) a.ranges

end CharSet
end PullTriage.Unicode
