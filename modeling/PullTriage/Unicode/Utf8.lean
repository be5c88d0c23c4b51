import PullTriage.Unicode.Ranges

/-!
  PullTriage.Unicode.Utf8: ranges of characters as ranges of bytes.

  Text is read byte by byte, so a range of characters becomes sequences of byte ranges: the characters
  of one sequence are those whose first byte is in the first range, whose second byte is in the second,
  and so on. A range is cut where the number of bytes changes, at the surrogates, which are no
  characters, and so that from some byte on a piece has all continuation bytes or is a single character.

  Main definitions:
    * `utf8`: the bytes of a character;
    * `byteSequences`: the sequences of a range.
-/

namespace PullTriage.Unicode

/-- The bytes of a character. -/
def utf8 (c : Nat) : List Nat :=
  if c < 0x80 then [c]
  else if c < 0x800 then [0xC0 + c / 0x40, 0x80 + c % 0x40]
  else if c < 0x10000 then [0xE0 + c / 0x1000, 0x80 + c / 0x40 % 0x40, 0x80 + c % 0x40]
  else [0xF0 + c / 0x40000, 0x80 + c / 0x1000 % 0x40, 0x80 + c / 0x40 % 0x40, 0x80 + c % 0x40]

/-- Cut a range so that `bound` begins a piece. -/
def cutAt (bound : Nat) (r : Nat × Nat) : List (Nat × Nat) :=
  if r.1 < bound ∧ bound ≤ r.2 then [(r.1, bound - 1), (bound, r.2)] else [r]

/-- Cut a range into the blocks of `size` characters that it covers and what is left at its ends. A
range inside one block is left as it is. -/
def cutBlocks (size : Nat) (r : Nat × Nat) : List (Nat × Nat) :=
  let first := (r.1 + size - 1) / size * size
  let afterLast := (r.2 + 1) / size * size
  if r.1 / size = r.2 / size then [r]
  else (if r.1 < first then [(r.1, first - 1)] else []) ++
    (if first < afterLast then [(first, afterLast - 1)] else []) ++
    (if afterLast ≤ r.2 then [(afterLast, r.2)] else [])

/-- Whether a range holds surrogates, once it has been cut at them. -/
def isSurrogate (r : Nat × Nat) : Bool := 0xD800 ≤ r.1 && r.1 < 0xE000

/-- A sequence of byte ranges. -/
abbrev ByteSequence := List (Nat × Nat)

/-- The sequences of byte ranges of a range of characters, in increasing order. -/
def byteSequences (r : Nat × Nat) : List ByteSequence :=
  let pieces := [0xD800, 0xE000, 0x80, 0x800, 0x10000].foldl (fun rs bound => rs.flatMap (cutAt bound)) [r]
  let blocks := [0x40, 0x1000, 0x40000].foldl (fun rs size => rs.flatMap (cutBlocks size))
    (pieces.filter fun p => !isSurrogate p)
  blocks.map fun p => (utf8 p.1).zip (utf8 p.2)

/-- The byte ranges that sequences begin with, each with the rests of its sequences. -/
def firstBytes : List ByteSequence → List ((Nat × Nat) × List ByteSequence)
  | [] => []
  | [] :: rest => firstBytes rest
  | (r :: s) :: rest =>
    match firstBytes rest with
    | (r', ss) :: others => if r = r' then (r, s :: ss) :: others else (r, [s]) :: (r', ss) :: others
    | [] => [(r, [s])]

end PullTriage.Unicode
