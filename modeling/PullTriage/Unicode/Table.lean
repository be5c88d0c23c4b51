import PullTriage.Digit

/-!
  PullTriage.Unicode.Table: sets of code points as sorted ranges.

  The data modules beside this one write each set as text: code points and ranges in hexadecimal,
  `41-5A 61-7A AA`, in increasing order and apart from each other. `Table.ofText` reads such a text
  and `Table.contains` looks a code point up by halving.
-/

namespace PullTriage.Unicode

/-- Sorted, disjoint, inclusive ranges of code points. -/
structure Table where
  ranges : Array (Nat × Nat)
  deriving Repr, Inhabited

namespace Table

/-- A number being read, the lower end if a dash was read, and the ranges so far. -/
structure Reading where
  current : Option Nat
  low : Option Nat
  ranges : Array (Nat × Nat)

/-- End the number being read. -/
def Reading.flush (r : Reading) : Reading :=
  match r.current with
  | none => r
  | some n => ⟨none, none, r.ranges.push (r.low.getD n, n)⟩

/-- Read one character: a digit, the dash of a range, or a separator. -/
def Reading.next (r : Reading) (c : Char) : Reading :=
  match hexDigit? c with
  | some d => { r with current := some (r.current.getD 0 * 16 + d) }
  | none => if c = '-' then { r with current := none, low := r.current } else r.flush

/-- The table that a text writes out. -/
def ofText (text : String) : Table :=
  ⟨(text.foldl Reading.next ⟨none, none, #[]⟩).flush.ranges⟩

/-- Look `c` up among the ranges from index `lo` up to `hi`. -/
def search (ranges : Array (Nat × Nat)) (c : Nat) : Nat → Nat → Nat → Bool
  | 0, _, _ => false
  | fuel + 1, lo, hi =>
    if lo < hi then
      let mid := (lo + hi) / 2
      match ranges[mid]? with
      | none => false
      | some (a, b) =>
        if c < a then search ranges c fuel lo mid
        else if b < c then search ranges c fuel (mid + 1) hi
        else true
    else false

/-- Whether a code point belongs to the table. -/
def contains (t : Table) (c : Nat) : Bool :=
  search t.ranges c (t.ranges.size + 1) 0 t.ranges.size

end Table

/-- A set of code points under the names it goes by, in lower case without separators. -/
structure NamedSet where
  names : List String
  text : String

/-- The table of the set that goes by `name`. -/
def NamedSet.find? (sets : List NamedSet) (name : String) : Option Table :=
  (sets.find? fun s => s.names.contains name).map fun s => Table.ofText s.text

end PullTriage.Unicode
