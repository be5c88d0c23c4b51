import PullTriage.Pattern.Basic

/-!
  PullTriage.Pattern.Positions: matching by sets of positions.

  A set of positions of a text is a natural number: position `i` belongs to it when bit `i` is set.
  For one text every step test becomes the set of positions whose symbol passes, every guard test the
  set of positions that pass, and then a pattern maps the positions where a match may start to those
  where it may end. A repetition only follows positions it has not reached before, so the work is
  bounded by the length of the text times the size of the pattern, whatever the pattern.

  Main definitions:
    * `Pattern.ends`: from start positions to end positions;
    * `Pattern.found`: some part of the text matches;
    * `Pattern.matchesWhole`: all of the text matches.
-/

namespace PullTriage
namespace Pattern

/-! ## §1. Position sets of a text -/

/-- The positions whose symbol passes the test. -/
def symbolsThat {α : Type} (test : α → Bool) : List α → Nat
  | [] => 0
  | a :: rest => (if test a then 1 else 0) + 2 * symbolsThat test rest

/-- The positions, the end included, that pass a test of the symbols before and after them. -/
def gapsThat {α : Type} (test : Option α → Option α → Bool) (before : Option α) : List α → Nat
  | [] => if test before none then 1 else 0
  | a :: rest => (if test before (some a) then 1 else 0) + 2 * gapsThat test (some a) rest

/-- The positions `0, … n`. -/
def allPositions (n : Nat) : Nat := Nat.pow 2 (n + 1) - 1

/-- The positions of `s` that are not in `t`. -/
def without (s t : Nat) : Nat := s ^^^ (s &&& t)

/-! ## §2. From starts to ends -/

/-- Apply `f` to a set `k` times; an empty set stays empty. -/
def iterate (f : Nat → Nat) : Nat → Nat → Nat
  | 0, s => s
  | k + 1, s => if s = 0 then 0 else iterate f k (f s)

/-- Everything reached from `seen` in up to `rounds` further applications of `f`, when `frontier` is
the part of `seen` that has not been followed yet. -/
def reach (f : Nat → Nat) : Nat → Nat → Nat → Nat
  | 0, _, seen => seen
  | rounds + 1, frontier, seen =>
    let fresh := without (f frontier) seen
    if fresh = 0 then seen else reach f rounds fresh (seen ||| fresh)

/-- The positions where a match that starts in `s` may end. Steps and guards hold the positions that
pass them, and the text has `n` symbols. -/
def ends (n : Nat) : Pattern Nat Nat → Nat → Nat
  | empty, s => s
  | step at_, s => (s &&& at_) <<< 1
  | guard at_, s => s &&& at_
  | seq p q, s => ends n q (ends n p s)
  | alt p q, s => ends n p s ||| ends n q s
  | repeated p least most, s =>
    let base := iterate (ends n p) least s
    let rounds := match most with
      | none => n + 1
      | some k => k - least
    reach (ends n p) rounds base base

/-! ## §3. Searching and matching -/

/-- The tests of a pattern as positions of a text. -/
def locate {σ γ α : Type} (symbol : σ → α → Bool) (gap : γ → Option α → Option α → Bool)
    (text : List α) (p : Pattern σ γ) : Pattern Nat Nat :=
  p.map (fun t => symbolsThat (symbol t) text) (fun t => gapsThat (gap t) none text)

/-- Whether the pattern matches somewhere in the text. -/
def found {σ γ α : Type} (symbol : σ → α → Bool) (gap : γ → Option α → Option α → Bool)
    (p : Pattern σ γ) (text : List α) : Bool :=
  ends text.length (p.locate symbol gap text) (allPositions text.length) != 0

/-- Whether the pattern matches the text from its beginning to its end. -/
def matchesWhole {σ γ α : Type} (symbol : σ → α → Bool) (gap : γ → Option α → Option α → Bool)
    (p : Pattern σ γ) (text : List α) : Bool :=
  (ends text.length (p.locate symbol gap text) 1).testBit text.length

end Pattern
end PullTriage
