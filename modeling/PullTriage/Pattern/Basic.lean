/-!
  PullTriage.Pattern.Basic: the shape that text patterns and path globs share.

  A pattern is built from *steps* that consume one symbol, *guards* that look at a position without
  consuming, and the regular operations. What a step or guard says is left open: `Pattern σ γ` has
  steps in `σ` and guards in `γ`, and `Pattern.map` changes both. The same type thus holds a pattern
  over character sets, and the pattern in which every test has become the set of positions of one
  text where it succeeds.

  `Pattern.Matches` says what a pattern means on a list of symbols.
-/

namespace PullTriage

/-- A pattern whose steps are tested by `σ` and whose guards by `γ`. -/
inductive Pattern (σ γ : Type) where
  /-- Matches the empty run. -/
  | empty
  /-- Consumes one symbol that passes the test. -/
  | step (test : σ)
  /-- Consumes nothing, at a position that passes the test. -/
  | guard (test : γ)
  /-- One pattern, then another. -/
  | seq (first second : Pattern σ γ)
  /-- One pattern or another. -/
  | alt (left right : Pattern σ γ)
  /-- A pattern `least` times or more, at most `most` times if there is such a bound. -/
  | repeated (body : Pattern σ γ) (least : Nat) (most : Option Nat)
  deriving Repr, Inhabited

namespace Pattern

variable {σ γ σ' γ' : Type}

/-- Change the tests and keep the shape. -/
def map (f : σ → σ') (g : γ → γ') : Pattern σ γ → Pattern σ' γ'
  | empty => empty
  | step t => step (f t)
  | guard t => guard (g t)
  | seq p q => seq (p.map f g) (q.map f g)
  | alt p q => alt (p.map f g) (q.map f g)
  | repeated p least most => repeated (p.map f g) least most

/-- One pattern after the other. -/
def ofList : List (Pattern σ γ) → Pattern σ γ
  | [] => empty
  | [p] => p
  | p :: rest => seq p (ofList rest)

/-- A pattern or nothing. -/
def optional (p : Pattern σ γ) : Pattern σ γ := repeated p 0 (some 1)

/-- A pattern any number of times. -/
def star (p : Pattern σ γ) : Pattern σ γ := repeated p 0 none

/-- Whether every match is empty because the pattern holds no step. -/
def isStepless : Pattern σ γ → Bool
  | empty => true
  | step _ => false
  | guard _ => true
  | seq p q => p.isStepless && q.isStepless
  | alt p q => p.isStepless && q.isStepless
  | repeated p _ most => p.isStepless || most == some 0

/-- Repetition in which a body without steps is repeated once at most: a second empty match adds
nothing to the first. -/
def repeatedTimes (p : Pattern σ γ) (least : Nat) (most : Option Nat) : Pattern σ γ :=
  if p.isStepless then repeated p (min least 1) (some (min (most.getD 1) 1))
  else repeated p least most

/-! ## What a pattern means -/

/-- `Matches symbol guards text p i j`: pattern `p` consumes the symbols of `text` from position `i`
up to position `j`. `symbol t a` says that symbol `a` passes the step test `t`, and `guards t i` that
position `i` passes the guard test `t`. -/
inductive Matches {α : Type} (symbol : σ → α → Bool) (guards : γ → Nat → Bool) (text : List α) :
    Pattern σ γ → Nat → Nat → Prop
  | empty {i} (h : i ≤ text.length) : Matches symbol guards text .empty i i
  | step {t i a} (h : text[i]? = some a) (ok : symbol t a = true) :
      Matches symbol guards text (.step t) i (i + 1)
  | guard {t i} (h : i ≤ text.length) (ok : guards t i = true) :
      Matches symbol guards text (.guard t) i i
  | seq {p q i j k} (first : Matches symbol guards text p i j)
      (second : Matches symbol guards text q j k) : Matches symbol guards text (.seq p q) i k
  | left {p q i j} (h : Matches symbol guards text p i j) :
      Matches symbol guards text (.alt p q) i j
  | right {p q i j} (h : Matches symbol guards text q i j) :
      Matches symbol guards text (.alt p q) i j
  | done {p most i} (h : i ≤ text.length) : Matches symbol guards text (.repeated p 0 most) i i
  | more {p least most i j k} (bound : most ≠ some 0) (once : Matches symbol guards text p i j)
      (rest : Matches symbol guards text (.repeated p (least - 1) (most.map (· - 1))) j k) :
      Matches symbol guards text (.repeated p least most) i k

end Pattern
end PullTriage
