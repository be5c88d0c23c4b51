import Mathlib.Computability.Language
import PullTriage.Pattern.Positions

/-!
  PullTriage.Proofs.PatternPositions: sets of positions follow the meaning of a pattern.

  A pattern takes a set of start positions to the set of positions where a match that starts in it
  may end.  So the search by position sets answers what `Pattern.Matches` says, for every text and for
  every pattern whose repetitions have their bounds in order.  A pattern without guards stands for a
  language, and it matches a whole text exactly when the text is a word of it.

  Layers:
    * §1: membership in the sets that a text is turned into;
    * §2: runs of a relation between positions, and what `iterate` and `reach` make of them;
    * §3: a repetition is a run of its body, so `ends` follows `Matches`;
    * §4: patterns without guards and their words.

  Main statements: `matchesWhole_iff`, `found_iff`, `matchesWhole_iff_mem_words`.
-/

namespace PullTriage
namespace Pattern

variable {σ γ α : Type}

/-! ## §1. Sets of positions. -/

/-- The lowest bit of a set that begins with a bit. -/
theorem testBit_head_zero (b : Bool) (s : Nat) :
    ((if b then 1 else 0) + 2 * s).testBit 0 = b := by
  rw [Nat.testBit_zero]
  cases b <;> simp

/-- The other bits of such a set. -/
theorem testBit_head_succ (b : Bool) (s i : Nat) :
    ((if b then 1 else 0) + 2 * s).testBit (i + 1) = s.testBit i := by
  rw [Nat.testBit_succ]
  have hhalf : ((if b then 1 else 0) + 2 * s) / 2 = s := by
    cases b
    · simp
    · simp
      omega
  rw [hhalf]

/-- A position belongs to the set of a test when its symbol passes the test. -/
theorem testBit_symbolsThat (test : α → Bool) (text : List α) (i : Nat) :
    (symbolsThat test text).testBit i = text[i]?.any test := by
  induction text generalizing i with
  | nil => simp [symbolsThat]
  | cons a rest ih =>
      unfold symbolsThat
      cases i with
      | zero => rw [testBit_head_zero]; rfl
      | succ i => rw [testBit_head_succ, ih]; rfl

/-- The symbol before a position, when `before` stands before the text. -/
def symbolBefore (before : Option α) (text : List α) : Nat → Option α
  | 0 => before
  | i + 1 => text[i]?

/-- What stands before a later place is found in the rest. -/
theorem symbolBefore_cons (before : Option α) (a : α) (rest : List α) (i : Nat) :
    symbolBefore before (a :: rest) (i + 1) = symbolBefore (some a) rest i := by
  cases i <;> rfl

/-- A position belongs to the set of a condition when its neighbours pass it. -/
theorem testBit_gapsThat (test : Option α → Option α → Bool) (before : Option α) (text : List α)
    (i : Nat) : (gapsThat test before text).testBit i =
      (decide (i ≤ text.length) && test (symbolBefore before text i) text[i]?) := by
  induction text generalizing before i with
  | nil =>
      unfold gapsThat
      cases i with
      | zero => cases h : test before none <;> simp [symbolBefore, h]
      | succ i => cases h : test before none <;> simp [Nat.testBit_succ]
  | cons a rest ih =>
      unfold gapsThat
      cases i with
      | zero => rw [testBit_head_zero]; simp [symbolBefore]
      | succ i =>
          rw [testBit_head_succ, ih, symbolBefore_cons]
          simp

/-- All places of a text of `n` symbols are those up to `n`. -/
theorem testBit_allPositions (n i : Nat) : (allPositions n).testBit i = decide (i ≤ n) := by
  unfold allPositions
  show (2 ^ (n + 1) - 1).testBit i = _
  rw [Nat.testBit_two_pow_sub_one]
  exact decide_eq_decide.mpr Nat.lt_succ_iff

/-- Taking a set out of another leaves the members that are not in it. -/
theorem testBit_without (s t i : Nat) :
    (without s t).testBit i = (s.testBit i && !t.testBit i) := by
  unfold without
  rw [Nat.testBit_xor, Nat.testBit_and]
  cases s.testBit i <;> cases t.testBit i <;> rfl

/-! ## §2. Runs of a relation between positions. -/

/-- `Run R k i j`: `k` applications of `R` lead from position `i` to position `j`. -/
def Run (R : Nat → Nat → Prop) : Nat → Nat → Nat → Prop
  | 0, i, j => i = j
  | k + 1, i, j => ∃ m, R i m ∧ Run R k m j

section Runs

variable {R : Nat → Nat → Prop} {n : Nat}

/-- A run may be continued by another. -/
theorem Run.append {k l i m j : Nat} (first : Run R k i m) (second : Run R l m j) :
    Run R (k + l) i j := by
  induction k generalizing i with
  | zero =>
      obtain rfl : i = m := first
      rwa [Nat.zero_add]
  | succ k ih =>
      obtain ⟨m', hstep, hrest⟩ := first
      rw [Nat.succ_add]
      exact ⟨m', hstep, ih hrest⟩

/-- A run may be taken apart after any number of its steps. -/
theorem Run.split {k l i j : Nat} (h : Run R (k + l) i j) : ∃ m, Run R k i m ∧ Run R l m j := by
  induction k generalizing i with
  | zero => exact ⟨i, rfl, by rwa [Nat.zero_add] at h⟩
  | succ k ih =>
      rw [Nat.succ_add] at h
      obtain ⟨m', hstep, hrest⟩ := h
      obtain ⟨m, hfirst, hsecond⟩ := ih hrest
      exact ⟨m, ⟨m', hstep, hfirst⟩, hsecond⟩

/-- A run does not go back if its steps do not. -/
theorem Run.le (hmono : ∀ {i j}, R i j → i ≤ j) {k i j : Nat} (h : Run R k i j) : i ≤ j := by
  induction k generalizing i with
  | zero => exact Nat.le_of_eq h
  | succ k ih =>
      obtain ⟨m, hstep, hrest⟩ := h
      exact (hmono hstep).trans (ih hrest)

/-- A run stays in bounds if its steps do. -/
theorem Run.le_bound (hbound : ∀ {i j}, R i j → j ≤ n) {k i j : Nat} (hi : i ≤ n)
    (h : Run R k i j) : j ≤ n := by
  induction k generalizing i with
  | zero =>
      obtain rfl : i = j := h
      exact hi
  | succ k ih =>
      obtain ⟨m, hstep, hrest⟩ := h
      exact ih (hbound hstep) hrest

/-- Steps that stay where they are can be left out, and every other step goes forward, so a run needs
no more steps than it passes positions. -/
theorem Run.shorten (hmono : ∀ {i j}, R i j → i ≤ j) {k i j : Nat} (h : Run R k i j) :
    ∃ l, l ≤ j - i ∧ Run R l i j := by
  induction k generalizing i with
  | zero =>
      obtain rfl : i = j := h
      exact ⟨0, by omega, rfl⟩
  | succ k ih =>
      obtain ⟨m, hstep, hrest⟩ := h
      obtain ⟨l, hl, hrun⟩ := ih hrest
      have him : i ≤ m := hmono hstep
      have hmj : m ≤ j := hrest.le hmono
      by_cases heq : i = m
      · subst heq
        exact ⟨l, hl, hrun⟩
      · exact ⟨l + 1, by omega, m, hstep, hrun⟩

/-- A repetition within its bounds. -/
def Allowed (least : Nat) (most : Option Nat) (k : Nat) : Prop :=
  least ≤ k ∧ ∀ m, most = some m → k ≤ m

/-- The rounds that `ends` gives to a repetition after its obligatory part. -/
def roundsAfter (n least : Nat) : Option Nat → Nat
  | none => n + 1
  | some k => k - least

/-- An allowed run is its obligatory part and then as many steps as there are rounds. -/
theorem exists_allowed_run {least : Nat} {most : Option Nat}
    (hmono : ∀ {i j}, R i j → i ≤ j) (hbound : ∀ {i j}, R i j → j ≤ n)
    (hordered : ∀ k, most = some k → least ≤ k) {i j : Nat} (hi : i ≤ n) :
    (∃ k, Allowed least most k ∧ Run R k i j) ↔
      ∃ m, Run R least i m ∧
        ∃ k ≤ roundsAfter n least most, Run R k m j := by
  constructor
  · rintro ⟨k, ⟨hleast, hmost⟩, hrun⟩
    obtain ⟨extra, rfl⟩ : ∃ extra, k = least + extra := ⟨k - least, by omega⟩
    obtain ⟨m, hfirst, hsecond⟩ := hrun.split
    refine ⟨m, hfirst, ?_⟩
    cases most with
    | none =>
        -- without an upper limit, rounds that stay in place may be left out
        obtain ⟨l, hl, hshort⟩ := hsecond.shorten hmono
        have hm : m ≤ n := hfirst.le_bound hbound hi
        have hj : j ≤ n := hsecond.le_bound hbound hm
        exact ⟨l, by show l ≤ n + 1; omega, hshort⟩
    | some b =>
        have hb : least + extra ≤ b := hmost b rfl
        exact ⟨extra, by show extra ≤ b - least; omega, hsecond⟩
  · rintro ⟨m, hfirst, k, hk, hsecond⟩
    refine ⟨least + k, ⟨Nat.le_add_right _ _, fun b hb => ?_⟩, hfirst.append hsecond⟩
    subst hb
    have hb : least ≤ b := hordered b rfl
    have hk' : k ≤ b - least := hk
    omega

end Runs

/-- The members of a set are positions of a text with `n` symbols. -/
def Within (n s : Nat) : Prop := ∀ i, s.testBit i = true → i ≤ n

/-- `f` takes a set of positions to the set of positions that `R` leads to. -/
def Follows (n : Nat) (R : Nat → Nat → Prop) (f : Nat → Nat) : Prop :=
  ∀ s, Within n s → ∀ j, (f s).testBit j = true ↔ ∃ i, s.testBit i = true ∧ R i j

section Sets

variable {R : Nat → Nat → Prop} {f : Nat → Nat} {n : Nat}

/-- What follows a set of places within bounds is within bounds. -/
theorem Follows.within (hf : Follows n R f) (hbound : ∀ {i j}, R i j → j ≤ n) {s : Nat}
    (hs : Within n s) : Within n (f s) := by
  intro j hj
  obtain ⟨i, -, hR⟩ := (hf s hs j).mp hj
  exact hbound hR

/-- Applying `f` several times follows the runs of that many steps. -/
theorem follows_iterate (hf : Follows n R f) (hbound : ∀ {i j}, R i j → j ≤ n) (k : Nat) :
    Follows n (Run R k) (iterate f k) := by
  induction k with
  | zero =>
      intro s _ j
      constructor
      · intro hj
        exact ⟨j, hj, rfl⟩
      · rintro ⟨i, hi, rfl⟩
        exact hi
  | succ k ih =>
      intro s hs j
      unfold iterate
      -- without positions there is nothing to go on from, so the rounds end early
      by_cases hempty : s = 0
      · subst hempty
        simp
      · rw [if_neg hempty, ih (f s) (hf.within hbound hs) j]
        constructor
        · rintro ⟨m, hm, hrun⟩
          obtain ⟨i, hi, hstep⟩ := (hf s hs m).mp hm
          exact ⟨i, hi, m, hstep, hrun⟩
        · rintro ⟨i, hi, m, hstep, hrun⟩
          exact ⟨m, (hf s hs m).mpr ⟨i, hi, hstep⟩, hrun⟩

/-- A set of positions that have been reached, of which only those in the frontier have not been
followed yet. -/
structure Explored (R : Nat → Nat → Prop) (frontier seen : Nat) : Prop where
  sub : ∀ i, frontier.testBit i = true → seen.testBit i = true
  closed : ∀ i j, seen.testBit i = true → R i j →
    frontier.testBit i = true ∨ seen.testBit j = true

/-- At the start, nothing is explored but the places to start from. -/
theorem Explored.start (s : Nat) : Explored R s s :=
  ⟨fun _ hi => hi, fun _ _ hi _ => .inl hi⟩

section Round

variable {frontier seen : Nat} (h : Explored R frontier seen) (hf : Follows n R f)
  (hwithin : Within n seen)

include h hf hwithin

/-- What follows the frontier is one step behind it. -/
theorem Explored.testBit_follow (j : Nat) :
    (f frontier).testBit j = true ↔ ∃ i, frontier.testBit i = true ∧ R i j :=
  hf frontier (fun i hi => hwithin i (h.sub i hi)) j

/-- A step from an explored place leads to an explored place or behind the frontier. -/
theorem Explored.mem_or_follow {i j : Nat} (hi : seen.testBit i = true) (hR : R i j) :
    seen.testBit j = true ∨ (f frontier).testBit j = true := by
  rcases h.closed i j hi hR with hfr | hj
  · exact .inr ((h.testBit_follow hf hwithin j).mpr ⟨i, hfr, hR⟩)
  · exact .inl hj

/-- When following the frontier gives nothing new, no run leaves what was seen. -/
theorem Explored.run_stays (hempty : without (f frontier) seen = 0) {k i j : Nat}
    (hi : seen.testBit i = true) (hrun : Run R k i j) : seen.testBit j = true := by
  induction k generalizing i with
  | zero =>
      obtain rfl : i = j := hrun
      exact hi
  | succ k ih =>
      obtain ⟨m, hR, hrest⟩ := hrun
      refine ih ?_ hrest
      rcases h.mem_or_follow hf hwithin hi hR with hm | hm
      · exact hm
      · have hnone : (without (f frontier) seen).testBit m = false := by
          rw [hempty, Nat.zero_testBit]
        rw [testBit_without, hm] at hnone
        simpa using hnone

omit h hf hwithin in
/-- What has been seen and what is fresh are both sets together. -/
theorem testBit_seen_or_fresh (s t i : Nat) :
    (s ||| without t s).testBit i = true ↔ s.testBit i = true ∨ t.testBit i = true := by
  rw [Nat.testBit_or, testBit_without]
  cases s.testBit i <;> simp

/-- A round follows the frontier; what it finds for the first time is the next frontier. -/
theorem Explored.next :
    Explored R (without (f frontier) seen) (seen ||| without (f frontier) seen) := by
  constructor
  · intro i hi
    rw [Nat.testBit_or, hi, Bool.or_true]
  · intro i j hi hR
    by_cases hold : seen.testBit i = true
    · right
      exact (testBit_seen_or_fresh _ _ _).mpr (h.mem_or_follow hf hwithin hold hR)
    · left
      rw [Nat.testBit_or, Bool.or_eq_true] at hi
      exact hi.resolve_left hold

/-- The next frontier is within bounds. -/
theorem Explored.within_next (hbound : ∀ {i j}, R i j → j ≤ n) :
    Within n (seen ||| without (f frontier) seen) := by
  intro j hj
  rcases (testBit_seen_or_fresh _ _ _).mp hj with hj | hj
  · exact hwithin j hj
  · obtain ⟨i, -, hR⟩ := (h.testBit_follow hf hwithin j).mp hj
    exact hbound hR

end Round

/-- `reach` collects what runs of at most that many steps lead to. -/
theorem testBit_reach (hf : Follows n R f) (hbound : ∀ {i j}, R i j → j ≤ n) (rounds : Nat)
    {frontier seen : Nat} (h : Explored R frontier seen) (hwithin : Within n seen) (j : Nat) :
    (reach f rounds frontier seen).testBit j = true ↔
      ∃ i, seen.testBit i = true ∧ ∃ k ≤ rounds, Run R k i j := by
  induction rounds generalizing frontier seen with
  | zero =>
      constructor
      · intro hj
        exact ⟨j, hj, 0, Nat.le_refl 0, rfl⟩
      · rintro ⟨i, hi, k, hk, hrun⟩
        obtain rfl : k = 0 := Nat.le_zero.mp hk
        obtain rfl : i = j := hrun
        exact hi
  | succ rounds ih =>
      unfold reach
      -- when no new position turns up, further rounds add nothing
      by_cases hempty : without (f frontier) seen = 0
      · simp only [hempty, if_true]
        constructor
        · intro hj
          exact ⟨j, hj, 0, Nat.zero_le _, rfl⟩
        · rintro ⟨i, hi, k, -, hrun⟩
          exact h.run_stays hf hwithin hempty hi hrun
      · simp only [hempty, if_false]
        rw [ih (h.next hf hwithin) (h.within_next hf hwithin hbound)]
        constructor
        · rintro ⟨i, hi, k, hk, hrun⟩
          rcases (testBit_seen_or_fresh _ _ _).mp hi with hi | hi
          · exact ⟨i, hi, k, by omega, hrun⟩
          · obtain ⟨i', hi', hR⟩ := (h.testBit_follow hf hwithin i).mp hi
            exact ⟨i', h.sub i' hi', k + 1, by omega, i, hR, hrun⟩
        · rintro ⟨i, hi, k, hk, hrun⟩
          cases k with
          | zero => exact ⟨i, (testBit_seen_or_fresh _ _ _).mpr (.inl hi), 0, Nat.zero_le _, hrun⟩
          | succ k =>
              obtain ⟨m, hR, hrest⟩ := hrun
              refine ⟨m, (testBit_seen_or_fresh _ _ _).mpr ?_, k, by omega, hrest⟩
              exact h.mem_or_follow hf hwithin hi hR

end Sets

/-! ## §3. From starts to ends. -/

/-- Whether a position passes a guard: the guard looks at the symbols before and after it. -/
def gapAt (gap : γ → Option α → Option α → Bool) (text : List α) (g : γ) (i : Nat) : Bool :=
  gap g (symbolBefore none text i) text[i]?

/-- The bounds of every repetition are in order. -/
def Ordered : Pattern σ γ → Prop
  | empty => True
  | step _ => True
  | guard _ => True
  | seq p q => p.Ordered ∧ q.Ordered
  | alt p q => p.Ordered ∧ q.Ordered
  | repeated p least most => p.Ordered ∧ ∀ k, most = some k → least ≤ k

section Meaning

variable {symbol : σ → α → Bool} {guards : γ → Nat → Bool} {text : List α}

/-- A match does not go back. -/
theorem Matches.le {p : Pattern σ γ} {i j : Nat} (h : Matches symbol guards text p i j) : i ≤ j := by
  induction h with
  | empty _ => exact Nat.le_refl _
  | step _ _ => exact Nat.le_succ _
  | guard _ _ => exact Nat.le_refl _
  | seq _ _ ih₁ ih₂ => exact ih₁.trans ih₂
  | left _ ih => exact ih
  | right _ ih => exact ih
  | done _ => exact Nat.le_refl _
  | more _ _ _ ih₁ ih₂ => exact ih₁.trans ih₂

/-- A match ends in the text. -/
theorem Matches.le_length {p : Pattern σ γ} {i j : Nat} (h : Matches symbol guards text p i j) :
    j ≤ text.length := by
  induction h with
  | empty h => exact h
  | step h _ => exact (List.getElem?_eq_some_iff.mp h).1
  | guard h _ => exact h
  | seq _ _ _ ih => exact ih
  | left _ ih => exact ih
  | right _ ih => exact ih
  | done h => exact h
  | more _ _ _ _ ih => exact ih

/-- A repetition is a run of its body. -/
theorem Matches.run {p : Pattern σ γ} {least : Nat} {most : Option Nat} {i j : Nat}
    (h : Matches symbol guards text (.repeated p least most) i j) :
    ∃ k, Allowed least most k ∧ Run (Matches symbol guards text p) k i j := by
  generalize hr : Pattern.repeated p least most = r at h
  induction h generalizing least most with
  | done _ =>
      cases hr
      exact ⟨0, ⟨Nat.le_refl 0, fun _ _ => Nat.zero_le _⟩, rfl⟩
  | @more p' least' most' i m j bound once _ _ ih =>
      cases hr
      obtain ⟨k, ⟨hleast, hmost⟩, hrun⟩ := ih rfl
      refine ⟨k + 1, ⟨by omega, fun b hb => ?_⟩, m, once, hrun⟩
      subst hb
      have hk : k ≤ b - 1 := hmost (b - 1) rfl
      have hb0 : b ≠ 0 := fun h0 => bound (congrArg some h0)
      omega
  | _ => cases hr

/-- An allowed number of matches in a row is a match of the repetition. -/
theorem Matches.of_run {p : Pattern σ γ} {k : Nat} {least : Nat} {most : Option Nat} {i j : Nat}
    (hk : Allowed least most k) (hi : i ≤ text.length)
    (h : Run (Matches symbol guards text p) k i j) :
    Matches symbol guards text (.repeated p least most) i j := by
  induction k generalizing least most i with
  | zero =>
      obtain rfl : i = j := h
      obtain rfl : least = 0 := Nat.le_zero.mp hk.1
      exact .done hi
  | succ k ih =>
      obtain ⟨m, once, hrest⟩ := h
      refine .more ?_ once (ih ⟨by have := hk.1; omega, ?_⟩ once.le_length hrest)
      · intro h0
        have := hk.2 0 h0
        omega
      · intro b hb
        obtain ⟨c, hc, rfl⟩ := Option.map_eq_some_iff.mp hb
        have := hk.2 c hc
        omega

end Meaning

section Search

variable (symbol : σ → α → Bool) (gap : γ → Option α → Option α → Bool) (text : List α)

/-- One symbol moves every position in front of such a symbol one further. -/
theorem follows_step (t : σ) :
    Follows text.length (Matches symbol (gapAt gap text) text (.step t))
      (ends text.length ((Pattern.step t).locate symbol gap text)) := by
  intro s _ j
  show ((s &&& symbolsThat (symbol t) text) <<< 1).testBit j = true ↔ _
  rw [Nat.testBit_shiftLeft]
  cases j with
  | zero =>
      constructor
      · intro hj
        simp at hj
      · rintro ⟨i, -, hm⟩
        cases hm
  | succ j =>
      rw [Nat.add_sub_cancel, Nat.testBit_and, testBit_symbolsThat]
      constructor
      · intro hj
        obtain ⟨hmem, hany⟩ : s.testBit j = true ∧ text[j]?.any (symbol t) = true := by
          simpa using hj
        obtain ⟨a, ha, hok⟩ := (Option.any_eq_true _ _).mp hany
        exact ⟨j, hmem, .step ha hok⟩
      · rintro ⟨i, hi, hm⟩
        cases hm with
        | step ha hok => simp [hi, ha, hok]

/-- A repetition first makes the rounds it must, and then collects what further rounds reach. -/
theorem follows_repeated {p : Pattern σ γ} {least : Nat} {most : Option Nat}
    (h : (Pattern.repeated p least most).Ordered)
    (hp : Follows text.length (Matches symbol (gapAt gap text) text p)
      (ends text.length (p.locate symbol gap text))) :
    Follows text.length (Matches symbol (gapAt gap text) text (.repeated p least most))
      (ends text.length ((Pattern.repeated p least most).locate symbol gap text)) := by
  intro s hs j
  have hbase := follows_iterate hp Matches.le_length least
  have hwithin : Within text.length
      (iterate (ends text.length (p.locate symbol gap text)) least s) := by
    intro m hm
    obtain ⟨i, hi, hrun⟩ := (hbase s hs m).mp hm
    exact hrun.le_bound Matches.le_length (hs i hi)
  show (reach (ends text.length (p.locate symbol gap text)) (roundsAfter text.length least most)
    (iterate (ends text.length (p.locate symbol gap text)) least s)
    (iterate (ends text.length (p.locate symbol gap text)) least s)).testBit j = true ↔ _
  rw [testBit_reach hp Matches.le_length _ (.start _) hwithin]
  constructor
  · rintro ⟨m, hm, k, hk, hrest⟩
    obtain ⟨i, hi, hfirst⟩ := (hbase s hs m).mp hm
    obtain ⟨k', hk', hrun⟩ := (exists_allowed_run Matches.le Matches.le_length h.2 (hs i hi)).mpr
      ⟨m, hfirst, k, hk, hrest⟩
    exact ⟨i, hi, .of_run hk' (hs i hi) hrun⟩
  · rintro ⟨i, hi, hm⟩
    obtain ⟨m, hfirst, k, hk, hrest⟩ :=
      (exists_allowed_run Matches.le Matches.le_length h.2 (hs i hi)).mp hm.run
    exact ⟨m, (hbase s hs m).mpr ⟨i, hi, hfirst⟩, k, hk, hrest⟩

/-- **From starts to ends.** A pattern takes a set of start positions to the ends of its matches. -/
theorem follows_ends (p : Pattern σ γ) (h : p.Ordered) :
    Follows text.length (Matches symbol (gapAt gap text) text p)
      (ends text.length (p.locate symbol gap text)) := by
  induction p with
  | empty =>
      intro s hs j
      constructor
      · intro hj
        exact ⟨j, hj, .empty (hs j hj)⟩
      · rintro ⟨i, hi, hm⟩
        cases hm
        exact hi
  | step t => exact follows_step symbol gap text t
  | guard g =>
      intro s _ j
      show (s &&& gapsThat (gap g) none text).testBit j = true ↔ _
      rw [Nat.testBit_and, testBit_gapsThat, Bool.and_eq_true, Bool.and_eq_true, decide_eq_true_eq]
      constructor
      · rintro ⟨hj, hle, hok⟩
        exact ⟨j, hj, .guard hle hok⟩
      · rintro ⟨i, hi, hm⟩
        cases hm with
        | guard hle hok => exact ⟨hi, hle, hok⟩
  | seq p q ihp ihq =>
      intro s hs j
      have hp := ihp h.1
      have hq := ihq h.2
      have hmid : Within text.length (ends text.length (p.locate symbol gap text) s) :=
        hp.within Matches.le_length hs
      show (ends text.length (q.locate symbol gap text)
        (ends text.length (p.locate symbol gap text) s)).testBit j = true ↔ _
      rw [hq _ hmid]
      constructor
      · rintro ⟨m, hm, second⟩
        obtain ⟨i, hi, first⟩ := (hp s hs m).mp hm
        exact ⟨i, hi, .seq first second⟩
      · rintro ⟨i, hi, hm⟩
        cases hm with
        | seq first second => exact ⟨_, (hp s hs _).mpr ⟨i, hi, first⟩, second⟩
  | alt p q ihp ihq =>
      intro s hs j
      show (ends text.length (p.locate symbol gap text) s |||
        ends text.length (q.locate symbol gap text) s).testBit j = true ↔ _
      rw [Nat.testBit_or, Bool.or_eq_true, ihp h.1 s hs j, ihq h.2 s hs j]
      constructor
      · rintro (⟨i, hi, hm⟩ | ⟨i, hi, hm⟩)
        · exact ⟨i, hi, .left hm⟩
        · exact ⟨i, hi, .right hm⟩
      · rintro ⟨i, hi, hm⟩
        cases hm with
        | left hm => exact .inl ⟨i, hi, hm⟩
        | right hm => exact .inr ⟨i, hi, hm⟩
  | «repeated» p least most ih => exact follows_repeated symbol gap text h (ih h.1)

/-- **Matching a whole text.** The search by position sets follows the meaning of the pattern. -/
theorem matchesWhole_iff {p : Pattern σ γ} (h : p.Ordered) :
    p.matchesWhole symbol gap text = true ↔
      Matches symbol (gapAt gap text) text p 0 text.length := by
  have hone : ∀ i, (1 : Nat).testBit i = true ↔ i = 0 := by
    intro i
    rw [Nat.testBit_one_eq_true_iff_self_eq_zero]
  have hwithin : Within text.length 1 := by
    intro i hi
    rw [(hone i).mp hi]
    exact Nat.zero_le _
  unfold matchesWhole
  rw [follows_ends symbol gap text p h 1 hwithin]
  constructor
  · rintro ⟨i, hi, hm⟩
    rwa [(hone i).mp hi] at hm
  · intro hm
    exact ⟨0, (hone 0).mpr rfl, hm⟩

/-- **Searching a text.** A pattern is found when some part of the text matches it. -/
theorem found_iff {p : Pattern σ γ} (h : p.Ordered) :
    p.found symbol gap text = true ↔ ∃ i j, Matches symbol (gapAt gap text) text p i j := by
  have hwithin : Within text.length (allPositions text.length) := by
    intro i hi
    rw [testBit_allPositions] at hi
    exact of_decide_eq_true hi
  have hends := follows_ends symbol gap text p h (allPositions text.length) hwithin
  unfold found
  rw [bne_iff_ne, ne_eq]
  constructor
  · intro hne
    obtain ⟨j, hj⟩ := Nat.exists_testBit_of_ne_zero hne
    obtain ⟨i, -, hm⟩ := (hends j).mp hj
    exact ⟨i, j, hm⟩
  · rintro ⟨i, j, hm⟩ hzero
    have hi : (allPositions text.length).testBit i = true := by
      rw [testBit_allPositions]
      exact decide_eq_true (hm.le.trans hm.le_length)
    have hj := (hends j).mpr ⟨i, hi, hm⟩
    rw [hzero, Nat.zero_testBit] at hj
    cases hj

end Search

/-! ## §4. Words of a pattern without guards. -/

section Words

variable (symbol : σ → α → Bool)

/-- The language of a pattern without guards. -/
def words : Pattern σ Empty → Language α
  | empty => 1
  | step t => {w | ∃ a, symbol t a = true ∧ w = [a]}
  | guard g => nomatch g
  | seq p q => p.words * q.words
  | alt p q => p.words + q.words
  | repeated p least most => {w | ∃ k, Allowed least most k ∧ w ∈ p.words ^ k}

variable {symbol} {guards : Empty → Nat → Bool}

/-- The symbols from position `i` up to position `j`. -/
def part (text : List α) (i j : Nat) : List α := (text.take j).drop i

theorem part_self (text : List α) (i : Nat) : part text i i = [] := by
  unfold part
  rw [List.drop_eq_nil_iff, List.length_take]
  omega

/-- A part of a text is made of two. -/
theorem part_append {text : List α} {i j k : Nat} (hij : i ≤ j) (hjk : j ≤ k)
    (hj : j ≤ text.length) : part text i j ++ part text j k = part text i k := by
  have hfront : (text.take k).take j = text.take j := by
    rw [List.take_take, Nat.min_eq_left hjk]
  have hlength : i ≤ (text.take j).length := by
    rw [List.length_take]
    omega
  unfold part
  rw [← List.drop_append_of_le_length hlength, ← hfront, List.take_append_drop]

/-- A part of one place is the symbol there. -/
theorem part_succ {text : List α} {i : Nat} {a : α} (h : text[i]? = some a) :
    part text i (i + 1) = [a] := by
  obtain ⟨hi, rfl⟩ := List.getElem?_eq_some_iff.mp h
  have hlength : (text.take i).length = i := by
    rw [List.length_take]
    omega
  unfold part
  rw [List.take_succ_eq_append_getElem hi, List.drop_append_of_le_length (by omega),
    List.drop_eq_nil_of_le (by omega), List.nil_append]

/-- The part from the beginning to the end is the text. -/
theorem part_whole (text : List α) : part text 0 text.length = text := by
  unfold part
  rw [List.take_length, List.drop_zero]

/-- What is matched is a word of the pattern. -/
theorem Matches.mem_words {p : Pattern σ Empty} {text : List α} {i j : Nat}
    (h : Matches symbol guards text p i j) : part text i j ∈ p.words symbol := by
  induction p generalizing i j with
  | empty =>
      cases h
      rw [part_self]
      exact Language.nil_mem_one
  | step t =>
      cases h with
      | step ha hok => exact ⟨_, hok, part_succ ha⟩
  | guard g => cases g
  | seq p q ihp ihq =>
      cases h with
      | seq first second =>
          rw [← part_append first.le second.le first.le_length]
          exact Language.append_mem_mul (ihp first) (ihq second)
  | alt p q ihp ihq =>
      cases h with
      | left h => exact .inl (ihp h)
      | right h => exact .inr (ihq h)
  | «repeated» p least most ih =>
      obtain ⟨k, hk, hrun⟩ := h.run
      refine ⟨k, hk, ?_⟩
      -- the word of a run is the words of its rounds, one after the other
      clear hk h
      induction k generalizing i with
      | zero =>
          obtain rfl : i = j := hrun
          rw [part_self, pow_zero]
          exact Language.nil_mem_one
      | succ k ihk =>
          obtain ⟨m, once, hrest⟩ := hrun
          rw [← part_append once.le (hrest.le Matches.le) once.le_length, pow_succ']
          exact Language.append_mem_mul (ih once) (ihk hrest)

/-- A word of a pattern is matched wherever it stands. -/
theorem matches_of_mem_words {p : Pattern σ Empty} {text before w after : List α}
    (h : w ∈ p.words symbol) (htext : text = before ++ w ++ after) :
    Matches symbol guards text p before.length (before ++ w).length := by
  induction p generalizing w before after with
  | empty =>
      obtain rfl : w = [] := h
      rw [List.append_nil]
      exact .empty (by simp [htext])
  | step t =>
      obtain ⟨a, hok, rfl⟩ := h
      rw [List.length_append]
      exact .step (by simp [htext]) hok
  -- no guards occur, since the words of a pattern do not know what stands around them
  | guard g => cases g
  | seq p q ihp ihq =>
      obtain ⟨u, hu, v, hv, rfl⟩ := Language.mem_mul.mp h
      have hfirst : text = before ++ u ++ (v ++ after) := by simp [htext]
      have hsecond : text = before ++ u ++ v ++ after := by simp [htext]
      have first := ihp hu hfirst
      have second := ihq hv hsecond
      rw [← List.append_assoc]
      exact .seq first second
  | alt p q ihp ihq =>
      rcases h with h | h
      · exact .left (ihp h htext)
      · exact .right (ihq h htext)
  | «repeated» p least most ih =>
      obtain ⟨k, hk, hw⟩ := h
      refine .of_run hk (by simp [htext]) ?_
      -- round by round: each of them adds its word to the text before the others
      clear hk
      induction k generalizing w before with
      | zero =>
          rw [pow_zero] at hw
          obtain rfl : w = [] := hw
          rw [List.append_nil]
          rfl
      | succ k ihk =>
          rw [pow_succ'] at hw
          obtain ⟨u, hu, v, hv, rfl⟩ := Language.mem_mul.mp hw
          have hfirst : text = before ++ u ++ (v ++ after) := by simp [htext]
          have hsecond : text = before ++ u ++ v ++ after := by simp [htext]
          have once := ih hu hfirst
          have hrest := ihk hsecond hv
          rw [← List.append_assoc]
          exact ⟨_, once, hrest⟩

/-- **Words.** A pattern without guards matches a whole text exactly when the text is one of its
words. -/
theorem matchesWhole_iff_mem_words {gap : Empty → Option α → Option α → Bool}
    {p : Pattern σ Empty} (h : p.Ordered) (text : List α) :
    p.matchesWhole symbol gap text = true ↔ text ∈ p.words symbol := by
  rw [matchesWhole_iff symbol gap text h]
  constructor
  · intro hm
    have hmem := hm.mem_words
    rwa [part_whole] at hmem
  · intro hmem
    have htext : text = [] ++ text ++ [] := by simp
    exact matches_of_mem_words hmem htext

end Words
end Pattern
end PullTriage
