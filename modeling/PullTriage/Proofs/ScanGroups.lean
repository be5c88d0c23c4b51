import PullTriage.Proofs.BracketScan

/-!
  PullTriage.Proofs.ScanGroups: the scan, flag groups and counts.

  `Proofs.ScanEscapes` and `Proofs.BracketScan` follow the scan through escapes and classes.  Here it
  goes through the beginning of a group: behind a parenthesis and a question mark it reads flags, and it
  stops at an `i` after a minus sign exactly when the parser reads a flag group that turns `i` off.  The
  counts of a repetition are ordinary text.

  Layers:
    * §1: flags;
    * §2: groups;
    * §3: counts.
-/

namespace PullTriage.Regex

open TextPattern (Scan)
open TextPattern.Scan (Passes rejects_plain_cons rejects_ordinary rejects_cons rejects_cons_none)

/-! ## §1. Flags. -/

theorem FlagItem.turnsOff_append_singleton (items : List FlagItem) (item : FlagItem) (f : Flag) :
    FlagItem.turnsOff (items ++ [item]) f
      = (FlagItem.turnsOff items f || (decide (.minus ∈ items) && decide (item = .flag f))) := by
  unfold FlagItem.turnsOff
  rw [List.dropWhile_append]
  by_cases hminus : FlagItem.minus ∈ items
  case pos =>
    have hne : (items.dropWhile (· ≠ .minus)).isEmpty = false := by
      rw [List.isEmpty_eq_false_iff, Ne, List.dropWhile_eq_nil_iff]
      intro h
      simpa using h _ hminus
    rw [if_neg (by rw [hne]; exact Bool.false_ne_true)]
    simp [hminus, eq_comm]
  case neg =>
    have hall : items.dropWhile (· ≠ .minus) = [] := by
      rw [List.dropWhile_eq_nil_iff]
      intro x hx
      simpa using fun e : x = .minus => hminus (e ▸ hx)
    rw [hall]
    cases item <;> simp [hminus]

/-- One item of a flag group: the scan fails at an `i` after a minus sign. -/
theorem step?_flags {c : Char} {item : FlagItem}
    (h : (if c = '-' then some .minus else (Flag.ofChar? c).map .flag) = some item) (minus : Bool) :
    (Scan.flags minus).step? c
      = if minus && decide (item = .flag .ignoreCase) then none
        else some (.flags (minus || decide (item = .minus))) := by
  by_cases hc : c = '-'
  case pos =>
    subst hc
    obtain rfl : FlagItem.minus = item := Option.some.inj h
    cases minus <;> rfl
  case neg =>
    rw [if_neg hc] at h
    obtain ⟨f, hf, rfl⟩ := Option.map_eq_some_iff.mp h
    unfold Flag.ofChar? at hf
    split at hf
    case h_8 => cases hf
    all_goals
      obtain rfl := Option.some.inj hf
      cases minus <;> rfl

/-- Whether the scan finds the flag `i` turned off, and whether it is, given the items read before. -/
theorem flagItems?_scan {items out : List FlagItem} {cs rest : List Char}
    (h : flagItems? items cs = some (out, rest)) :
    ∃ c tail, rest = c :: tail ∧ (c = ':' ∨ c = ')') ∧
      (FlagItem.turnsOff items.reverse .ignoreCase ||
          (Scan.flags (decide (.minus ∈ items))).rejects cs)
        = (FlagItem.turnsOff out .ignoreCase || (Scan.plain 0).rejects tail) := by
  induction cs generalizing items with
  | nil => cases h
  | cons c cs ih =>
      unfold flagItems? at h
      split at h
      -- a colon or a parenthesis ends the flags
      case isTrue hend =>
        split at h
        case isTrue => cases h
        case isFalse =>
          obtain ⟨rfl, rfl⟩ := Prod.mk.inj (Option.some.inj h)
          refine ⟨c, cs, rfl, hend, ?_⟩
          have hstep : ∀ minus, (Scan.flags minus).step? c = some (.plain 0) := by
            intro minus
            rcases hend with rfl | rfl <;> rfl
          rw [rejects_cons (hstep _)]
      case isFalse =>
        obtain ⟨item, hitem, h⟩ := Option.bind_eq_some_iff.mp h
        split at h
        case isTrue => cases h
        case isFalse hnew =>
          obtain ⟨c', tail, hrest, hend, hscan⟩ := ih h
          refine ⟨c', tail, hrest, hend, ?_⟩
          rw [← hscan, List.reverse_cons, FlagItem.turnsOff_append_singleton]
          -- the scan only knows whether there was a minus sign, and that decides about the next flag
          have hstep := step?_flags hitem (decide (.minus ∈ items))
          by_cases hoff : (decide (.minus ∈ items) && decide (item = .flag .ignoreCase)) = true
          case pos =>
            rw [if_pos hoff] at hstep
            rw [rejects_cons_none hstep]
            simp only [Bool.and_eq_true, decide_eq_true_eq] at hoff
            simp [hoff]
          case neg =>
            rw [if_neg hoff] at hstep
            rw [rejects_cons hstep]
            have hminus : (decide (FlagItem.minus ∈ items) || decide (item = .minus))
                = decide (.minus ∈ item :: items) := by
              simp [List.mem_cons, eq_comm, Bool.or_comm]
            have hoff' : (decide (FlagItem.minus ∈ items.reverse) && decide (item = .flag .ignoreCase))
                = false := by simpa using hoff
            rw [hminus, hoff', Bool.or_false]

/-- Behind a minus sign no flag is turned on. -/
theorem FlagItem.go_false_ne_some_true (items : List FlagItem) (f : Flag) :
    FlagItem.state.go f false items ≠ some true := by
  induction items with
  | nil => exact nofun
  | cons item rest ih =>
      cases item with
      | minus => exact ih
      | flag g =>
          unfold FlagItem.state.go
          split
          · exact nofun
          · exact ih

/-- A flag that no item before the minus sign names is not turned on. -/
theorem FlagItem.state_ne_some_true {items : List FlagItem} {f : Flag}
    (h : FlagItem.turnsOn items f = false) : FlagItem.state items f ≠ some true := by
  show FlagItem.state.go f true items ≠ some true
  unfold FlagItem.turnsOn at h
  induction items with
  | nil => exact nofun
  | cons item rest ih =>
      cases item with
      | minus => exact FlagItem.go_false_ne_some_true rest f
      | flag g =>
          simp only [List.takeWhile_cons, ne_eq, reduceCtorEq, not_false_eq_true, decide_true,
            if_true, List.mem_cons, FlagItem.flag.injEq, decide_eq_false_iff_not, not_or] at h
          unfold FlagItem.state.go
          rw [if_neg fun e => h.1 e.symm]
          exact ih (by simpa using h.2)

/-! ## §2. Groups. -/

/-- A character of a group name is neither a backslash nor a parenthesis. -/
theorem isNameChar_spec {first : Bool} {c : Char} (h : isNameChar first c = true) :
    c ≠ '\\' ∧ c ≠ '(' := by
  constructor
  · rintro rfl
    revert h
    cases first <;> decide +kernel
  · rintro rfl
    revert h
    cases first <;> decide +kernel

/-- How a group name and the angle behind it are written. -/
theorem groupName?_text {name : String} {cs rest : List Char} (h : groupName? cs = some (name, rest)) :
    cs = (name.toList ++ ['>']) ++ rest ∧ ∀ c ∈ name.toList ++ ['>'], c ≠ '\\' ∧ c ≠ '(' := by
  unfold groupName? at h
  dsimp only at h
  split at h
  case h_2 => cases h
  case h_1 first others rest' htake hdrop =>
    split at h
    case isFalse => cases h
    case isTrue hchars =>
      obtain ⟨rfl, rfl⟩ := Prod.mk.inj (Option.some.inj h)
      rw [Bool.and_eq_true, List.all_eq_true] at hchars
      rw [String.toList_ofList]
      constructor
      case left =>
        conv => lhs; rw [← List.takeWhile_append_dropWhile (p := (· != '>')) (l := cs), hdrop]
        rw [List.append_assoc]
        rfl
      case right =>
        rw [htake, List.forall_mem_append, List.forall_mem_cons]
        refine ⟨⟨isNameChar_spec hchars.1, fun c hc => isNameChar_spec (hchars.2 c hc)⟩, ?_⟩
        exact List.forall_mem_singleton.mpr (by decide)

/-- A group name without a bare bracket is passed over. -/
theorem groupName?_scan {name : String} {cs rest : List Char} (h : groupName? cs = some (name, rest))
    (hname : '[' ∉ name.toList) : (Scan.plain 0).rejects cs = (Scan.plain 0).rejects rest := by
  obtain ⟨rfl, htext⟩ := groupName?_text h
  -- the name and the angle behind it leave the scan outside of everything
  refine Scan.rejects_flat (fun c hc => ⟨(htext c hc).1, ?_, (htext c hc).2⟩) rest
  rcases List.mem_append.mp hc with hc | hc
  · exact fun e => hname (e ▸ hc)
  · rw [List.mem_singleton.mp hc]
    decide

/-- The name or the flags behind an opening parenthesis. -/
def Opening.marks : Opening → List Mark
  | .group kind => kind.marks
  | .setFlags items => [.flags items]

/-- Up to the name of a group the scan is outside of everything. -/
theorem namedOpening_scan {o : Opening} {cs rest : List Char}
    (h : (groupName? cs).map (fun (name, rest) => (Opening.group (.named name), rest))
      = some (o, rest))
    (ho : ∀ x ∈ o.marks, x.Plain) :
    (Scan.plain 0).rejects cs = (o.marks.any Mark.restoresCase || (Scan.plain 0).rejects rest) := by
  obtain ⟨⟨name, rest'⟩, hname, heq⟩ := Option.map_eq_some_iff.mp h
  obtain ⟨rfl, rfl⟩ := Prod.mk.inj heq
  rw [groupName?_scan hname (ho _ List.mem_cons_self)]
  rfl

/-- At an opening with flags the scan refuses what those flags refuse, and goes on behind them in every
other case. -/
theorem flagOpening_scan {items : List FlagItem} {c : Char} {cs tail : List Char}
    (h : flagItems? [] cs = some (items, c :: tail)) :
    Scan.parenthesis.rejects ('?' :: cs)
      = ([Mark.flags items].any Mark.restoresCase || (Scan.plain 0).rejects tail) := by
  obtain ⟨c', tail', hrest, -, hscan⟩ := flagItems?_scan h
  obtain ⟨rfl, rfl⟩ := List.cons.inj hrest
  show (Scan.flags false).rejects cs = _
  simpa [Mark.restoresCase, FlagItem.turnsOff] using hscan

/-- Only a question mark means something behind a parenthesis. -/
theorem rejects_parenthesis_of_head {cs : List Char} (h : cs.head? ≠ some '?') :
    Scan.parenthesis.rejects cs = (Scan.plain 0).rejects cs := by
  cases cs with
  | nil => rfl
  | cons c tail =>
      have hc : c ≠ '?' := fun e => h (congrArg some e)
      have hstep : Scan.parenthesis.step? c = some (.next 0 c) := by
        show some _ = some _
        rw [if_neg hc]
      rw [rejects_cons hstep, rejects_plain_cons]

/-- **Behind an opening parenthesis the scan fails exactly at a flag group that turns `i` off.** -/
theorem opening?_scan {o : Opening} {cs rest : List Char} (h : opening? false cs = some (o, rest))
    (ho : ∀ x ∈ o.marks, x.Plain) :
    Scan.parenthesis.rejects cs
      = (o.marks.any Mark.restoresCase || (Scan.plain 0).rejects rest) := by
  unfold opening? at h
  rw [skip_false] at h
  split at h
  case h_1 cs =>
    show (Scan.plain 0).rejects cs = _
    exact namedOpening_scan h ho
  case h_2 cs =>
    split at h
    case isTrue => cases h
    case isFalse =>
      show (Scan.plain 0).rejects cs = _
      exact namedOpening_scan h ho
  case h_3 cs _ _ =>
    split at h
    case isTrue => cases h
    case isFalse =>
      -- the flags end in a parenthesis or in a colon, which the scan does not tell apart
      split at h
      case h_1 => cases h
      case h_2 items tail _ hitems =>
        obtain ⟨rfl, rfl⟩ := Prod.mk.inj (Option.some.inj h)
        exact flagOpening_scan hitems
      case h_3 items c tail _ hitems =>
        obtain ⟨rfl, rfl⟩ := Prod.mk.inj (Option.some.inj h)
        exact flagOpening_scan hitems
      case h_4 => cases h
  case h_4 hquestion =>
    -- a group that captures: the next character is read as it stands
    obtain ⟨rfl, rfl⟩ := Prod.mk.inj (Option.some.inj h)
    exact rejects_parenthesis_of_head (head?_ne_some hquestion)

/-! ## §3. Counts. -/

section Counts

variable {v : Bool} {cs rest : List Char}

/-- What a count goes up to, from the character behind the comma to the brace that ends the count; `none`
inside means that it goes on for ever. -/
def limit? (v : Bool) : List Char → Option (Option Nat × List Char)
  | '\x7d' :: rest => some (none, '\x7d' :: rest)
  | cs => (decimal? v cs).map fun x => (some x.1, x.2)

/-- What a count goes up to, from the character behind the first number. -/
def countMost? (v : Bool) (least : Nat) : List Char → Option (Option Nat × List Char)
  | ',' :: rest => limit? v (skip v rest)
  | cs => some (some least, cs)

/-- The bounds of a count, at the brace that ends it. -/
def bounds? (least : Nat) (most : Option Nat) : List Char → Option ((Nat × Option Nat) × List Char)
  | '\x7d' :: rest => if most.all (least ≤ ·) then some ((least, most), rest) else none
  | _ => none

/-- The bounds of a count, from the character behind the first number. -/
def countFrom? (v : Bool) (least : Nat) (cs : List Char) : Option ((Nat × Option Nat) × List Char) :=
  (countMost? v least cs).bind fun x => bounds? least x.1 x.2

/-- The bounds of a count, from the character behind its brace to the one behind the brace that ends
it. -/
def count? (v : Bool) (cs : List Char) : Option ((Nat × Option Nat) × List Char) :=
  (decimal? v cs).bind fun x => countFrom? v x.1 x.2

theorem countMost?_exact (least : Nat) {cs : List Char} (h : cs.head? ≠ some ',') :
    countMost? v least cs = some (some least, cs) := by
  unfold countMost?
  split
  case h_1 => exact absurd rfl h
  case h_2 => rfl

/-- Where no brace follows the comma, the upper limit does. -/
theorem limit?_number {cs : List Char} (h : cs.head? ≠ some '\x7d') :
    limit? v cs = (decimal? v cs).map fun x => (some x.1, x.2) := by
  unfold limit?
  split
  case h_1 => exact absurd rfl h
  case h_2 => rfl

/-- A count is read, and then repeats what stands before it. -/
theorem counted?_eq (s : ParserState) (cs : List Char) :
    s.counted? cs = (count? s.verbose (skip s.verbose cs)).bind fun x =>
      s.repeatLast? x.1.1 x.1.2 (ParserState.dropLazy (skip s.verbose x.2)) := by
  -- the parser looks for the brace in three places, and does the same there each time
  have hend : ∀ (least : Nat) (most : Option Nat) (after : List Char),
      (match after with
        | '\x7d' :: rest =>
          if most.all (least ≤ ·) then
            s.repeatLast? least most (ParserState.dropLazy (skip s.verbose rest))
          else none
        | _ => none) =
      (bounds? least most after).bind fun x =>
        s.repeatLast? x.1.1 x.1.2 (ParserState.dropLazy (skip s.verbose x.2)) := by
    intro least most after
    unfold bounds?
    split
    case h_1 => split <;> rfl
    case h_2 => rfl
  unfold ParserState.counted? count?
  simp only [Option.bind_eq_bind]
  cases decimal? s.verbose (skip s.verbose cs) with
  | none => rfl
  | some x =>
      obtain ⟨least, after⟩ := x
      simp only [Option.bind_some, countFrom?]
      split
      case h_1 rest =>
        show _ = ((limit? s.verbose (skip s.verbose rest)).bind _).bind _
        split
        case h_1 rest' heq =>
          rw [heq]
          exact hend least none ('\x7d' :: rest')
        case h_2 hbrace =>
          rw [limit?_number (head?_ne_some hbrace)]
          cases decimal? s.verbose (skip s.verbose rest) with
          | none => rfl
          | some y => exact hend least (some y.1) y.2
      case h_2 hcomma =>
        rw [countMost?_exact least (head?_ne_some hcomma)]
        exact hend least (some least) after

/-- The scan passes over the upper limit of a count. -/
theorem limit?_passes {most : Option Nat} (hq : QuietIf v cs) (h : limit? v cs = some (most, rest)) :
    Passes cs rest := by
  unfold limit? at h
  split at h
  case h_1 =>
    obtain ⟨-, rfl⟩ := Prod.mk.inj (Option.some.inj h)
    exact .refl _
  case h_2 =>
    obtain ⟨⟨n, after⟩, hdecimal, heq⟩ := Option.map_eq_some_iff.mp h
    obtain ⟨-, rfl⟩ := Prod.mk.inj heq
    exact decimal?_passes hq hdecimal

theorem countMost?_passes {least : Nat} {most : Option Nat} (hq : QuietIf v cs)
    (h : countMost? v least cs = some (most, rest)) : Passes cs rest := by
  unfold countMost? at h
  split at h
  case h_1 after =>
    have hq' := hq.tail (by decide)
    have hskip := skip_passes hq'
    exact (hskip.trans (limit?_passes (hq'.passes hskip) h)).cons (by decide)
  case h_2 =>
    obtain ⟨-, rfl⟩ := Prod.mk.inj (Option.some.inj h)
    exact .refl _

theorem bounds?_passes {least : Nat} {most : Option Nat} {bounds : Nat × Option Nat}
    (h : bounds? least most cs = some (bounds, rest)) : Passes cs rest := by
  unfold bounds? at h
  split at h
  case h_2 => cases h
  case h_1 =>
    split at h
    case isFalse => cases h
    case isTrue =>
      obtain ⟨-, rfl⟩ := Prod.mk.inj (Option.some.inj h)
      exact (Passes.refl _).cons (by decide)

/-- The scan passes over the bounds of a count as a whole, up to the brace that ends it. -/
theorem count?_passes {bounds : Nat × Option Nat} (hq : QuietIf v cs)
    (h : count? v cs = some (bounds, rest)) : Passes cs rest := by
  obtain ⟨⟨least, after⟩, hleast, h⟩ := Option.bind_eq_some_iff.mp h
  obtain ⟨⟨most, after'⟩, hmost, h⟩ := Option.bind_eq_some_iff.mp h
  have hfront := decimal?_passes hq hleast
  exact (hfront.trans (countMost?_passes (hq.passes hfront) hmost)).trans (bounds?_passes h)

end Counts

end PullTriage.Regex
