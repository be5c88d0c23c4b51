import PullTriage.Proofs.HarmlessClasses
import PullTriage.Proofs.MarkerMeaning

/-!
  PullTriage.Proofs.HarmlessFlags: what is no flag group is not taken for one.

  A pattern that the engine accepts, and in which no flag group turns `i` off, is not refused by the
  search for such groups.  The parser reads it piece by piece, and the scan follows:

        (plain 0) rejects in front of a piece   →   the piece turns `i` off, or
                                                    (plain 0) rejects behind it

  Only what a verbose pattern skips can lead it astray.  So the pattern must be one that never becomes
  verbose, or its text must be quiet (`quiet`); where a comment reads like a flag group it is taken for
  one.

  Main statement: `TextPatterns.isOk_ofStrings_of_keepsCase`.
-/

namespace PullTriage
namespace Regex

open TextPattern (Scan)
open TextPattern.Scan (Passes Deeper Groupless)

/-! ## §1. Groups. -/

section Groups

variable {v : Bool} {cs rest : List Char}

theorem isOrdinary_of_ofChar {c : Char} {f : Flag} (h : Flag.ofChar? c = some f) :
    isOrdinary c = true :=
  isOrdinary_of_test (fun c => (Flag.ofChar? c).isSome) (by decide)
    (Option.isSome_iff_exists.mpr ⟨f, h⟩)

/-- Flags are ordinary text. -/
theorem flagItems?_passes {items out : List FlagItem} (h : flagItems? items cs = some (out, rest)) :
    Passes cs rest := by
  induction cs generalizing items with
  | nil => cases h
  | cons c cs ih =>
    unfold flagItems? at h
    split at h
    case isTrue =>
      split at h
      case isTrue => cases h
      case isFalse =>
        obtain ⟨-, rfl⟩ := Prod.mk.inj (Option.some.inj h)
        exact .refl _
    case isFalse =>
      obtain ⟨item, hitem, h⟩ := Option.bind_eq_some_iff.mp h
      split at h
      case isTrue => cases h
      case isFalse =>
        -- every item is a minus sign or the letter of a flag
        refine (ih h).cons ?_
        by_cases hminus : c = '-'
        · rw [hminus]
          decide
        · rw [if_neg hminus] at hitem
          obtain ⟨f, hf, -⟩ := Option.map_eq_some_iff.mp hitem
          exact isOrdinary_of_ofChar hf

/-- What flags begin ends in the character behind them, and is made of them. -/
theorem flagOpening?_marks {items : List FlagItem} {o : Opening} {tail : List Char}
    (h : flagOpening? (items, tail) = some (o, rest)) : o.marks = [.flags items] := by
  unfold flagOpening? at h
  split at h
  case h_1 => cases h
  case h_4 => cases h
  all_goals
    rename_i heq
    obtain ⟨rfl, rfl⟩ := Prod.mk.inj heq
    obtain ⟨rfl, -⟩ := Prod.mk.inj (Option.some.inj h)
    rfl

/-- What the scan rejects behind a parenthesis it rejects without the blanks there, too. -/
theorem rejects_skip (hq : QuietIf v cs) (hr : Scan.parenthesis.rejects cs = true) :
    Scan.parenthesis.rejects (skip v cs) = true := by
  by_cases hquestion : cs.head? = some '?'
  case pos =>
    obtain ⟨tail, rfl⟩ := List.head?_eq_some_iff.mp hquestion
    have hskip : skip v ('?' :: tail) = '?' :: tail := by cases v <;> rfl
    rw [hskip]
    exact hr
  case neg =>
    -- blanks keep the scan from seeing a question mark, so it only finds more without them
    rw [rejects_parenthesis_of_head hquestion, (skip_passes hq).rejects] at hr
    exact (Deeper.parenthesis 0).rejects hr

/-- **What the scan rejects behind an opening parenthesis is a flag group, or stands behind what the
parenthesis begins.** -/
theorem opening?_rejects {o : Opening} (hq : QuietIf v cs) (h : opening? v cs = some (o, rest))
    (hr : Scan.parenthesis.rejects cs = true) :
    (∃ x ∈ o.marks, x.restoresCase = true) ∨ (Scan.plain 0).rejects rest = true := by
  replace hr := rejects_skip hq hr
  replace h : opening? false (skip v cs) = some (o, rest) := h
  -- a name may hold brackets, but nothing in it begins a group
  have hname : ∀ {name after}, groupName? after = some (name, rest) →
      (Scan.plain 0).rejects after = true → (Scan.plain 0).rejects rest = true := by
    intro name after hname hr
    obtain ⟨rfl, htext⟩ := groupName?_text hname
    exact (Groupless.plain 0).rejects htext hr
  rcases opening?_cases h with ⟨hquestion, rfl, rfl⟩ | ⟨name, after, hcs, hread, rfl⟩ |
    ⟨name, c, after, hcs, -, hread, rfl⟩ | ⟨c, after, items, tail, hcs, hitems, hopening⟩
  · rw [rejects_parenthesis_of_head hquestion] at hr
    exact .inr hr
  · rw [hcs] at hr
    exact .inr (hname hread hr)
  · rw [hcs] at hr
    exact .inr (hname hread hr)
  · obtain ⟨d, rfl, -⟩ := flagOpening?_stable hopening
    rw [hcs, flagOpening_scan hitems, ← flagOpening?_marks hopening, Bool.or_eq_true,
      List.any_eq_true] at hr
    exact hr

/-- Behind the opening of a group a pattern stays quiet. -/
theorem opening?_quiet {o : Opening} (hq : quiet cs = true) (h : opening? v cs = some (o, rest)) :
    quiet rest = true := by
  have hskip : quiet (skip v cs) = true := quiet_of_passes (skip_passes fun _ => hq) hq
  replace h : opening? false (skip v cs) = some (o, rest) := h
  -- a name holds nothing that could stop being quiet, and neither do flags
  have hname : ∀ {name after}, groupName? after = some (name, rest) → quiet after = true →
      quiet rest = true := by
    intro name after hname hquiet
    obtain ⟨rfl, htext⟩ := groupName?_text hname
    exact quiet_of_append (fun c hc => (htext c hc).1) hquiet
  rcases opening?_cases h with ⟨-, -, rfl⟩ | ⟨name, after, hcs, hread, -⟩ |
    ⟨name, c, after, hcs, -, hread, -⟩ | ⟨c, after, items, tail, hcs, hitems, hopening⟩
  · exact hskip
  · rw [hcs] at hskip
    exact hname hread (quiet_tail (quiet_tail (quiet_tail hskip (by decide)) (by decide)) (by decide))
  · rw [hcs] at hskip
    exact hname hread (quiet_tail (quiet_tail hskip (by decide)) (by decide))
  · obtain ⟨d, rfl, -⟩ := flagOpening?_stable hopening
    obtain ⟨d', tail', hrest, hend, -⟩ := flagItems?_scan hitems
    obtain ⟨rfl, rfl⟩ := List.cons.inj hrest
    rw [hcs] at hskip
    have hflags := quiet_of_passes (flagItems?_passes hitems) (quiet_tail hskip (by decide))
    refine quiet_tail hflags ?_
    rcases hend with rfl | rfl <;> decide

end Groups

/-! ## §2. Single pieces. -/

section Pieces

variable {v : Bool} {cs rest : List Char}

/-- A piece is harmless outside of all brackets. -/
theorem primitive?_harmless {p : Primitive} (hq : QuietIf v cs)
    (h : primitive? v cs = some (p, rest)) (hp : p.Exists) (hopen : cs.head? ≠ some '[')
    (hparenthesis : cs.head? ≠ some '(') : Harmless 0 cs 0 rest := by
  unfold primitive? at h
  split at h
  case h_1 => cases h
  case h_2 => exact escape?_harmless hq h hp 0
  case h_6 c tail hescape _ _ _ =>
    obtain ⟨-, rfl⟩ := Prod.mk.inj (Option.some.inj h)
    have hbackslash : c ≠ '\\' := by
      rintro rfl
      exact hescape rfl
    refine ⟨fun hquiet => quiet_tail hquiet hbackslash, fun hr => ?_⟩
    rwa [TextPattern.Scan.rejects_plain_cons, Scan.next_eq_plain hbackslash
      (fun e => hopen (congrArg some e)) (.inr rfl) (.inl fun e => hparenthesis (congrArg some e))] at hr
  all_goals
    obtain ⟨-, rfl⟩ := Prod.mk.inj (Option.some.inj h)
    exact .of_passes ((Passes.refl _).cons (by decide)) 0

end Pieces

/-! ## §3. Pieces. -/

namespace ParserState

/-- What is read between two states is no surprise: the text stays quiet, and what the scan rejects in
front is a flag group that has been read, or stands behind. -/
structure Spares (s s' : ParserState) : Prop where
  quiet : quiet s.rest = true → quiet s'.rest = true
  scan : (Scan.plain 0).rejects s.rest = true →
    (∃ x ∈ s'.marks, x.restoresCase = true) ∨ (Scan.plain 0).rejects s'.rest = true

/-- Harmless text spares what has been read. -/
theorem Spares.of_harmless {s s' : ParserState} (h : Harmless 0 s.rest 0 s'.rest) : s.Spares s' where
  quiet := h.quiet
  scan := fun hr => .inr (h.scan hr)

variable {s s' : ParserState} {cs : List Char}

/-- The flags or the name of a group that has been opened are parts of what has been read. -/
theorem enter?_marks {o : Opening} {rest : List Char} (h : s.enter? o rest = some s') :
    ∀ x ∈ o.marks, x ∈ s'.marks := by
  intro x hx
  match o with
  | .setFlags items =>
    obtain rfl := Option.some.inj h
    exact List.mem_append_left _ (List.mem_append_right _ (List.mem_append_left _ hx))
  | .group .capture => cases hx
  | .group (.flags items) =>
    obtain rfl := Option.some.inj h
    exact List.mem_append_right _ (List.mem_append_left _ (List.mem_append_left _ hx))
  | .group (.named name) =>
    unfold enter? at h
    dsimp only at h
    split at h
    case isTrue => cases h
    case isFalse =>
      obtain rfl := Option.some.inj h
      exact List.mem_append_right _ (List.mem_append_left _ (List.mem_append_left _ hx))

/-- **Opening a group spares what has been read.** -/
theorem openGroup?_spares (h : s.openGroup? cs = some s') (hrest : s.rest = '(' :: cs)
    (hq : QuietIf s.verbose s.rest) : s.Spares s' := by
  rw [openGroup?_eq] at h
  obtain ⟨⟨o, rest⟩, hopening, henter⟩ := Option.bind_eq_some_iff.mp h
  have hafter : s'.rest = rest := (enter?_places s o rest s' henter).1
  rw [hrest] at hq
  constructor
  case quiet =>
    intro hquiet
    rw [hrest] at hquiet
    rw [hafter]
    exact opening?_quiet (quiet_tail hquiet (by decide)) hopening
  case scan =>
    intro hr
    rw [hrest, rejects_parenthesis] at hr
    rw [hafter]
    refine (opening?_rejects (hq.tail (by decide)) hopening hr).imp_left ?_
    rintro ⟨x, hx, hrestores⟩
    exact ⟨x, enter?_marks henter x hx, hrestores⟩

/-- So does an operator. -/
theorem operator_spares {c : Char} {least : Nat} {most : Option Nat}
    (h : s.repeatLast? least most (dropLazy cs) = some s') (hrest : s.rest = c :: cs)
    (hc : isOrdinary c = true) : s.Spares s' := by
  refine .of_harmless ?_
  rw [hrest, (s.repeatLast?_places least most _ s' h).1]
  exact .of_passes ((dropLazy_passes cs).cons hc) 0

/-- So does a count. -/
theorem counted?_spares (h : s.counted? cs = some s') (hrest : s.rest = '\x7b' :: cs)
    (hq : QuietIf s.verbose s.rest) : s.Spares s' := by
  rw [counted?_eq] at h
  obtain ⟨⟨bounds, after⟩, hcount, hrepeat⟩ := Option.bind_eq_some_iff.mp h
  refine .of_harmless ?_
  rw [hrest] at hq
  rw [hrest, (s.repeatLast?_places bounds.1 bounds.2 _ s' hrepeat).1]
  have hq' := hq.tail (by decide)
  have hskip := skip_passes hq'
  have hread := hskip.trans (count?_passes (hq'.passes hskip) hcount)
  have hend := (skip_passes (hq'.passes hread)).trans (dropLazy_passes _)
  exact .of_passes ((hread.trans hend).cons (by decide)) 0

theorem marks_push (a : Ast) (rest : List Char) : ∀ x ∈ a.marks, x ∈ (s.push a rest).marks :=
  fun _ hx => List.mem_append_left _ (List.mem_append_right _ (List.mem_append_left _ hx))

/-- **A piece is read as it is: only a flag group that turns `i` off makes the scan fail.** -/
theorem piece?_spares {c : Char} (h : s.piece? c cs = some s') (hrest : s.rest = c :: cs)
    (hq : QuietIf s.verbose s.rest) (hexists : ∀ x ∈ s'.marks, x.Exists) : s.Spares s' := by
  -- a piece of one character, such as a closing parenthesis or a bar
  have hone : isOrdinary c = true → s'.rest = cs → s.Spares s' := by
    intro hc hafter
    refine .of_harmless ?_
    rw [hrest, hafter]
    exact .of_passes ((Passes.refl cs).cons hc) 0
  unfold piece? at h
  split at h
  case h_1 => exact openGroup?_spares h hrest hq
  case h_2 => exact hone (by decide) (s.closeGroup?_places cs s' h).1
  case h_3 =>
    obtain rfl := Option.some.inj h
    exact hone (by decide) rfl
  case h_4 =>
    obtain ⟨⟨⟨negated, set⟩, rest⟩, hset, rfl⟩ := Option.map_eq_some_iff.mp h
    rw [hrest] at hq
    refine .of_harmless ?_
    rw [hrest]
    exact bracketed?_harmless hset (fun x hx => hexists x (marks_push (.bracketed negated set) rest x hx)) hq
  case h_5 => exact operator_spares h hrest (by decide)
  case h_6 => exact operator_spares h hrest (by decide)
  case h_7 => exact operator_spares h hrest (by decide)
  case h_8 => exact counted?_spares h hrest hq
  case h_9 hparenthesis _ _ hopen _ _ _ _ =>
    obtain ⟨⟨p, rest⟩, hp, rfl⟩ := Option.map_eq_some_iff.mp h
    rw [hrest] at hq
    refine .of_harmless ?_
    rw [hrest]
    refine primitive?_harmless hq hp ?_ (fun e => hopen (Option.some.inj e))
      (fun e => hparenthesis (Option.some.inj e))
    cases p with
    | property negated q => exact hexists _ (marks_push _ rest _ List.mem_cons_self)
    | _ => trivial

/-! ## §4. Whole patterns. -/

/-- Nothing that is skipped can surprise: the text that is left is quiet, or nothing in it is verbose,
neither now nor by one of the parts `marks`. -/
def Calm (marks : List Mark) (s : ParserState) : Prop :=
  quiet s.rest = true ∨ s.Nonverbose ∧ ∀ x ∈ marks, x.KeepsLayout

/-- A pattern that is calm is quiet where it is verbose. -/
theorem Calm.quietIf {marks : List Mark} (h : s.Calm marks) : QuietIf s.verbose s.rest := by
  rcases h with hquiet | ⟨hverbose, -⟩
  · exact fun _ => hquiet
  · rw [hverbose.1]
    exact .of_false _

/-- **In a run over a calm text the scan fails only if a flag group is read that turns `i` off.** -/
theorem loop?_rejects {fuel : Nat} (h : loop? fuel s = some s') (hcalm : s.Calm s'.marks)
    (hexists : ∀ x ∈ s'.marks, x.Exists) (hr : (Scan.plain 0).rejects s.rest = true) :
    ∃ x ∈ s'.marks, x.restoresCase = true := by
  induction fuel generalizing s with
  | zero => cases h
  | succ fuel ih =>
    unfold loop? at h
    have hskip := skip_passes hcalm.quietIf
    rw [hskip.rejects] at hr
    split at h
    case h_1 hnil =>
      rw [hnil] at hr
      cases hr
    case h_2 c cs hcons =>
      obtain ⟨s₁, hpiece, hrun⟩ := Option.bind_eq_some_iff.mp h
      rw [hcons] at hr hskip
      rw [← piece?_rest s c cs (c :: cs)] at hpiece
      obtain ⟨new, hnew⟩ := piece?_reads hpiece rfl
      obtain ⟨new', hrest, -⟩ := loop?_reads hrun
      have hmarks : ∀ x ∈ s₁.marks, x ∈ s'.marks := fun x hx => (hrest.marks x).mpr (.inr hx)
      have hspares := piece?_spares hpiece rfl (hcalm.quietIf.passes hskip)
        fun x hx => hexists x (hmarks x hx)
      -- either the piece is the flag group, or the rest of the run is as calm and is rejected as well
      rcases hspares.scan hr with ⟨x, hx, hrestores⟩ | hr'
      · exact ⟨x, hmarks x hx, hrestores⟩
      · refine ih hrun ?_ hr'
        rcases hcalm with hquiet | ⟨hverbose, hlayout⟩
        · exact .inl (hspares.quiet (quiet_of_passes hskip hquiet))
        · refine .inr ⟨hnew.nonverbose hverbose fun x hx => hlayout x (hmarks x ?_), hlayout⟩
          exact (hnew.marks x).mpr (.inl hx)

end ParserState

end Regex

/-! ## §5. Patterns of a rule. -/

namespace TextPattern

open Regex

/-- In a pattern whose parts exist and do not turn `i` off, the search for flag groups finds none. -/
theorem restoresCase_of_calm {written : String} {a : Ast} (ha : Ast.parse? written = some a)
    (hexists : ∀ x ∈ a.marks, x.Exists) (hcase : a.restoresCase = false)
    (hcalm : quiet written.toList = true ∨ ∀ x ∈ a.marks, x.KeepsLayout) :
    restoresCase written.toList = false := by
  obtain ⟨s, hrun, hgroups, rfl, -⟩ := parse?_eq_some_iff.mp ha
  -- no group is open at the end, so the tree holds everything that was read
  have hmem : ∀ x, x ∈ s.marks ↔ x ∈ s.level.close.marks := by
    intro x
    rw [ParserState.mem_marks_close, ParserState.marks, hgroups, List.flatMap_nil, List.append_nil]
  have hstart : (ParserState.start written.toList).Calm s.marks := by
    refine hcalm.imp_right fun hlayout => ⟨⟨rfl, fun _ h => absurd h List.not_mem_nil⟩, ?_⟩
    exact fun x hx => hlayout x ((hmem x).mp hx)
  rw [Bool.eq_false_iff]
  intro hr
  obtain ⟨x, hx, hrestores⟩ :=
    ParserState.loop?_rejects hrun hstart (fun x hx => hexists x ((hmem x).mp hx)) hr
  have hfound : s.level.close.restoresCase = true :=
    List.any_eq_true.mpr ⟨x, (hmem x).mp hx, hrestores⟩
  rw [hfound] at hcase
  cases hcase

end TextPattern

namespace TextPatterns

open Regex TextPattern

/-- **A pattern that the engine accepts, without a marker and without a flag group that turns `i` off, is
accepted**, whatever stands in its escapes, its classes and the names of its groups.  If a flag group
makes it verbose, its text has to be quiet: no brackets, backslashes and opening parentheses in comments,
and no closing bracket in a class that is a member only because of what is skipped. -/
theorem isOk_ofStrings_of_keepsCase {written : String} {r : Regex} {a : Ast}
    (hsize : written.utf8ByteSize ≤ 4096) (hmarker : ¬markerText <:+: written.toList)
    (hr : Regex.ofString written = .ok r) (ha : Ast.parse? written = some a)
    (hcase : a.restoresCase = false)
    (hcalm : quiet written.toList = true ∨ ∀ x ∈ a.marks, x.KeepsLayout) :
    (ofStrings [written]).isOk = true := by
  have hstrip : stripMarkers written.toList = written.toList := stripMarkers_eq_self hmarker
  obtain ⟨a', m, -, -, ha', hmeaning, -⟩ := ofString_eq_ok_iff.mp hr
  obtain rfl := Option.some.inj (ha.symm.trans ha')
  have hscan := restoresCase_of_calm ha (Ast.exists_of_meaning a hmeaning) hcase hcalm
  have hcompile := compile_of_ofString (r := r) hsize (by rw [hstrip, String.ofList_toList]; exact hr)
  rw [hstrip, hscan] at hcompile
  rw [isOk_ofStrings, List.all_cons, List.all_nil, Bool.and_true, hcompile]
  rfl

/-- A verbose pattern with a comment, and with what looks like a flag group in a class and behind a
backslash. -/
def flagLookalikes : String := "(?x) fix [ \\] (?-i) [:alpha:] ] # or -i\n | \\(?-i (?<a[>b) {2, 3}"

/-- The pattern is accepted. -/
theorem isOk_ofStrings_of_keepsCase_flagLookalikes :
    flagLookalikes = "(?x) fix [ \\] (?-i) [:alpha:] ] # or -i\n | \\(?-i (?<a[>b) {2, 3}" ∧
      (ofStrings [flagLookalikes]).isOk = true := by
  refine ⟨rfl, ?_⟩
  have hmarker : ¬markerText <:+: flagLookalikes.toList := by decide +kernel
  have hok : (Regex.ofString flagLookalikes).isOk = true := by decide +kernel
  have htree : (Ast.parse? flagLookalikes).any (fun a => !a.restoresCase) = true := by decide +kernel
  have hquiet : quiet flagLookalikes.toList = true := by decide +kernel
  obtain ⟨a, ha, hcase⟩ := (Option.any_eq_true _ _).mp htree
  rw [Bool.not_eq_true'] at hcase
  cases hr : Regex.ofString flagLookalikes with
  | error e =>
    rw [hr] at hok
    cases hok
  | ok r => exact isOk_ofStrings_of_keepsCase (by decide) hmarker hr ha hcase (.inl hquiet)

/-- A comment is taken for a flag group: the engine accepts the pattern, nothing in it turns `i` off, and
it is refused. -/
theorem comment_refused :
    "(?x)a # (?-i)".utf8ByteSize ≤ 4096 ∧ ¬markerText <:+: "(?x)a # (?-i)".toList ∧
      (∃ r, Regex.ofString "(?x)a # (?-i)" = .ok r) ∧
      (∃ a, Ast.parse? "(?x)a # (?-i)" = some a ∧ a.restoresCase = false) ∧
      (ofStrings ["(?x)a # (?-i)"]).isOk = false := by
  have hok : (Regex.ofString "(?x)a # (?-i)").isOk = true := by decide +kernel
  have htree : (Ast.parse? "(?x)a # (?-i)").any (fun a => !a.restoresCase) = true := by decide +kernel
  obtain ⟨a, ha, hcase⟩ := (Option.any_eq_true _ _).mp htree
  refine ⟨by decide, by decide +kernel, ?_, ⟨a, ha, by simpa using hcase⟩, ?_⟩
  · cases hr : Regex.ofString "(?x)a # (?-i)" with
    | error e =>
      rw [hr] at hok
      cases hok
    | ok r => exact ⟨r, rfl⟩
  · rw [isOk_ofStrings]
    decide +kernel

/-- So is the text of a class behind a closing bracket that is a member because of what is skipped. -/
example :
    ["(?x)[ ](?-i)]", "(?x)[+- # to\n](?-i)]"].all (fun written =>
      (Regex.ofString written).isOk && !(compile written).isOk) = true := by
  decide +kernel

end TextPatterns
end PullTriage
