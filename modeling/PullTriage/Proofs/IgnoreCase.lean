import Mathlib.Data.List.Find
import PullTriage.Proofs.FlagScan
import PullTriage.Proofs.PatternLists

/-!
  PullTriage.Proofs.IgnoreCase: case never counts, with three exceptions.

  A compiled pattern searches without regard to case as long as no flag group of it turns `i` off.  The
  scan that is to refuse such groups counts brackets, so it is led astray where a bracket is none: at the
  end of a range, in the name of a group, and in a verbose part.  Nowhere else does such a group get past
  it.
-/

namespace PullTriage

/-! ## §1. Texts that differ in case. -/

/-- Texts of one length that differ at most in the case of letters below U+0080. -/
def SameButCase (s t : String) : Prop := s.toList.map Char.toLower = t.toList.map Char.toLower

instance (s t : String) : Decidable (SameButCase s t) :=
  inferInstanceAs (Decidable (s.toList.map Char.toLower = t.toList.map Char.toLower))

/-- Making a character small adds 32 to a capital letter below U+0080. -/
theorem toNat_toLower (c : Char) :
    c.toLower.toNat = if 0x41 ≤ c.toNat ∧ c.toNat ≤ 0x5A then c.toNat + 32 else c.toNat := by
  have hbounds : (c.val ≥ 'A'.val ∧ c.val ≤ 'Z'.val) ↔ 0x41 ≤ c.toNat ∧ c.toNat ≤ 0x5A := Iff.rfl
  unfold Char.toLower
  split
  case isTrue h =>
    rw [if_pos (hbounds.mp h)]
    have hle : c.val.toNat ≤ 0x5A := (hbounds.mp h).2
    show (c.val + ('a'.val - 'A'.val)).toNat = c.val.toNat + 32
    rw [UInt32.toNat_add, Nat.mod_eq_of_lt]
    · rfl
    · show c.val.toNat + 32 < 2 ^ 32
      omega
  case isFalse h => rw [if_neg fun h' => h (hbounds.mpr h')]

theorem sameButAsciiCase_of_toLower {c d : Char} (h : c.toLower = d.toLower) :
    Unicode.SameButAsciiCase c.toNat d.toNat := by
  have hcodes : c.toLower.toNat = d.toLower.toNat := congrArg Char.toNat h
  rw [toNat_toLower, toNat_toLower] at hcodes
  unfold Unicode.SameButAsciiCase
  rw [Unicode.isAsciiLetter_iff]
  unfold Unicode.swapAsciiCase
  split at hcodes <;> split at hcodes <;> split <;> omega

/-- Texts that are the same but for case have code points that are. -/
theorem SameButCase.codes {s t : String} (h : SameButCase s t) :
    List.Forall₂ Unicode.SameButAsciiCase (Regex.codes s) (Regex.codes t) := by
  unfold Regex.codes
  rw [List.forall₂_map_left_iff, List.forall₂_map_right_iff]
  have hchars : List.Forall₂ (fun c d : Char => c.toLower = d.toLower) s.toList t.toList := by
    rw [← List.forall₂_map_right_iff, ← List.forall₂_map_left_iff, List.forall₂_eq_eq_eq]
    exact h
  exact hchars.imp fun _ _ => sameButAsciiCase_of_toLower

/-! ## §2. The parts of a pattern that has a meaning. -/

namespace Regex

/-- If a part is a property, it exists. -/
def Mark.Exists : Mark → Prop
  | .property q => q.set?.isSome = true
  | _ => True

/-- A property that means something exists. -/
theorem exists_of_propertySet {m : Mode} {negated : Bool} {q : PropertyQuery}
    {a : Unicode.CharSet} (h : propertySet? m negated q = some a) : q.set?.isSome = true := by
  unfold propertySet? at h
  split at h
  · obtain ⟨b, hb, -⟩ := Option.bind_eq_some_iff.mp h
    rw [hb]
    rfl
  · cases h

mutual

/-- The properties of a member that means something exist. -/
theorem ClassItem.exists_of_set {m : Mode} {a : Unicode.CharSet} :
    ∀ i : ClassItem, i.set? m = some a → ∀ x ∈ i.marks, x.Exists
  | .literal _, _ => fun x hx => nomatch hx
  | .posix _ _, _ => fun x hx => nomatch hx
  | .shorthand _ _, _ => fun x hx => nomatch hx
  | .range _ _, _ => List.forall_mem_singleton.mpr trivial
  | .property _ _, h => List.forall_mem_singleton.mpr (exists_of_propertySet h)
  | .bracketed _ set, h => by
      obtain ⟨b, hb, -⟩ := Option.bind_eq_some_iff.mp h
      exact ClassSet.exists_of_set set hb

/-- The properties in a class that has a meaning exist. -/
theorem ClassSet.exists_of_set {m : Mode} {a : Unicode.CharSet} :
    ∀ set : ClassSet, set.set? m = some a → ∀ x ∈ set.marks, x.Exists
  | .items members, h => by
      obtain ⟨sets, hsets, -⟩ := Option.map_eq_some_iff.mp h
      exact exists_of_itemSets members hsets
  | .binary _ left right, h => by
      obtain ⟨b, hb, h⟩ := Option.bind_eq_some_iff.mp h
      obtain ⟨c, hc, -⟩ := Option.bind_eq_some_iff.mp h
      exact List.forall_mem_append.mpr
        ⟨ClassSet.exists_of_set left hb, ClassSet.exists_of_set right hc⟩

/-- So do those of several members. -/
theorem exists_of_itemSets {m : Mode} {sets : List Unicode.CharSet} :
    ∀ members : List ClassItem, itemSets? m members = some sets →
      ∀ x ∈ marksOfItems members, x.Exists
  | [], _ => fun x hx => nomatch hx
  | i :: rest, h => by
      simp only [itemSets?, Option.bind_eq_bind, Option.bind_eq_some_iff] at h
      obtain ⟨a, ha, as, has, -⟩ := h
      exact List.forall_mem_append.mpr
        ⟨ClassItem.exists_of_set i ha, exists_of_itemSets rest has⟩

end

mutual

/-- The properties in a pattern that has a meaning exist. -/
theorem Ast.exists_of_meaning {m m' : Mode} {p : CharPattern} :
    ∀ a : Ast, a.meaning? m = some (p, m') → ∀ x ∈ a.marks, x.Exists
  | .empty, _ => fun x hx => nomatch hx
  | .literal _, _ => fun x hx => nomatch hx
  | .dot, _ => fun x hx => nomatch hx
  | .assertion _, _ => fun x hx => nomatch hx
  | .shorthand _ _, _ => fun x hx => nomatch hx
  | .flags _, _ => List.forall_mem_singleton.mpr trivial
  -- only a property has to exist, alone or in a class
  | .property _ _, h => by
      obtain ⟨a, ha, -⟩ := Option.bind_eq_some_iff.mp h
      exact List.forall_mem_singleton.mpr (exists_of_propertySet ha)
  | .bracketed _ set, h => by
      obtain ⟨a, ha, -⟩ := Option.bind_eq_some_iff.mp h
      exact ClassSet.exists_of_set set ha
  | .repetition body _ _, h => by
      obtain ⟨⟨q, m₁⟩, hbody, -⟩ := Option.bind_eq_some_iff.mp h
      exact Ast.exists_of_meaning body hbody
  | .group kind body, h => by
      obtain ⟨⟨q, m₁⟩, hbody, -⟩ := Option.bind_eq_some_iff.mp h
      refine List.forall_mem_append.mpr ⟨?_, Ast.exists_of_meaning body hbody⟩
      cases kind with
      | capture => exact fun x hx => nomatch hx
      | named n => exact List.forall_mem_singleton.mpr trivial
      | flags items => exact List.forall_mem_singleton.mpr trivial
  | .alternation branches, h => by
      obtain ⟨⟨qs, m₁⟩, hbranches, -⟩ := Option.bind_eq_some_iff.mp h
      exact exists_of_meanings branches hbranches
  | .concat parts, h => by
      obtain ⟨⟨qs, m₁⟩, hparts, -⟩ := Option.bind_eq_some_iff.mp h
      exact exists_of_meanings parts hparts

/-- So do those of trees in a row. -/
theorem exists_of_meanings {m m' : Mode} {ps : List CharPattern} :
    ∀ as : List Ast, meanings? m as = some (ps, m') → ∀ x ∈ marksOfList as, x.Exists
  | [], _ => fun x hx => nomatch hx
  | a :: rest, h => by
      obtain ⟨⟨q, m₁⟩, ha, h⟩ := Option.bind_eq_some_iff.mp h
      obtain ⟨⟨qs, m₂⟩, hrest, -⟩ := Option.bind_eq_some_iff.mp h
      exact List.forall_mem_append.mpr
        ⟨Ast.exists_of_meaning a ha, exists_of_meanings rest hrest⟩

end

/-- The parts of a pattern where brackets alone mislead: a flag group that makes it verbose, a group
name with an opening bracket, and a range up to one. -/
def Mark.misleads : Mark → Bool
  | .flags items => FlagItem.turnsOn items .verbose
  | .name n => n.toList.contains '['
  | .range _ high => high.char = '['
  | .property _ => false

theorem Mark.plain_of {x : Mark} (hexists : x.Exists) (h : x.misleads = false) : x.Plain := by
  cases x with
  | flags items => exact h
  | name n =>
      show '[' ∉ n.toList
      simpa [Mark.misleads] using h
  | property q => exact hexists
  | range low high =>
      show high.char ≠ '['
      simpa [Mark.misleads] using h

/-! ## §3. Searching. -/

/-- A pattern of case-blind sets is found in both of two texts that differ in case, or in neither. -/
theorem foundIn_congr {r : Regex} (h : ∀ a ∈ r.pattern.steps, a.CaseBlind) {s t : String}
    (hst : SameButCase s t) : r.foundIn s = r.foundIn t :=
  Pattern.found_congr hst.codes (fun a ha _ _ hcd => (h a ha).contains_eq hcd)
    (fun look _ _ _ _ hbefore hafter => look.holds_congr hbefore hafter)

end Regex

/-! ## §4. Compiled patterns. -/

namespace TextPattern

open Regex

/-- The tree of a pattern as written, once its markers are removed. -/
def tree? (written : String) : Option Ast :=
  Ast.parse? (String.ofList (stripMarkers written.toList))

/-- No part of a pattern is searched for with regard to case. -/
def IgnoresCase (written : String) : Prop := ∃ a, tree? written = some a ∧ a.IgnoresCase .initial

/-- No flag group of a pattern turns the flag `i` off. -/
def KeepsFlag (written : String) : Prop := ∃ a, tree? written = some a ∧ a.restoresCase = false

/-- Nothing in a pattern misleads a scan that counts brackets. -/
def ReadByBrackets (written : String) : Prop :=
  ∃ a, tree? written = some a ∧ ∀ x ∈ a.marks, x.misleads = false

instance (written : String) : Decidable (KeepsFlag written) :=
  decidable_of_iff ((tree? written).any (fun a => !a.restoresCase) = true) (by
    simp [KeepsFlag, Option.any_eq_true])

instance (written : String) : Decidable (ReadByBrackets written) :=
  decidable_of_iff ((tree? written).any (fun a => a.marks.all fun x => !x.misleads) = true) (by
    simp [ReadByBrackets, Option.any_eq_true])

/-- What it takes for a pattern to compile. -/
theorem compile_ok {written : String} {r : Regex} (h : compile written = .ok r) :
    restoresCase (stripMarkers written.toList) = false ∧
      ∃ a m, tree? written = some a ∧ a.meaning? .initial = some (r.pattern, m) := by
  unfold compile at h
  dsimp only at h
  split at h
  case isTrue => cases h
  case isFalse =>
    split at h
    case isTrue => cases h
    case isFalse hscan =>
      refine ⟨by simpa using hscan, ?_⟩
      split at h
      case h_2 => cases h
      case h_1 r' hr =>
        obtain rfl := Except.ok.inj h
        obtain ⟨a, m, -, -, ha, hmeaning, -⟩ := Regex.ofString_eq_ok_iff.mp hr
        exact ⟨a, m, ha, hmeaning⟩

/-- Case never counts in a pattern exactly when its flag stays on. -/
theorem ignoresCase_iff_keepsFlag (written : String) : IgnoresCase written ↔ KeepsFlag written := by
  unfold IgnoresCase KeepsFlag
  have hinitial : Mode.initial.ignoreCase = true := rfl
  simp only [Ast.ignoresCase_iff hinitial]

/-- A pattern that keeps the flag is found alike in texts that are the same but for case. -/
theorem KeepsFlag.foundIn_congr {p : TextPattern} (h : KeepsFlag p.written) {s t : String}
    (hst : SameButCase s t) : p.foundIn s = p.foundIn t := by
  obtain ⟨a, ha, hkeeps⟩ := h
  obtain ⟨-, a', m, ha', hmeaning⟩ := compile_ok p.compiled
  obtain rfl : a = a' := Option.some.inj (ha.symm.trans ha')
  have hignores : a.IgnoresCase .initial := (Ast.ignoresCase_iff rfl a).mpr hkeeps
  exact Regex.foundIn_congr ((Ast.caseBlind_meaning a hmeaning).2 hignores) hst

/-- A pattern that is read by its brackets keeps the flag, since otherwise the scan had refused it. -/
theorem ReadByBrackets.keepsFlag {written : String} {r : Regex} (hr : compile written = .ok r)
    (h : ReadByBrackets written) : KeepsFlag written := by
  obtain ⟨a, ha, hbrackets⟩ := h
  obtain ⟨hscan, a', m, ha', hmeaning⟩ := compile_ok hr
  obtain rfl : a = a' := Option.some.inj (ha.symm.trans ha')
  have hplain : ∀ x ∈ a.marks, x.Plain := fun x hx =>
    Mark.plain_of (Ast.exists_of_meaning a hmeaning x hx) (hbrackets x hx)
  -- the scan accepted the pattern, and here it sees what the tree holds
  have hagree := restoresCase_of_parse? ha hplain
  rw [String.toList_ofList, hscan] at hagree
  exact ⟨a, ha, hagree.symm⟩

end TextPattern

/-! ## §5. Lists of patterns. -/

namespace TextPatterns

open TextPattern

/-- **Case never counts for compiled patterns exactly when no flag group of theirs turns `i` off, and
only a pattern that misleads the search for such groups can have one.** -/
theorem caseNeverCounts_iff {written : List String} {ps : TextPatterns}
    (h : ofStrings written = .ok ps) :
    (((∀ w ∈ written, IgnoresCase w) ∧
        ∀ s t, SameButCase s t → ps.foundIn s = ps.foundIn t ∧ ps.find? s = ps.find? t)
      ↔ ∀ w ∈ written, KeepsFlag w) ∧
      ∀ w ∈ written, ReadByBrackets w → KeepsFlag w := by
  obtain rfl := written_ofStrings h
  have hwritten : ∀ {P : String → Prop}, (∀ w ∈ ps.written, P w) ↔ ∀ p ∈ ps.patterns, P p.written :=
    List.forall_mem_map
  rw [hwritten, hwritten, hwritten]
  constructor
  case left =>
    constructor
    case mp =>
      intro hcase p hp
      exact (ignoresCase_iff_keepsFlag p.written).mp (hcase.1 p hp)
    case mpr =>
      intro hkeeps
      refine ⟨fun p hp => (ignoresCase_iff_keepsFlag p.written).mpr (hkeeps p hp), ?_⟩
      intro s t hst
      -- both answers only ask, pattern by pattern, whether it is found
      have hfound : ∀ p ∈ ps.patterns, p.foundIn s = p.foundIn t :=
        fun p hp => (hkeeps p hp).foundIn_congr hst
      constructor
      case left =>
        unfold foundIn
        rw [Bool.eq_iff_iff, List.any_eq_true, List.any_eq_true]
        exact exists_congr fun p => and_congr_right fun hp => by rw [hfound p hp]
      case right =>
        unfold find?
        rw [List.find?_congr hfound]
  case right => exact fun p _ hbrackets => hbrackets.keepsFlag p.compiled

/-- A nested class that looks like a flag group, and a flag group: case does not count. -/
theorem caseNeverCounts_nestedClass :
    ∃ ps, ofStrings ["[[]a-f](?-i)](?m:foo)"] = .ok ps ∧ ReadByBrackets "[[]a-f](?-i)](?m:foo)" ∧
      ∀ s t, SameButCase s t → ps.foundIn s = ps.foundIn t ∧ ps.find? s = ps.find? t := by
  have hok : (ofStrings ["[[]a-f](?-i)](?m:foo)"]).isOk = true := by
    rw [isOk_ofStrings]
    decide +kernel
  cases hps : ofStrings ["[[]a-f](?-i)](?m:foo)"] with
  | error e =>
      rw [hps] at hok
      cases hok
  | ok ps =>
      have hbrackets : ReadByBrackets "[[]a-f](?-i)](?m:foo)" := by decide +kernel
      obtain ⟨hiff, hkeeps⟩ := caseNeverCounts_iff hps
      refine ⟨ps, rfl, hbrackets, (hiff.mpr fun w hw => hkeeps w hw ?_).2⟩
      rw [List.mem_singleton.mp hw]
      exact hbrackets

/-- A range up to a bracket lets a flag group pass that turns `i` off, and then case counts. -/
theorem caseCounts_after_rangeToBracket :
    ∃ ps, ofStrings ["[A-[](?-i)foo"] = .ok ps ∧ SameButCase "Afoo" "AFOO" ∧
      ps.foundIn "Afoo" ≠ ps.foundIn "AFOO" := by
  have hok : (ofStrings ["[A-[](?-i)foo"]).isOk = true := by
    rw [isOk_ofStrings]
    decide +kernel
  cases hps : ofStrings ["[A-[](?-i)foo"] with
  | error e =>
      rw [hps] at hok
      cases hok
  | ok ps =>
      refine ⟨ps, rfl, by decide, ?_⟩
      rw [foundIn_eq_any, foundIn_eq_any, written_ofStrings hps]
      decide +kernel

end TextPatterns

end PullTriage
