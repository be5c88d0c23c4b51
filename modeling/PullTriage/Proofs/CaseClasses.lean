import Mathlib.Data.List.Basic
import PullTriage.Proofs.CaseBlind

/-!
  PullTriage.Proofs.CaseClasses: which characters agree with an ASCII letter or digit but for case.

  The classes of simple case folding are listed, and looked up in a table that is built from the list.
  Two things follow for the characters below U+0080:

    * a lookup answers with a listed class that holds the character, and one is found for every
      character of a listed class (`mem_of_foldTable`, `exists_foldTable`);
    * only two listed classes reach below U+0080, `K k` with the Kelvin sign and `S s` with the long s
      (`mem_foldClasses_low`).

  So an ASCII letter or digit agrees with itself, a letter also with its other case, and nothing else
  agrees with one of them but for the two characters named above:

        p ∈ foldOrbit c  ↔  c = p  ∨  c is the other case of p  ∨  c ∈ asciiExtras p
-/

namespace PullTriage.Unicode

/-! ## §1. The table. -/

section Lookup

variable {table : Std.HashMap Nat (List Nat)} {classes : List (List Nat)} {members : List Nat} {c : Nat}

/-- Entering one class under each of its members changes the table at these members and nowhere else. -/
theorem getElem?_foldl_insert (members class_ : List Nat) (c : Nat) :
    (members.foldl (fun t m => t.insert m class_) table)[c]?
      = if c ∈ members then some class_ else table[c]? := by
  induction members generalizing table with
  | nil => simp
  | cons m members ih =>
    rw [List.foldl_cons, ih, Std.HashMap.getElem?_insert]
    by_cases hc : c ∈ members
    · simp [hc]
    · by_cases hm : m = c
      · simp [hm]
      · simp [hc, hm, Ne.symm hm]

/-- Entering a class changes the lookups of its members. -/
theorem getElem?_enterClass :
    (enterClass table members)[c]? = if c ∈ members then some members else table[c]? :=
  getElem?_foldl_insert members members c

/-- What the table holds after all classes are entered is a class that was entered, or what stood there
before. -/
theorem mem_of_foldl_enterClass (h : (classes.foldl enterClass table)[c]? = some members) :
    (members ∈ classes ∧ c ∈ members) ∨ table[c]? = some members := by
  induction classes generalizing table with
  | nil => exact .inr h
  | cons first classes ih =>
    rcases ih h with ⟨hmem, hc⟩ | hfirst
    · exact .inl ⟨List.mem_cons_of_mem _ hmem, hc⟩
    · rw [getElem?_enterClass] at hfirst
      split at hfirst
      case isTrue hc =>
        obtain rfl := Option.some.inj hfirst
        exact .inl ⟨List.mem_cons_self, hc⟩
      case isFalse => exact .inr hfirst

theorem isSome_foldl_enterClass
    (h : (∃ members ∈ classes, c ∈ members) ∨ (table[c]?).isSome = true) :
    ((classes.foldl enterClass table)[c]?).isSome = true := by
  induction classes generalizing table with
  | nil => simpa using h
  | cons first classes ih =>
    apply ih
    by_cases hc : c ∈ first
    · right
      rw [getElem?_enterClass, if_pos hc]
      rfl
    · rw [getElem?_enterClass, if_neg hc]
      simpa [hc] using h

end Lookup

/-- A lookup answers with a class that is listed and holds the character. -/
theorem mem_of_foldTable {members : List Nat} {c : Nat} (h : foldTable[c]? = some members) :
    members ∈ foldClasses ∧ c ∈ members := by
  rcases mem_of_foldl_enterClass h with hmem | hempty
  · exact hmem
  · simp at hempty

/-- Each member of a listed class is found. -/
theorem exists_foldTable {members : List Nat} {c : Nat} (hmem : members ∈ foldClasses)
    (hc : c ∈ members) : ∃ found, foldTable[c]? = some found :=
  Option.isSome_iff_exists.mp (isSome_foldl_enterClass (.inl ⟨members, hmem, hc⟩))

/-! ## §2. The classes that reach below U+0080. -/

/-- The characters of a run lie from U+0080 on. -/
theorem PairRun.le_of_mem {r : PairRun} (hr : r ∈ pairRuns) {members : List Nat}
    (hmem : members ∈ r.classes) {c : Nat} (hc : c ∈ members) : 0x80 ≤ c := by
  have hfirst : ∀ r ∈ pairRuns, 0x80 ≤ r.first := by decide +kernel
  have hle := hfirst r hr
  obtain ⟨i, -, rfl⟩ := List.mem_map.mp hmem
  simp only [List.mem_cons, List.not_mem_nil, or_false] at hc
  omega

/-- Only the classes of `K` and `S` have a member below U+0080. -/
theorem mem_foldClasses_low {members : List Nat} (hmem : members ∈ foldClasses) {p : Nat}
    (hp : p ∈ members) (hlow : p < 0x80) :
    members = [0x4B, 0x6B, 0x212A] ∨ members = [0x53, 0x73, 0x17F] := by
  have hlarger : ∀ members ∈ largerClasses, (∃ p ∈ members, p < 0x80) →
      members = [0x4B, 0x6B, 0x212A] ∨ members = [0x53, 0x73, 0x17F] := by decide +kernel
  rcases List.mem_append.mp hmem with hmem | hmem
  · exact hlarger members hmem ⟨p, hp, hlow⟩
  · obtain ⟨r, hr, hmem⟩ := List.mem_flatMap.mp hmem
    have hle := PairRun.le_of_mem hr hmem hp
    omega

/-- The Kelvin sign and the long s belong to no other class. -/
theorem mem_foldClasses_extra {members : List Nat} (hmem : members ∈ foldClasses) :
    (0x212A ∈ members → members = [0x4B, 0x6B, 0x212A]) ∧
      (0x17F ∈ members → members = [0x53, 0x73, 0x17F]) := by
  have hall : ∀ members ∈ foldClasses, (0x212A ∈ members → members = [0x4B, 0x6B, 0x212A]) ∧
      (0x17F ∈ members → members = [0x53, 0x73, 0x17F]) := by decide +kernel
  exact hall members hmem

theorem foldTable_kelvin : foldTable[0x212A]? = some [0x4B, 0x6B, 0x212A] := by
  have hlisted : [0x4B, 0x6B, 0x212A] ∈ foldClasses := by decide +kernel
  obtain ⟨found, hfound⟩ := exists_foldTable hlisted (by decide : 0x212A ∈ [0x4B, 0x6B, 0x212A])
  obtain ⟨hmem, hc⟩ := mem_of_foldTable hfound
  rw [hfound, (mem_foldClasses_extra hmem).1 hc]

theorem foldTable_longS : foldTable[0x17F]? = some [0x53, 0x73, 0x17F] := by
  have hlisted : [0x53, 0x73, 0x17F] ∈ foldClasses := by decide +kernel
  obtain ⟨found, hfound⟩ := exists_foldTable hlisted (by decide : 0x17F ∈ [0x53, 0x73, 0x17F])
  obtain ⟨hmem, hc⟩ := mem_of_foldTable hfound
  rw [hfound, (mem_foldClasses_extra hmem).2 hc]

/-! ## §3. The class of an ASCII letter or digit. -/

theorem mem_asciiExtras_iff {c p : Nat} :
    c ∈ asciiExtras p ↔ c = 0x212A ∧ (p = 0x4B ∨ p = 0x6B) ∨ c = 0x17F ∧ (p = 0x53 ∨ p = 0x73) := by
  unfold asciiExtras
  split
  · simp
    omega
  · split
    · simp
      omega
    · simp
      omega

/-- From U+0080 on, only the Kelvin sign and the long s agree with a character below. -/
theorem mem_foldOrbit_high {c p : Nat} (hc : 0x80 ≤ c) (hp : p < 0x80) :
    p ∈ foldOrbit c ↔ c ∈ asciiExtras p := by
  have hletter : isAsciiLetter c = false := by
    rw [Bool.eq_false_iff, ne_eq, isAsciiLetter_iff]
    omega
  unfold foldOrbit
  rw [if_neg (by simp [hletter]), if_neg (by omega), mem_asciiExtras_iff]
  constructor
  · intro h
    cases hfound : foldTable[c]? with
    | none =>
      -- alone in its class, and `p` is below it
      rw [hfound] at h
      simp at h
      omega
    | some members =>
      rw [hfound] at h
      obtain ⟨hmem, hcmem⟩ := mem_of_foldTable hfound
      have hpmem : p ∈ members := h
      rcases mem_foldClasses_low hmem hpmem hp with rfl | rfl
      · simp at hcmem hpmem
        omega
      · simp at hcmem hpmem
        omega
  · intro h
    rcases h with ⟨rfl, hk⟩ | ⟨rfl, hs⟩
    · rw [foldTable_kelvin]
      simp
      omega
    · rw [foldTable_longS]
      simp
      omega

/-- **Which characters agree with a character below U+0080 but for case.** -/
theorem mem_foldOrbit_iff {c p : Nat} (hp : p < 0x80) :
    p ∈ foldOrbit c ↔
      c = p ∨ (isAsciiLetter p = true ∧ c = swapAsciiCase p) ∨ c ∈ asciiExtras p := by
  have hswap : isAsciiLetter p = true → swapAsciiCase p < 0x80 := by
    intro h
    have hletter := isAsciiLetter_iff.mp (isAsciiLetter_swap h)
    omega
  by_cases hhigh : 0x80 ≤ c
  case pos =>
    rw [mem_foldOrbit_high hhigh hp]
    constructor
    · exact fun h => .inr (.inr h)
    · intro h
      rcases h with rfl | ⟨hletter, rfl⟩ | h
      · omega
      · have := hswap hletter
        omega
      · exact h
  case neg =>
    -- below U+0080 the partners further up play no part
    have hextra : ∀ a b, b < 0x80 → b ∉ asciiExtras a := by
      intro a b hb h
      rw [mem_asciiExtras_iff] at h
      omega
    have hcextra := hextra p c (by omega)
    unfold foldOrbit
    by_cases hletter : isAsciiLetter c = true
    case pos =>
      rw [if_pos hletter]
      simp only [List.mem_cons, hextra c p hp, hcextra, or_false]
      constructor
      · intro h
        rcases h with rfl | rfl
        · exact .inl rfl
        · exact .inr ⟨isAsciiLetter_swap hletter, (swapAsciiCase_swap hletter).symm⟩
      · intro h
        rcases h with rfl | ⟨hpletter, rfl⟩
        · exact .inl rfl
        · exact .inr (swapAsciiCase_swap hpletter).symm
    case neg =>
      rw [if_neg hletter, if_pos (by omega)]
      simp only [List.mem_singleton, hcextra, or_false]
      constructor
      · exact fun h => .inl h.symm
      · intro h
        rcases h with rfl | ⟨hpletter, rfl⟩
        · rfl
        · exact absurd (isAsciiLetter_swap hpletter) hletter

end PullTriage.Unicode
