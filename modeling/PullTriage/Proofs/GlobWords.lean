import PullTriage.Glob.Strategy
import PullTriage.Proofs.PatternPositions

/-!
  PullTriage.Proofs.GlobWords: the language of a glob.

  The pieces of a glob stand for languages over bytes, and a row of pieces for the product of them.
  Running the pattern of a glob on a path answers whether the path is a word of that language.  The one
  exception is a glob that is only `**` with its slash: it stands for all paths.

  Layers:
    * §1: the patterns of globs have their repetitions in order, so `matchesWhole_iff_mem_words`
      applies to them;
    * §2: rows of pieces as products;
    * §3: the language of each piece, and what languages of directories absorb.

  Main statement: `patternMatches_iff`.
-/

namespace PullTriage

open Pattern

/-! ## §1. Words of byte patterns. -/

namespace Pattern

variable {σ γ α : Type}

/-- A row of patterns is ordered if each of them is. -/
theorem ordered_ofList {ps : List (Pattern σ γ)} (h : ∀ p ∈ ps, p.Ordered) :
    (ofList ps).Ordered := by
  induction ps with
  | nil => trivial
  | cons p ps ih =>
      have hp : p.Ordered := h p List.mem_cons_self
      have hps := ih fun q hq => h q (List.mem_cons_of_mem p hq)
      cases ps with
      | nil => exact hp
      | cons q ps => exact ⟨hp, hps⟩

/-- The words of a row are the products of the words of its patterns. -/
theorem words_ofList (symbol : σ → α → Bool) (ps : List (Pattern σ Empty)) :
    (ofList ps).words symbol = (ps.map fun p => p.words symbol).prod := by
  induction ps with
  | nil => rfl
  | cons p ps ih =>
      rw [List.map_cons, List.prod_cons, ← ih]
      cases ps with
      | nil => exact (mul_one _).symm
      | cons q ps => rfl

end Pattern

namespace Glob

theorem ordered_anything : anything.Ordered := ⟨trivial, fun _ h => nomatch h⟩

/-- A choice is ordered if each of the patterns is. -/
theorem ordered_eitherOf? {ps : List BytePattern} (h : ∀ p ∈ ps, p.Ordered) :
    ∀ p, eitherOf? ps = some p → p.Ordered := by
  induction ps with
  | nil =>
      intro p hp
      cases hp
  | cons q ps ih =>
      intro p hp
      have hq : q.Ordered := h q List.mem_cons_self
      cases ps with
      | nil =>
          obtain rfl := Option.some.inj hp
          exact hq
      | cons q' ps =>
          obtain ⟨r, hr, rfl⟩ := Option.map_eq_some_iff.mp hp
          exact ⟨hq, ih (fun s hs => h s (List.mem_cons_of_mem q hs)) r hr⟩

mutual

/-- The pattern of a token repeats nothing between bounds the wrong way round. -/
theorem ordered_tokenPattern? : ∀ (t : Token) (p : BytePattern), tokenPattern? t = some p → p.Ordered
  | .literal c, p, h => by
      obtain rfl := Option.some.inj h
      apply ordered_ofList
      intro q hq
      obtain ⟨b, -, rfl⟩ := List.mem_map.mp hq
      trivial
  | .any, p, h => by
      obtain rfl := Option.some.inj h
      trivial
  | .anyRun, p, h => by
      obtain rfl := Option.some.inj h
      exact ordered_anything
  | .directoriesFirst, p, h => by
      obtain rfl := Option.some.inj h
      exact ⟨⟨trivial, fun _ _ => Nat.zero_le _⟩, ordered_anything, trivial⟩
  | .directoriesLast, p, h => by
      obtain rfl := Option.some.inj h
      exact ⟨trivial, ordered_anything⟩
  | .directoriesBetween, p, h => by
      obtain rfl := Option.some.inj h
      exact ⟨trivial, trivial, ordered_anything, trivial⟩
  | .oneOf _ _, p, h => by
      obtain rfl := Option.some.inj h
      trivial
  | .alternatives branches, p, h => ordered_eitherOf? (ordered_branchPatterns branches) p h

/-- The same for the branches of a group. -/
theorem ordered_branchPatterns : ∀ (branches : List (List Token)),
    ∀ p ∈ branchPatterns branches, p.Ordered
  | [], _, hp => nomatch hp
  | ts :: rest, p, hp => by
      have hts := ordered_tokenPatterns ts
      have hrest := ordered_branchPatterns rest
      unfold branchPatterns at hp
      split at hp
      case h_1 => exact hrest p hp
      case h_2 ps heq =>
        rcases List.mem_cons.mp hp with rfl | hp
        · exact ordered_ofList hts
        · exact hrest p hp

/-- The same for tokens in a row. -/
theorem ordered_tokenPatterns : ∀ (ts : List Token), ∀ p ∈ tokenPatterns ts, p.Ordered
  | [], _, hp => nomatch hp
  | t :: rest, p, hp => by
      have ht := ordered_tokenPattern? t
      have hrest := ordered_tokenPatterns rest
      unfold tokenPatterns at hp
      split at hp
      case h_1 => exact hrest p hp
      case h_2 q hq =>
        rcases List.mem_cons.mp hp with rfl | hp
        · exact ht p hq
        · exact hrest p hp

end

/-- The pattern of every glob is ordered, so its search says what its words are. -/
theorem ordered_globPattern (ts : List Token) : (globPattern ts).Ordered := by
  unfold globPattern
  split
  case h_1 => exact ordered_anything
  case h_2 => exact ordered_ofList (ordered_tokenPatterns ts)

/-! ## §2. Rows of pieces. -/

/-- The language of a row of pieces. -/
def rowWords (ts : List Token) : Language Nat :=
  (Pattern.ofList (tokenPatterns ts)).words ByteTest.contains

/-- The language of a glob. -/
def globWords (ts : List Token) : Language Nat := (globPattern ts).words ByteTest.contains

/-- **The pattern of a glob.** Running it on a path tells whether the path is a word of the glob. -/
theorem patternMatches_iff (ts : List Token) (path : List Nat) :
    patternMatches ts path = true ↔ path ∈ globWords ts :=
  matchesWhole_iff_mem_words (ordered_globPattern ts) path

/-- The patterns of two rows of tokens stand one after the other. -/
theorem tokenPatterns_append (a b : List Token) :
    tokenPatterns (a ++ b) = tokenPatterns a ++ tokenPatterns b := by
  induction a with
  | nil => rfl
  | cons t a ih =>
      rw [List.cons_append, tokenPatterns.eq_2, tokenPatterns.eq_2, ih]
      cases tokenPattern? t <;> rfl

theorem rowWords_nil : rowWords [] = 1 := rfl

/-- A word of two rows is a word of the first followed by a word of the second. -/
theorem rowWords_append (a b : List Token) : rowWords (a ++ b) = rowWords a * rowWords b := by
  unfold rowWords
  rw [words_ofList, words_ofList, words_ofList, tokenPatterns_append, List.map_append,
    List.prod_append]

/-- The first token of a row is split off. -/
theorem rowWords_cons (t : Token) (ts : List Token) :
    rowWords (t :: ts) = rowWords [t] * rowWords ts := rowWords_append [t] ts

/-- A glob stands for its row of pieces. -/
theorem globWords_eq {ts : List Token} (h : ts ≠ [.directoriesFirst]) :
    globWords ts = rowWords ts := by
  unfold globWords globPattern
  split
  case h_1 => exact absurd rfl h
  case h_2 => rfl

/-! ## §3. The languages of pieces. -/

/-- Any one byte. -/
def oneByte : Language Nat := {w | ∃ b, w = [b]}

/-- One slash. -/
def oneSlash : Language Nat := {[0x2F]}

/-- Nothing, or bytes that end in a slash. -/
def directories : Language Nat := 1 + ⊤ * oneSlash

theorem mem_top (w : List Nat) : w ∈ (⊤ : Language Nat) := trivial

/-- Every text is one byte as often as it is long. -/
theorem mem_oneByte_pow (w : List Nat) : w ∈ oneByte ^ w.length := by
  induction w with
  | nil => exact Language.nil_mem_one
  | cons b w ih =>
      rw [List.length_cons, pow_succ']
      have hb : [b] ∈ oneByte := ⟨b, rfl⟩
      exact Language.append_mem_mul hb ih

/-- The step of `?` reads any byte. -/
theorem words_stepAny : (Pattern.step .any : BytePattern).words ByteTest.contains = oneByte := by
  ext w
  constructor
  · rintro ⟨b, -, rfl⟩
    exact ⟨b, rfl⟩
  · rintro ⟨b, rfl⟩
    exact ⟨b, rfl, rfl⟩

/-- The step of a byte reads that byte. -/
theorem words_stepByte (b : Nat) :
    (Pattern.step (.byte b) : BytePattern).words ByteTest.contains = {[b]} := by
  ext w
  constructor
  · rintro ⟨c, hc, rfl⟩
    obtain rfl : b = c := by simpa [ByteTest.contains] using hc
    rfl
  · intro hw
    exact ⟨b, by simp [ByteTest.contains], hw⟩

/-- The pattern for anything has every word. -/
theorem words_anything : anything.words ByteTest.contains = ⊤ := by
  ext w
  constructor
  · intro _
    exact mem_top w
  · intro _
    refine ⟨w.length, ⟨Nat.zero_le _, fun _ h => nomatch h⟩, ?_⟩
    rw [words_stepAny]
    exact mem_oneByte_pow w

theorem words_slash : slash.words ByteTest.contains = oneSlash := words_stepByte 0x2F

/-- Two words make one. -/
theorem single_mul_single (u v : List Nat) : ({u} : Language Nat) * {v} = {u ++ v} := by
  ext w
  rw [Language.mem_mul]
  constructor
  · rintro ⟨a, rfl, b, rfl, rfl⟩
    rfl
  · rintro rfl
    exact ⟨u, rfl, v, rfl, rfl⟩

/-- Anything followed by anything is anything. -/
theorem top_mul_top : (⊤ : Language Nat) * ⊤ = ⊤ := by
  ext w
  constructor
  · intro _
    exact mem_top w
  · intro _
    exact Language.append_mem_mul (mem_top []) (mem_top w)

/-- Anything is not made larger by a choice. -/
theorem add_top (l : Language Nat) : l + ⊤ = ⊤ := by
  ext w
  constructor
  · intro _
    exact mem_top w
  · intro _
    exact .inr (mem_top w)

/-- Directories in front of anything are part of it. -/
theorem directories_mul_top : directories * ⊤ = ⊤ := by
  unfold directories
  rw [add_mul, one_mul, add_comm, add_top]

/-- Directories in front of directories are part of them. -/
theorem directories_mul_directories : directories * directories = directories := by
  calc directories * directories
      = directories + directories * ⊤ * oneSlash := by
        nth_rewrite 2 [directories]
        rw [mul_add, mul_one, mul_assoc]
    _ = 1 + (⊤ * oneSlash + ⊤ * oneSlash) := by
        rw [directories_mul_top]
        unfold directories
        rw [add_assoc]
    _ = directories := by
        rw [Language.add_self]
        rfl

/-- A slash is one way to have some directories. -/
theorem oneSlash_add_directories : oneSlash + directories = directories := by
  have hslash : oneSlash + ⊤ * oneSlash = ⊤ * oneSlash := by
    calc oneSlash + ⊤ * oneSlash = (1 + ⊤) * oneSlash := by rw [add_mul, one_mul]
      _ = ⊤ * oneSlash := by rw [add_top]
  unfold directories
  rw [add_left_comm, hslash]

/-! Each piece that is not a group. -/

/-- What a token stands for is what its pattern reads. -/
theorem rowWords_singleton {t : Token} {p : BytePattern} (h : tokenPattern? t = some p) :
    rowWords [t] = p.words ByteTest.contains := by
  unfold rowWords tokenPatterns tokenPatterns
  rw [h]
  rfl

/-- A character stands for its bytes. -/
theorem rowWords_literal (c : Char) : rowWords [.literal c] = {charBytes c} := by
  rw [rowWords_singleton rfl, words_ofList, List.map_map]
  induction charBytes c with
  | nil => rfl
  | cons b bs ih =>
      rw [List.map_cons, List.prod_cons, ih, Function.comp_apply, words_stepByte, single_mul_single]
      rfl

/-- A `?` stands for one byte. -/
theorem rowWords_any : rowWords [.any] = oneByte := by
  rw [rowWords_singleton rfl, words_stepAny]

/-- A `*` stands for anything, slashes included. -/
theorem rowWords_anyRun : rowWords [.anyRun] = ⊤ := by
  rw [rowWords_singleton rfl, words_anything]

/-- A `**` with its slash at the beginning stands for nothing or for directories. -/
theorem rowWords_directoriesFirst : rowWords [.directoriesFirst] = directories := by
  rw [rowWords_singleton rfl]
  show (slash.optional).words ByteTest.contains +
    anything.words ByteTest.contains * slash.words ByteTest.contains = directories
  have hoptional : (slash.optional).words ByteTest.contains = 1 + oneSlash := by
    ext w
    constructor
    · rintro ⟨k, ⟨-, hmost⟩, hw⟩
      have hk : k ≤ 1 := hmost 1 rfl
      rw [words_slash] at hw
      obtain rfl | rfl : k = 0 ∨ k = 1 := by omega
      · exact .inl hw
      · rw [pow_one] at hw
        exact .inr hw
    · rintro (hw | hw)
      · exact ⟨0, ⟨Nat.le_refl 0, fun _ _ => Nat.zero_le _⟩, hw⟩
      · refine ⟨1, ⟨Nat.zero_le 1, fun m hm => (Option.some.inj hm).le⟩, ?_⟩
        rw [pow_one, words_slash]
        exact hw
  rw [hoptional, words_anything, words_slash, add_assoc, add_left_comm]
  exact oneSlash_add_directories

/-- A `**` behind a slash at the end stands for the slash and anything. -/
theorem rowWords_directoriesLast : rowWords [.directoriesLast] = oneSlash * ⊤ := by
  rw [rowWords_singleton rfl]
  show slash.words ByteTest.contains * anything.words ByteTest.contains = _
  rw [words_slash, words_anything]

/-- A `**` between two slashes stands for one of them or for directories. -/
theorem rowWords_directoriesBetween : rowWords [.directoriesBetween] = oneSlash * directories := by
  rw [rowWords_singleton rfl]
  show slash.words ByteTest.contains + slash.words ByteTest.contains *
    (anything.words ByteTest.contains * slash.words ByteTest.contains) = _
  rw [words_slash, words_anything]
  unfold directories
  rw [mul_add, mul_one]

/-- The bytes that a class holds, one by one. -/
def classWords (negated : Bool) (ranges : List (Char × Char)) : Language Nat :=
  {w | ∃ b, (ByteTest.oneOf negated (ranges.flatMap fun r => byteRanges r.1 r.2)).contains b = true ∧
    w = [b]}

/-- A class stands for each of its bytes. -/
theorem rowWords_oneOf (negated : Bool) (ranges : List (Char × Char)) :
    rowWords [.oneOf negated ranges] = classWords negated ranges := by
  rw [rowWords_singleton rfl]
  rfl

/-- A glob that is a `**` and nothing else stands for every path. -/
theorem globWords_directoriesFirst : globWords [.directoriesFirst] = ⊤ := words_anything

/-- Literal pieces stand for the bytes of their characters. -/
theorem rowWords_literals (cs : List Char) : rowWords (cs.map .literal) = {bytesOf cs} := by
  induction cs with
  | nil => rfl
  | cons c cs ih =>
      rw [List.map_cons, rowWords_cons, ih, rowWords_literal, single_mul_single]
      rfl

end Glob
end PullTriage
