import PullTriage.Proofs.LiteralBraces

/-!
  PullTriage.Proofs.WildcardGlobs: globs of literal characters, wildcards and plain classes.

  Most globs are written with nothing but characters that stand for themselves, `?`, `*`, and classes
  that list their members.  Such a glob always compiles, and what it accepts is said by one rule for
  each wildcard, once the rules know how a character is spelled.  Spelled as itself, a character is one
  symbol, and the rules are those of the documentation.  Spelled as its bytes in UTF-8, the rules are
  those of the code:

      accepts  ⇔  FitsBytes pieces (bytes of the path)          always, `..` apart
      accepts  ⇔  FitsText pieces (characters of the path)      where each symbol is one byte

  The two differ where `?` or a member of a class meets a character of more than one byte, because a
  wildcard then takes one of its bytes only.

  Layers:
    * §1: the wildcards, how they are written, and what fits them;
    * §2: a glob of wildcards is read to one token for each of them;
    * §3: bytes of UTF-8 that fit are those of characters that fit;
    * §4: compiled globs.

  Main statement: `PathGlobs.accepts_iff_fitsBytes`.
-/

namespace PullTriage

open Glob

/-! ## §1. Wildcards. -/

/-- A piece of a glob that has neither escapes nor marked classes nor `**`. -/
inductive Wildcard where
  | literal (c : Char)
  /-- `?` -/
  | one
  /-- `*` -/
  | run
  /-- A class that lists its members. -/
  | oneOf (members : List Char)
  deriving DecidableEq, Repr

namespace Wildcard

/-- Whether a character stands for itself in a glob. -/
def ordinary (c : Char) : Bool := c ∉ ['*', '?', '[', ']', '\x7b', '\x7d', '\\']

/-- Literals are ordinary characters; a class has members, and these are ordinary and no marks or
hyphens. -/
def isValid : Wildcard → Bool
  | literal c => ordinary c
  | one => true
  | run => true
  | oneOf members =>
    !members.isEmpty && members.all fun c => ordinary c && c ∉ ['!', '^', '-']

/-- How a wildcard is written. -/
def text : Wildcard → List Char
  | literal c => [c]
  | one => ['?']
  | run => ['*']
  | oneOf members => '[' :: (members ++ [']'])

/-- `Fits spell ps w`: the symbols `w` can be cut so that each wildcard gets what it stands for, where
`spell` says which symbols a character is made of. -/
inductive Fits {α : Type} (spell : Char → List α) : List Wildcard → List α → Prop
  | nil : Fits spell [] []
  | literal {c ps w} (rest : Fits spell ps w) : Fits spell (literal c :: ps) (spell c ++ w)
  | one {a ps w} (rest : Fits spell ps w) : Fits spell (one :: ps) (a :: w)
  | oneOf {members c a ps w} (member : c ∈ members) (symbol : a ∈ spell c)
      (rest : Fits spell ps w) : Fits spell (oneOf members :: ps) (a :: w)
  | run {u ps w} (rest : Fits spell ps w) : Fits spell (run :: ps) (u ++ w)

/-- Characters that fit wildcards: `?` and a class take one character. -/
def FitsText : List Wildcard → List Char → Prop := Fits fun c => [c]

/-- Bytes that fit wildcards: `?` and a class take one byte. -/
def FitsBytes : List Wildcard → List Nat → Prop := Fits charBytes

/-- Whether a wildcard takes one character when it takes one byte, whatever the path is. -/
def isNarrow : Wildcard → Bool
  | literal _ => true
  | one => false
  | run => true
  | oneOf members => members.all fun c => c.toNat < 0x80

end Wildcard

/-- A glob of wildcards, without two stars in a row. -/
structure WildcardGlob where
  pieces : List Wildcard
  valid : ∀ p ∈ pieces, p.isValid = true
  apart : ¬ [Wildcard.run, Wildcard.run] <:+: pieces

/-- A glob of wildcards as it is written. -/
def WildcardGlob.written (g : WildcardGlob) : String := String.ofList (g.pieces.flatMap Wildcard.text)

/-! ## §2. Reading. -/

namespace Wildcard

/-- The token that a wildcard is read to. -/
def token : Wildcard → Token
  | literal c => .literal c
  | one => .any
  | run => .anyRun
  | oneOf members => .oneOf false (members.map fun c => (c, c))

/-- The piece that a wildcard is. -/
def piece : Wildcard → Piece
  | literal c => .plain c
  | one => .plain '?'
  | run => .plain '*'
  | oneOf members => .bracket none members

theorem text_piece (p : Wildcard) : p.piece.text = p.text := by
  cases p <;> rfl

theorem ordinary_iff {c : Char} : ordinary c = true ↔
    c ≠ '*' ∧ c ≠ '?' ∧ c ≠ '[' ∧ c ≠ ']' ∧ c ≠ '\x7b' ∧ c ≠ '\x7d' ∧ c ≠ '\\' := by
  simp [ordinary]

/-- An ordinary character is no brace. -/
theorem isBrace_of_ordinary {c : Char} (h : ordinary c = true) : isBrace c = false := by
  obtain ⟨-, -, -, -, hopen, hclose, -⟩ := ordinary_iff.mp h
  simp [isBrace, hopen, hclose]

/-- Members of a valid class. -/
theorem member_of_isValid {members : List Char} (h : (oneOf members).isValid = true) :
    members ≠ [] ∧ ∀ c ∈ members, ordinary c = true ∧ c ≠ '!' ∧ c ≠ '^' ∧ c ≠ '-' := by
  simpa [isValid] using h

/-- A written wildcard is a well-formed piece of a glob. -/
theorem wellFormed_piece {p : Wildcard} (h : p.isValid = true) : p.piece.WellFormed := by
  cases p with
  | literal c =>
      obtain ⟨-, -, hopen, -, -, -, hbackslash⟩ := ordinary_iff.mp h
      exact ⟨hbackslash, hopen⟩
  | one => exact ⟨by decide, by decide⟩
  | run => exact ⟨by decide, by decide⟩
  | oneOf members =>
      obtain ⟨hne, hmembers⟩ := member_of_isValid h
      refine ⟨⟨by simp, fun _ => ⟨?_, ?_⟩, ?_⟩, hne⟩
      · intro hhead
        exact (hmembers _ (List.mem_of_mem_head? hhead)).2.1 rfl
      · intro hhead
        exact (hmembers _ (List.mem_of_mem_head? hhead)).2.2.1 rfl
      · intro hmem
        exact (ordinary_iff.mp (hmembers _ (List.mem_of_mem_tail hmem)).1).2.2.2.1 rfl

/-- The text of a wildcard has no brace. -/
theorem any_isBrace_text {p : Wildcard} (h : p.isValid = true) : p.text.any isBrace = false := by
  rw [List.any_eq_false]
  intro c hc
  rw [Bool.not_eq_true]
  cases p with
  | literal d =>
      obtain rfl := List.mem_singleton.mp hc
      exact isBrace_of_ordinary h
  | one =>
      obtain rfl := List.mem_singleton.mp hc
      rfl
  | run =>
      obtain rfl := List.mem_singleton.mp hc
      rfl
  | oneOf members =>
      simp only [text, List.mem_cons, List.mem_append, List.not_mem_nil, or_false] at hc
      rcases hc with rfl | hc | rfl
      · rfl
      · exact isBrace_of_ordinary ((member_of_isValid h).2 c hc).1
      · rfl

/-- Members that are no hyphens are put into a class one by one. -/
theorem foldlM_member {members : List Char} (h : ∀ c ∈ members, c ≠ '-') {k : ClassState}
    (hk : k.afterHyphen = false) :
    ∃ k', members.foldlM ClassState.member k = .ok k' ∧ k'.afterHyphen = false ∧
      k'.negated = k.negated ∧ k'.ranges = (members.map fun c => (c, c)).reverse ++ k.ranges := by
  induction members generalizing k with
  | nil => exact ⟨k, rfl, hk, rfl, rfl⟩
  | cons c members ih =>
      obtain ⟨hc, hmembers⟩ := List.forall_mem_cons.mp h
      have hmember : k.member c =
          .ok { k with ranges := (c, c) :: k.ranges, first := false, afterHyphen := false } := by
        unfold ClassState.member ClassState.add
        rw [if_neg hc, hk]
      obtain ⟨k', hfold, hhyphen, hnegated, hranges⟩ := ih hmembers
        (k := { k with ranges := (c, c) :: k.ranges, first := false, afterHyphen := false }) rfl
      refine ⟨k', ?_, hhyphen, hnegated, ?_⟩
      · rw [List.foldlM_cons, hmember]
        exact hfold
      · rw [hranges, List.map_cons, List.reverse_cons, List.append_assoc]
        rfl

/-- The piece of a wildcard is compiled to its token. -/
theorem token_piece {p : Wildcard} (h : p.isValid = true) : p.piece.token = .ok p.token := by
  cases p with
  | literal c =>
      obtain ⟨hstar, hany, -⟩ := ordinary_iff.mp h
      show Except.ok (if c = '?' then Token.any else if c = '*' then .anyRun else .literal c) = _
      rw [if_neg hany, if_neg hstar]
      rfl
  | one => rfl
  | run => rfl
  | oneOf members =>
      obtain ⟨k, hfold, hhyphen, hnegated, hranges⟩ := foldlM_member
        (fun c hc => ((member_of_isValid h).2 c hc).2.2.2) (k := ⟨false, [], true, false⟩) rfl
      show (Piece.classOf none members).map ClassState.close = _
      have hclass : Piece.classOf none members = .ok k := hfold
      rw [hclass]
      show Except.ok k.close = _
      rw [ClassState.close, hhyphen, hnegated, hranges]
      simp [token]

/-- Wildcards behind a star do not begin with one. -/
theorem head?_text {ps : List Wildcard} (hvalid : ∀ p ∈ ps, p.isValid = true)
    (h : ps.head? ≠ some run) : (ps.flatMap text).head? ≠ some '*' := by
  cases ps with
  | nil => simp
  | cons p ps =>
      have hp := hvalid p List.mem_cons_self
      cases p with
      | literal c =>
          have hstar := (ordinary_iff.mp hp).1
          simpa [text] using hstar
      | one => simp [text]
      | run => exact absurd rfl h
      | oneOf members => simp [text]

/-- No two stars in a row: none behind the first star, and none further on. -/
theorem apart_cons {p : Wildcard} {ps : List Wildcard} (h : ¬ [run, run] <:+: p :: ps) :
    (p = run → ps.head? ≠ some run) ∧ ¬ [run, run] <:+: ps := by
  constructor
  · rintro rfl hhead
    obtain ⟨ps, rfl⟩ := List.head?_eq_some_iff.mp hhead
    exact h ⟨[], ps, rfl⟩
  · rintro ⟨front, tail, rfl⟩
    exact h ⟨p :: front, tail, rfl⟩

/-- The reader takes the wildcards one by one. -/
theorem readTokens_text {ps : List Wildcard} (hvalid : ∀ p ∈ ps, p.isValid = true)
    (hapart : ¬ [run, run] <:+: ps) {s : State} (houter : s.outer = []) :
    ∃ s', readTokens s (ps.flatMap text) = .ok s' ∧ s'.outer = [] ∧
      s'.level.current = (ps.map token).reverse ++ s.level.current := by
  induction ps generalizing s with
  | nil => exact ⟨s, readTokens.eq_1 s, houter, rfl⟩
  | cons p ps ih =>
      -- a wildcard is one piece for the reader: it has no brace, and a star in it does not become `**`
      obtain ⟨hp, hps⟩ := List.forall_mem_cons.mp hvalid
      obtain ⟨hfirst, hapart⟩ := apart_cons hapart
      have hbrace : ∀ c, p.piece = .plain c → isBrace c = false := by
        intro c hc
        have hmem : c ∈ p.text := by
          rw [← text_piece, hc]
          exact List.mem_singleton_self c
        simpa using List.any_eq_false.mp (any_isBrace_text hp) c hmem
      have hstar : p.piece = .plain '*' → (ps.flatMap text).head? ≠ some '*' := by
        intro hpiece
        refine head?_text hps (hfirst ?_)
        cases p with
        | literal c =>
            obtain rfl := (Piece.plain.inj hpiece)
            cases hp
        | one => cases hpiece
        | run => rfl
        | oneOf members => cases hpiece
      obtain ⟨s', hread, houter', hcurrent⟩ := ih hps hapart (s := s.push p.token p.piece.last) houter
      refine ⟨s', ?_, houter', ?_⟩
      · rw [List.flatMap_cons, ← text_piece, readTokens_piece houter (wellFormed_piece hp) hbrace hstar,
          token_piece hp]
        exact hread
      · rw [hcurrent, List.map_cons, List.reverse_cons, List.append_assoc]
        rfl

end Wildcard

open Wildcard

theorem WildcardGlob.any_isBrace_written (g : WildcardGlob) : g.written.toList.any isBrace = false := by
  unfold WildcardGlob.written
  rw [String.toList_ofList, List.any_flatMap, List.any_eq_false]
  intro p hp
  rw [any_isBrace_text (g.valid p hp)]
  exact Bool.false_ne_true

/-- A glob of wildcards is read to one token for each of them. -/
theorem WildcardGlob.read_written (g : WildcardGlob) :
    Token.read (literalBraces g.written.toList) = .ok (g.pieces.map Wildcard.token) := by
  have hbraces : literalBraces g.written.toList = g.pieces.flatMap Wildcard.text := by
    rw [← String.toList_ofList (l := g.pieces.flatMap Wildcard.text)]
    exact braces_of_braceFree.1 _ g.any_isBrace_written
  obtain ⟨s, hread, houter, hcurrent⟩ :=
    readTokens_text g.valid g.apart (s := .initial) rfl
  rw [hbraces]
  unfold Token.read
  rw [hread]
  simp only [houter, hcurrent, List.isEmpty_nil, if_true]
  rw [List.reverse_append, List.reverse_reverse]
  rfl

namespace Wildcard

/-- A class that lists its members holds the bytes of each. -/
theorem mem_classWords_iff {members : List Char} {w : List Nat} :
    w ∈ classWords false (members.map fun c => (c, c)) ↔
      ∃ c ∈ members, ∃ a ∈ charBytes c, w = [a] := by
  -- a range from a character to itself holds the bytes of that character
  have hranges : (members.map fun c => (c, c)).flatMap (fun r => byteRanges r.1 r.2) =
      members.flatMap fun c => (charBytes c).map fun b => (b, b) := by
    rw [List.flatMap_map]
    refine List.flatMap_congr fun c _ => ?_
    exact if_pos rfl
  unfold classWords
  rw [hranges]
  constructor
  · rintro ⟨b, hb, rfl⟩
    have hany : ∃ c ∈ members, b ∈ charBytes c := by
      simp only [ByteTest.contains, Bool.bne_false, List.any_flatMap, List.any_map,
        List.any_eq_true, Function.comp_apply, Bool.and_eq_true, decide_eq_true_eq] at hb
      obtain ⟨c, hc, a, ha, hle, hge⟩ := hb
      obtain rfl : a = b := Nat.le_antisymm hle hge
      exact ⟨c, hc, ha⟩
    obtain ⟨c, hc, ha⟩ := hany
    exact ⟨c, hc, b, ha, rfl⟩
  · rintro ⟨c, hc, a, ha, rfl⟩
    refine ⟨a, ?_, rfl⟩
    simp only [ByteTest.contains, Bool.bne_false, List.any_flatMap, List.any_map,
      List.any_eq_true, Function.comp_apply, Bool.and_eq_true, decide_eq_true_eq]
    exact ⟨c, hc, a, ha, Nat.le_refl a, Nat.le_refl a⟩

/-- The bytes that fit wildcards are the words of their tokens. -/
theorem fitsBytes_iff (ps : List Wildcard) (w : List Nat) :
    FitsBytes ps w ↔ w ∈ rowWords (ps.map token) := by
  induction ps generalizing w with
  | nil =>
      constructor
      · rintro ⟨⟩
        rfl
      · rintro rfl
        exact .nil
  | cons p ps ih =>
      -- the first wildcard takes a word of its own token, and the rest stays with the other wildcards
      rw [List.map_cons, rowWords_cons, Language.mem_mul]
      constructor
      · intro h
        cases h with
        | @literal c _ v rest =>
            refine ⟨charBytes c, ?_, v, (ih v).mp rest, rfl⟩
            rw [token, rowWords_literal]
            rfl
        | @one a _ v rest =>
            refine ⟨[a], ?_, v, (ih v).mp rest, rfl⟩
            rw [token, rowWords_any]
            exact ⟨a, rfl⟩
        | @oneOf members c a _ v member symbol rest =>
            refine ⟨[a], ?_, v, (ih v).mp rest, rfl⟩
            rw [token, rowWords_oneOf]
            exact mem_classWords_iff.mpr ⟨c, member, a, symbol, rfl⟩
        | @run u _ v rest =>
            refine ⟨u, ?_, v, (ih v).mp rest, rfl⟩
            rw [token, rowWords_anyRun]
            exact mem_top u
      · rintro ⟨u, hu, v, hv, rfl⟩
        have rest := (ih v).mpr hv
        cases p with
        | literal c =>
            rw [token, rowWords_literal] at hu
            obtain rfl := hu
            exact .literal rest
        | one =>
            rw [token, rowWords_any] at hu
            obtain ⟨b, rfl⟩ := hu
            exact .one rest
        | run => exact .run rest
        | oneOf members =>
            rw [token, rowWords_oneOf] at hu
            obtain ⟨c, hc, a, ha, rfl⟩ := mem_classWords_iff.mp hu
            exact .oneOf hc ha rest

theorem token_ne_directoriesFirst (ps : List Wildcard) : ps.map token ≠ [.directoriesFirst] := by
  intro h
  obtain ⟨p, _, rfl, hp, -⟩ := List.map_eq_cons_iff.mp h
  cases p <;> cases hp

/-! ## §3. Bytes and characters. -/

end Wildcard

namespace Glob

/-- A byte of UTF-8 with which no character begins. -/
def isContinuation (b : Nat) : Bool := 0x80 ≤ b && b < 0xC0

/-- The first byte of a character is no continuation, all others are. -/
theorem charBytes_eq_cons (c : Char) : ∃ b bs, charBytes c = b :: bs ∧
    isContinuation b = false ∧ ∀ x ∈ bs, isContinuation x = true := by
  have hval : c.val.toNat = c.toNat := rfl
  have hbyte : ∀ n, (UInt8.ofNat n).toNat = n % 256 := fun n => UInt8.toNat_ofNat'
  unfold charBytes String.utf8EncodeChar isContinuation
  rw [hval]
  -- one, two, three or four bytes
  by_cases hone : c.toNat ≤ 0x7F
  · rw [if_pos hone]
    exact ⟨_, [], rfl, by simp [hbyte]; omega, by simp⟩
  rw [if_neg hone]
  by_cases htwo : c.toNat ≤ 0x7FF
  · rw [if_pos htwo]
    exact ⟨_, _, rfl, by simp [hbyte]; omega, by simp [hbyte]; omega⟩
  rw [if_neg htwo]
  by_cases hthree : c.toNat ≤ 0xFFFF
  · rw [if_pos hthree]
    exact ⟨_, _, rfl, by simp [hbyte]; omega, by simp [hbyte]; omega⟩
  · rw [if_neg hthree]
    exact ⟨_, _, rfl, by simp [hbyte]; omega, by simp [hbyte]; omega⟩

/-- Bytes that begin with those of a character are those of a text that begins with it. -/
theorem exists_of_bytesOf_append {c : Char} {cs : List Char} {bytes : List Nat}
    (h : bytesOf cs = charBytes c ++ bytes) : ∃ rest, cs = c :: rest ∧ bytesOf rest = bytes := by
  have hencoded : ∀ ds : List Char, bytesOf ds = (ds.flatMap String.utf8EncodeChar).map UInt8.toNat := by
    intro ds
    rw [List.map_flatMap]
    rfl
  cases cs with
  | nil =>
      have hnil : charBytes c = [] := (List.append_eq_nil_iff.mp h.symm).1
      exact absurd hnil (charBytes_ne_nil c)
  | cons d cs =>
      obtain ⟨front, tail, hsplit, hfront, -⟩ := List.map_eq_append_iff.mp ((hencoded _).symm.trans h)
      obtain rfl : front = String.utf8EncodeChar c :=
        List.map_injective_iff.mpr (fun _ _ => UInt8.toNat_inj.mp) hfront
      -- what the bytes decode to first is both `c` and `d`
      have hdecode : ∀ (e : Char) (rest : List UInt8),
          (String.utf8EncodeChar e ++ rest).toByteArray.utf8DecodeChar? 0 = some e := by
        intro e rest
        rw [List.toByteArray_append]
        exact ByteArray.utf8DecodeChar?_utf8EncodeChar_append
      rw [List.flatMap_cons] at hsplit
      obtain rfl : d = c := by
        have heq := hdecode d (cs.flatMap String.utf8EncodeChar)
        rw [hsplit, hdecode c tail] at heq
        exact (Option.some.inj heq).symm
      exact ⟨cs, rfl, List.append_cancel_left h⟩

/-- Bytes are cut between characters where no continuation follows. -/
theorem exists_of_bytesOf_eq_append {cs : List Char} {u v : List Nat} (h : bytesOf cs = u ++ v)
    (hv : ∀ b, v.head? = some b → isContinuation b = false) :
    ∃ front tail, cs = front ++ tail ∧ bytesOf front = u ∧ bytesOf tail = v := by
  induction cs generalizing u with
  | nil =>
      obtain ⟨rfl, rfl⟩ := List.append_eq_nil_iff.mp h.symm
      exact ⟨[], [], rfl, rfl, rfl⟩
  | cons c cs ih =>
      cases u with
      | nil => exact ⟨[], c :: cs, rfl, rfl, h⟩
      | cons x u =>
          have hsplit : charBytes c ++ bytesOf cs = x :: u ++ v := h
          rcases List.append_eq_append_iff.mp hsplit with ⟨w, hu, hcs⟩ | ⟨w, hc, rfl⟩
          · obtain ⟨front, tail, rfl, hfront, htail⟩ := ih hcs
            refine ⟨c :: front, tail, rfl, ?_, htail⟩
            rw [hu, ← hfront]
            rfl
          · -- the cut is not inside the first character
            obtain rfl : w = [] := by
              obtain ⟨b, bs, hbytes, -, hbs⟩ := charBytes_eq_cons c
              cases w with
              | nil => rfl
              | cons y w =>
                  rw [hbytes] at hc
                  obtain ⟨-, rfl⟩ := List.cons.inj hc
                  have hy : isContinuation y = true := hbs y (by simp)
                  rw [hv y rfl] at hy
                  cases hy
            exact ⟨[c], cs, rfl, by rw [← List.append_nil (x :: u), ← hc]; exact List.append_nil _, rfl⟩

theorem charBytes_of_lt {c : Char} (h : c.toNat < 0x80) : charBytes c = [c.toNat] := by
  rcases charBytes_ascii c with ⟨-, hbytes⟩ | ⟨hle, -⟩
  · exact hbytes
  · omega

/-- An ASCII character contributes its one byte. -/
theorem bytesOf_cons_of_lt {c : Char} (h : c.toNat < 0x80) (cs : List Char) :
    bytesOf (c :: cs) = c.toNat :: bytesOf cs := by
  show charBytes c ++ bytesOf cs = _
  rw [charBytes_of_lt h]
  rfl

theorem lt_of_mem_bytesOf {cs : List Char} (h : ∀ c ∈ cs, c.toNat < 0x80) {b : Nat}
    (hb : b ∈ bytesOf cs) : b < 0x80 := by
  obtain ⟨c, hc, hmem⟩ := List.mem_flatMap.mp hb
  rw [charBytes_of_lt (h c hc)] at hmem
  rw [List.mem_singleton.mp hmem]
  exact h c hc

theorem isContinuation_of_lt {b : Nat} (h : b < 0x80) : isContinuation b = false := by
  simp [isContinuation, h]

end Glob

namespace Wildcard

/-- Text of which a wildcard can take a character only where it takes one byte. -/
def Agree (ps : List Wildcard) (cs : List Char) : Prop :=
  (∀ c ∈ cs, c.toNat < 0x80) ∨ ∀ p ∈ ps, p.isNarrow = true

theorem Agree.tail {p : Wildcard} {ps : List Wildcard} (front : List Char) {cs : List Char}
    (h : Agree (p :: ps) (front ++ cs)) : Agree ps cs := by
  rcases h with hascii | hnarrow
  · exact .inl fun c hc => hascii c (List.mem_append_right front hc)
  · exact .inr (List.forall_mem_cons.mp hnarrow).2

theorem lt_of_isNarrow {members : List Char} (h : (oneOf members).isNarrow = true) {c : Char}
    (hc : c ∈ members) : c.toNat < 0x80 := by
  simp only [isNarrow, List.all_eq_true, decide_eq_true_eq] at h
  exact h c hc

/-- Where every wildcard that takes one character stands at an ASCII character, what fits by characters
fits by bytes. -/
theorem fitsBytes_of_fitsText {ps : List Wildcard} {cs : List Char} (h : FitsText ps cs)
    (hagree : Agree ps cs) : FitsBytes ps (bytesOf cs) := by
  induction h with
  | nil => exact .nil
  | @literal c ps cs _ ih => exact .literal (ih (hagree.tail [c]))
  | @one a ps cs _ ih =>
      have ha : a.toNat < 0x80 := by
        rcases hagree with hascii | hnarrow
        · exact hascii a List.mem_cons_self
        · cases hnarrow one List.mem_cons_self
      rw [bytesOf_cons_of_lt ha]
      exact .one (ih (hagree.tail [a]))
  | @oneOf members c a ps cs member symbol _ ih =>
      obtain rfl := List.mem_singleton.mp symbol
      have ha : a.toNat < 0x80 := by
        rcases hagree with hascii | hnarrow
        · exact hascii a List.mem_cons_self
        · exact lt_of_isNarrow (hnarrow _ List.mem_cons_self) member
      rw [bytesOf_cons_of_lt ha]
      exact .oneOf member ((mem_charBytes_iff ha).mpr rfl) (ih (hagree.tail [a]))
  | @run u ps cs _ ih =>
      rw [bytesOf_append]
      exact .run (ih (hagree.tail _))

/-- Behind a star the next character begins: the wildcard there takes a whole one, or the text has no
characters of more than one byte. -/
theorem isContinuation_head {ps : List Wildcard} {cs : List Char} {u v : List Nat}
    (hagree : Agree ps cs) (hne : ps.head? ≠ some run) (h : FitsBytes ps v)
    (hbytes : bytesOf cs = u ++ v) (b : Nat) (hb : v.head? = some b) : isContinuation b = false := by
  rcases hagree with hascii | hnarrow
  · refine isContinuation_of_lt (lt_of_mem_bytesOf hascii ?_)
    rw [hbytes]
    exact List.mem_append_right u (List.mem_of_mem_head? hb)
  · cases h with
    | nil => cases hb
    | @literal c _ w _ =>
        obtain ⟨b', bs, hc, hfirst, -⟩ := charBytes_eq_cons c
        rw [hc] at hb
        obtain rfl := Option.some.inj hb
        exact hfirst
    | one _ => cases hnarrow one List.mem_cons_self
    | @oneOf members c a _ _ member symbol _ =>
        have hc : c.toNat < 0x80 := lt_of_isNarrow (hnarrow _ List.mem_cons_self) member
        obtain rfl := Option.some.inj hb
        rw [charBytes_of_lt hc] at symbol
        rw [List.mem_singleton.mp symbol]
        exact isContinuation_of_lt hc
    | run _ => exact absurd rfl hne

/-- Conversely, what fits by bytes fits by characters there: where no star follows a star, the bytes are
cut between two characters. -/
theorem fitsText_of_fitsBytes {ps : List Wildcard} {cs : List Char}
    (hapart : ¬ [run, run] <:+: ps) (hagree : Agree ps cs) (h : FitsBytes ps (bytesOf cs)) :
    FitsText ps cs := by
  induction ps generalizing cs with
  | nil =>
      cases cs with
      | nil => exact .nil
      | cons c cs =>
          generalize hbytes : bytesOf (c :: cs) = bytes at h
          cases h
          exact absurd hbytes (bytesOf_ne_nil (List.cons_ne_nil c cs))
  | cons p ps ih =>
      -- whatever the first wildcard takes, the bytes left are those of the text that is left
      obtain ⟨hfirst, hrest⟩ := apart_cons hapart
      generalize hbytes : bytesOf cs = bytes at h
      cases h with
      | @literal c _ w rest =>
          obtain ⟨cs, rfl, rfl⟩ := exists_of_bytesOf_append hbytes
          exact .literal (ih hrest (hagree.tail [c]) rest)
      | @one a _ w rest =>
          rcases hagree with hascii | hnarrow
          · cases cs with
            | nil => cases hbytes
            | cons c cs =>
                rw [bytesOf_cons_of_lt (hascii c List.mem_cons_self)] at hbytes
                obtain ⟨-, rfl⟩ := List.cons.inj hbytes
                exact .one (ih hrest (.inl (List.forall_mem_cons.mp hascii).2) rest)
          · cases hnarrow one List.mem_cons_self
      | @oneOf members c a _ w member symbol rest =>
          have hc : c.toNat < 0x80 := by
            rcases hagree with hascii | hnarrow
            · have ha : a < 0x80 := lt_of_mem_bytesOf hascii (by simp [hbytes])
              rcases charBytes_ascii c with ⟨hc, -⟩ | ⟨-, hlarge⟩
              · exact hc
              · have := hlarge a symbol
                omega
            · exact lt_of_isNarrow (hnarrow _ List.mem_cons_self) member
          rw [charBytes_of_lt hc] at symbol
          rw [List.mem_singleton.mp symbol] at hbytes
          obtain ⟨cs, rfl, rfl⟩ := exists_of_bytesOf_cons hc hbytes
          exact .oneOf member (List.mem_singleton_self c)
            (ih hrest (hagree.tail [c]) rest)
      | @run u _ w rest =>
          -- a star could end inside a character, but nothing that follows it can begin there
          have hagree' : Agree ps cs := hagree.tail []
          obtain ⟨front, tail, rfl, -, rfl⟩ := exists_of_bytesOf_eq_append hbytes
            (isContinuation_head hagree' (hfirst rfl) rest hbytes)
          exact .run (ih hrest (hagree.tail _) rest)

/-- **Bytes and characters.** Where a wildcard takes one byte whenever it takes one character, bytes fit
exactly when the characters do. -/
theorem fitsBytes_iff_fitsText {ps : List Wildcard} {cs : List Char}
    (hapart : ¬ [run, run] <:+: ps) (hagree : Agree ps cs) :
    FitsBytes ps (bytesOf cs) ↔ FitsText ps cs :=
  ⟨fitsText_of_fitsBytes hapart hagree, fun h => fitsBytes_of_fitsText h hagree⟩

end Wildcard

/-! ## §4. Compiled globs. -/

namespace PathGlobs

/-- A glob of wildcards compiles. -/
theorem isOk_ofStrings_wildcards (g : WildcardGlob) (hsize : g.written.utf8ByteSize ≤ 4096) :
    (ofStrings [g.written]).isOk = true := by
  obtain ⟨gs, hgs, -⟩ :=
    exists_of_read hsize (classesClose_of_braceFree g.any_isBrace_written) g.read_written
  exact except_isOk_iff.mpr ⟨gs, hgs⟩

/-- What a glob of wildcards answers is what the strategy of its tokens answers. -/
theorem accepts_wildcards (g : WildcardGlob) (hsize : g.written.utf8ByteSize ≤ 4096)
    {gs : PathGlobs} (hgs : ofStrings [g.written] = .ok gs) (path : String) :
    gs.accepts path =
      (Strategy.ofTokens (g.pieces.map token)).matches (g.pieces.map token) (pathBytes path) := by
  obtain ⟨gs', hgs', haccepts⟩ :=
    exists_of_read hsize (classesClose_of_braceFree g.any_isBrace_written) g.read_written
  obtain rfl : gs' = gs := Except.ok.inj (hgs'.symm.trans hgs)
  exact haccepts path

/-- The bytes that fit a glob of wildcards are its words. -/
theorem fitsBytes_iff_globWords (g : WildcardGlob) (path : List Nat) :
    FitsBytes g.pieces path ↔ path ∈ globWords (g.pieces.map token) := by
  rw [globWords_eq (token_ne_directoriesFirst g.pieces)]
  exact fitsBytes_iff g.pieces path

/-- **Wildcards take bytes.** A glob of literal characters, `?`, `*` and listed classes always compiles.
It accepts a path whose last component is not `..` exactly when the bytes of the path can be cut so that
each wildcard gets what it stands for, `?` and a class one byte each. On a path of ASCII characters, and
for a glob without `?` whose classes list ASCII characters only, these are the paths whose characters can
be cut so. -/
theorem accepts_iff_fitsBytes (g : WildcardGlob) (hsize : g.written.utf8ByteSize ≤ 4096) :
    (ofStrings [g.written]).isOk = true ∧
      ∀ gs, ofStrings [g.written] = .ok gs → ∀ path : String,
        FilePath.lastComponent path.toList.reverse ≠ ['.', '.'] →
          (gs.accepts path = true ↔ FitsBytes g.pieces (pathBytes path)) ∧
            ((∀ c ∈ path.toList, c.toNat < 0x80) ∨ (∀ p ∈ g.pieces, p.isNarrow = true) →
              (gs.accepts path = true ↔ FitsText g.pieces path.toList)) := by
  refine ⟨isOk_ofStrings_wildcards g hsize, fun gs hgs path hpath => ?_⟩
  have hbytes : gs.accepts path = true ↔ FitsBytes g.pieces (pathBytes path) := by
    rw [accepts_wildcards g hsize hgs, Strategy.matches_ofTokens_iff _ (lastName_pathBytes hpath),
      fitsBytes_iff_globWords]
  refine ⟨hbytes, fun hagree => ?_⟩
  rw [hbytes]
  exact fitsBytes_iff_fitsText g.apart hagree

/-- The glob `é*[ab].rs`. -/
def accentedGlob : WildcardGlob where
  pieces := [.literal 'é', .run, .oneOf ['a', 'b'], .literal '.', .literal 'r', .literal 's']
  valid := by decide
  apart := by decide

/-- A glob with a class and a literal of two bytes, on a path that has it twice. -/
theorem accepts_iff_fitsBytes_accented :
    accentedGlob.written = "é*[ab].rs" ∧ accentedGlob.written.utf8ByteSize ≤ 4096 ∧
      FilePath.lastComponent "é/é/b.rs".toList.reverse ≠ ['.', '.'] ∧
      (∀ p ∈ accentedGlob.pieces, p.isNarrow = true) ∧
      ∃ gs, ofStrings [accentedGlob.written] = .ok gs ∧ gs.accepts "é/é/b.rs" = true ∧
        FitsBytes accentedGlob.pieces (pathBytes "é/é/b.rs") ∧
        FitsText accentedGlob.pieces "é/é/b.rs".toList := by
  have hwritten : accentedGlob.written = "é*[ab].rs" := by decide +kernel
  have hsize : accentedGlob.written.utf8ByteSize ≤ 4096 := by
    rw [hwritten]
    decide
  have hpath : FilePath.lastComponent "é/é/b.rs".toList.reverse ≠ ['.', '.'] := by decide +kernel
  have hnarrow : ∀ p ∈ accentedGlob.pieces, p.isNarrow = true := by decide
  obtain ⟨hok, haccepts⟩ := accepts_iff_fitsBytes accentedGlob hsize
  refine ⟨hwritten, hsize, hpath, hnarrow, ?_⟩
  cases hgs : ofStrings [accentedGlob.written] with
  | error e => rw [hgs] at hok; cases hok
  | ok gs =>
      obtain ⟨hbytes, htext⟩ := haccepts gs hgs _ hpath
      have haccepted : gs.accepts "é/é/b.rs" = true := by
        rw [accepts_eq_any, written_ofStrings hgs, hwritten]
        decide +kernel
      exact ⟨gs, rfl, haccepted, hbytes.mp haccepted, (htext (.inr hnarrow)).mp haccepted⟩

/-- The glob `?`. -/
def oneGlob : WildcardGlob where
  pieces := [.one]
  valid := by decide
  apart := by decide

/-- `?` does not accept a path of one character of two bytes. -/
theorem one_refuses_twoByteCharacter :
    oneGlob.written = "?" ∧ oneGlob.written.utf8ByteSize ≤ 4096 ∧
      FilePath.lastComponent "é".toList.reverse ≠ ['.', '.'] ∧
      FitsText oneGlob.pieces "é".toList ∧
      ∃ gs, ofStrings [oneGlob.written] = .ok gs ∧ gs.accepts "é" = false := by
  have hwritten : oneGlob.written = "?" := by decide +kernel
  have hok : (ofStrings ["?"]).isOk = true := by
    rw [isOk_ofStrings]
    decide +kernel
  rw [hwritten]
  refine ⟨rfl, by decide, by decide +kernel, .one .nil, ?_⟩
  cases hgs : ofStrings ["?"] with
  | error e => rw [hgs] at hok; cases hok
  | ok gs =>
      refine ⟨gs, rfl, ?_⟩
      rw [accepts_eq_any, written_ofStrings hgs]
      decide +kernel

end PathGlobs
end PullTriage
