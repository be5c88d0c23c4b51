import PullTriage.Proofs.GlobPieces
import PullTriage.Proofs.GlobWords

/-!
  PullTriage.Proofs.GlobDialect: the globs in which braces are ordinary characters.

  What a glob means is said on its pieces.  A plain `?` stands for one byte and a plain `*` for any
  bytes; a class stands for one of the bytes it holds; every other piece stands for the bytes of its
  character, a brace like any other.  One rule looks at more than one piece: where a component of the
  path may begin, `**` and a slash may also stand for nothing.  A glob that repeats only this rule
  stands for every path.

  Layers:
    * §1: which globs are valid;
    * §2: what a valid glob stands for, as rules and as equations between languages;
    * §3: a brace means the same as a class that holds only it.

  Main definitions: `Cut.isValid`, `Spells`, `Cut.Accepts`.
  Main statements: `isValid_protect`, `accepts_protect`.
-/

namespace PullTriage.Glob

/-! ## §1. Valid globs. -/

/-- Read one more member of a class; a hyphen is read as such. -/
def ClassState.member (k : ClassState) (c : Char) : Except Problem ClassState :=
  if c = '-' then k.hyphen else k.add c

/-- The class that members stand for; a range of it must not run downwards. -/
def Piece.classOf (mark : Option Char) (members : List Char) : Except Problem ClassState :=
  members.foldlM ClassState.member ⟨mark.isSome, [], true, false⟩

/-- Whether the ranges of a class run upwards. -/
def Piece.isValid : Piece → Bool
  | bracket mark members => (classOf mark members).isOk
  | _ => true

/-- Whether a glob is well formed: it does not break off in a piece, and its classes are valid. -/
def Cut.isValid (c : Cut) : Bool := c.rest.isEmpty && c.pieces.all Piece.isValid

/-! ## §2. What globs stand for. -/

/-- The language of one piece. -/
def Piece.words : Piece → Language Nat
  | plain c => if c = '?' then oneByte else if c = '*' then ⊤ else {charBytes c}
  | escaped c => {charBytes c}
  | bracket mark members =>
    match classOf mark members with
    | .ok k => rowWords [k.close]
    | .error _ => 0

/-- Whether a piece is a slash, so that a component begins behind it. -/
def Piece.isSlash : Piece → Bool
  | plain c => c == '/'
  | escaped c => c == '/'
  | bracket _ _ => false

/-- `Spells fresh ps w`: the pieces `ps` stand for the bytes `w`. `fresh` says that a component of the
path may begin at the first piece. -/
inductive Spells : Bool → List Piece → List Nat → Prop
  | nil {fresh} : Spells fresh [] []
  | cons {fresh p ps u v} (first : u ∈ p.words) (rest : Spells p.isSlash ps v) :
      Spells fresh (p :: ps) (u ++ v)
  /-- `**` and a slash may be left out where a component begins. -/
  | skip {ps w} (rest : Spells true ps w) :
      Spells true (.plain '*' :: .plain '*' :: .plain '/' :: ps) w

/-- Whether pieces are `**` and a slash over and over. -/
def onlyDirectories : List Piece → Bool
  | [] => true
  | .plain '*' :: .plain '*' :: .plain '/' :: ps => onlyDirectories ps
  | _ => false

/-- Whether a glob accepts a path. -/
def Cut.Accepts (c : Cut) (path : List Nat) : Prop :=
  Spells true c.pieces path ∨ (c.pieces ≠ [] ∧ onlyDirectories c.pieces = true)

/-! The rules as equations between languages. -/

/-- The language of pieces. -/
def spelled (fresh : Bool) (ps : List Piece) : Language Nat := {w | Spells fresh ps w}

theorem spelled_nil (fresh : Bool) : spelled fresh [] = 1 := by
  ext w
  constructor
  · rintro ⟨⟩
    rfl
  · rintro rfl
    exact .nil

/-- Apart from `**` and a slash where a component begins, pieces stand for the product of what each
stands for. -/
theorem spelled_cons {fresh : Bool} {p : Piece} {ps : List Piece}
    (h : fresh = true → ∀ rest, p :: ps ≠ .plain '*' :: .plain '*' :: .plain '/' :: rest) :
    spelled fresh (p :: ps) = p.words * spelled p.isSlash ps := by
  ext w
  rw [Language.mem_mul]
  constructor
  · rintro (_ | ⟨first, rest⟩ | rest)
    · exact ⟨_, first, _, rest, rfl⟩
    · exact absurd rfl (h rfl _)
  · rintro ⟨u, first, v, rest, rfl⟩
    exact .cons first rest

theorem words_star : (Piece.plain '*').words = ⊤ := rfl

/-- `**` and a slash where a component begins stand for directories. -/
theorem spelled_directories (ps : List Piece) :
    spelled true (.plain '*' :: .plain '*' :: .plain '/' :: ps) = directories * spelled true ps := by
  have hslash : spelled false (.plain '/' :: ps) = oneSlash * spelled true ps :=
    spelled_cons (fun h => nomatch h)
  have hstar : spelled false (.plain '*' :: .plain '/' :: ps) =
      ⊤ * spelled false (.plain '/' :: ps) := spelled_cons (fun h => nomatch h)
  have hsum : spelled true (.plain '*' :: .plain '*' :: .plain '/' :: ps) =
      ⊤ * spelled false (.plain '*' :: .plain '/' :: ps) + spelled true ps := by
    ext w
    rw [Language.mem_add, Language.mem_mul]
    constructor
    · rintro (_ | ⟨first, rest⟩ | rest)
      · exact .inl ⟨_, first, _, rest, rfl⟩
      · exact .inr rest
    · rintro (⟨u, first, v, rest, rfl⟩ | rest)
      · exact .cons first rest
      · exact .skip rest
  rw [hsum, hstar, hslash, ← mul_assoc, ← mul_assoc, top_mul_top]
  unfold directories
  rw [add_mul, one_mul, add_comm]

/-- The bytes of the characters of a piece. -/
def Piece.bytes : Piece → List Nat
  | plain c => charBytes c
  | escaped c => charBytes c
  | bracket _ members => members.flatMap charBytes

/-- Pieces that stand for nothing but their characters stand for these in a row. -/
theorem spelled_of_single {ps : List Piece} (h : ∀ p ∈ ps, p.words = {p.bytes}) (fresh : Bool) :
    spelled fresh ps = {ps.flatMap Piece.bytes} := by
  induction ps generalizing fresh with
  | nil => exact spelled_nil fresh
  | cons p ps ih =>
      obtain ⟨hp, hps⟩ := List.forall_mem_cons.mp h
      have hstar : p ≠ .plain '*' := by
        rintro rfl
        have hlonger : 0 :: Piece.bytes (.plain '*') ∈ (Piece.plain '*').words := mem_top _
        rw [hp] at hlonger
        exact List.cons_ne_self _ _ hlonger
      rw [spelled_cons, hp, ih hps, single_mul_single]
      · rfl
      · rintro - rest heq
        exact hstar (List.cons.inj heq).1

/-! ## §3. Braces in classes of their own. -/

/-- There are two braces. -/
theorem brace_cases {c : Char} (h : isBrace c = true) : c = '\x7b' ∨ c = '\x7d' := by
  simpa [isBrace] using h

/-- Protecting a piece replaces a plain brace by a class, and nothing else. -/
theorem protect_cases (p : Piece) : p.protect = p ∨
    ∃ c, (c = '\x7b' ∨ c = '\x7d') ∧ p = .plain c ∧ p.protect = .bracket none [c] := by
  cases p with
  | plain c =>
      by_cases hbrace : isBrace c = true
      · exact .inr ⟨c, brace_cases hbrace, rfl, by simp [Piece.protect, hbrace]⟩
      · exact .inl (by simp [Piece.protect, hbrace])
  | escaped c => exact .inl rfl
  | bracket mark members => exact .inl rfl

/-- A class of one byte holds that byte. -/
theorem contains_single (n b : Nat) :
    (ByteTest.oneOf false [(n, n)]).contains b = true ↔ b = n := by
  have hrange : n ≤ b ∧ b ≤ n ↔ b = n := by omega
  simpa [ByteTest.contains] using hrange

/-- A class that holds one byte stands for it. -/
theorem rowWords_single (c : Char) {n : Nat} (h : byteRanges c c = [(n, n)]) :
    rowWords [.oneOf false [(c, c)]] = {[n]} := by
  rw [rowWords_oneOf]
  have hranges : ([(c, c)] : List (Char × Char)).flatMap (fun r => byteRanges r.1 r.2) = [(n, n)] := by
    rw [List.flatMap_singleton, h]
  unfold classWords
  rw [hranges]
  ext w
  constructor
  · rintro ⟨b, hb, rfl⟩
    rw [(contains_single n b).mp hb]
    rfl
  · rintro rfl
    exact ⟨n, (contains_single n n).mpr rfl, rfl⟩

/-- A brace stands for its byte, plain or in a class. -/
theorem words_protect (p : Piece) : p.protect.words = p.words := by
  rcases protect_cases p with h | ⟨c, rfl | rfl, rfl, h⟩
  · rw [h]
  · rw [h]
    exact rowWords_single '\x7b' rfl
  · rw [h]
    exact rowWords_single '\x7d' rfl

theorem isSlash_protect (p : Piece) : p.protect.isSlash = p.isSlash := by
  rcases protect_cases p with h | ⟨c, rfl | rfl, rfl, h⟩ <;> rw [h] <;> rfl

theorem isValid_piece_protect (p : Piece) : p.protect.isValid = p.isValid := by
  rcases protect_cases p with h | ⟨c, rfl | rfl, rfl, h⟩ <;> rw [h] <;> rfl

/-- A piece that is plain when protected was plain before. -/
theorem protect_eq_plain {p : Piece} {c : Char} (h : p.protect = .plain c) : p = .plain c := by
  rcases protect_cases p with hp | ⟨c, -, -, hp⟩
  · rwa [hp] at h
  · rw [hp] at h
    cases h

/-- A `**` with its slash is one before the protection, too. -/
theorem map_protect_eq_directories {ps rest : List Piece}
    (h : ps.map Piece.protect = .plain '*' :: .plain '*' :: .plain '/' :: rest) :
    ∃ rest', ps = .plain '*' :: .plain '*' :: .plain '/' :: rest' := by
  obtain ⟨p, ps, rfl, hp, h⟩ := List.map_eq_cons_iff.mp h
  obtain ⟨q, ps, rfl, hq, h⟩ := List.map_eq_cons_iff.mp h
  obtain ⟨r, ps, rfl, hr, -⟩ := List.map_eq_cons_iff.mp h
  rw [protect_eq_plain hp, protect_eq_plain hq, protect_eq_plain hr]
  exact ⟨ps, rfl⟩

/-- **Protected pieces are spelled as before.** -/
theorem spelled_protect (fresh : Bool) (ps : List Piece) :
    spelled fresh (ps.map Piece.protect) = spelled fresh ps := by
  induction hlength : ps.length using Nat.strongRecOn generalizing fresh ps with
  | ind n ih =>
      by_cases hskip : fresh = true ∧ ∃ rest, ps = .plain '*' :: .plain '*' :: .plain '/' :: rest
      · obtain ⟨rfl, rest, rfl⟩ := hskip
        have hrest := ih rest.length (by simp at hlength; omega) true rest rfl
        show spelled true (.plain '*' :: .plain '*' :: .plain '/' :: rest.map Piece.protect) = _
        rw [spelled_directories, spelled_directories, hrest]
      · cases ps with
        | nil => rfl
        | cons p ps =>
            have hrest := ih ps.length (by simp at hlength; omega) p.isSlash ps rfl
            rw [List.map_cons, spelled_cons, spelled_cons, words_protect, isSlash_protect, hrest]
            · rintro rfl rest heq
              exact hskip ⟨rfl, rest, heq⟩
            · rintro rfl rest heq
              exact hskip ⟨rfl, map_protect_eq_directories heq⟩

/-- Protecting makes no glob of directories only, and unmakes none. -/
theorem onlyDirectories_protect (ps : List Piece) :
    onlyDirectories (ps.map Piece.protect) = onlyDirectories ps := by
  induction ps using onlyDirectories.induct with
  | case1 => rfl
  | case2 ps ih => exact ih
  | case3 ps hne hnot =>
      rw [onlyDirectories.eq_3 ps hne hnot]
      apply onlyDirectories.eq_3
      · intro hnil
        exact hne (List.map_eq_nil_iff.mp hnil)
      · intro rest heq
        obtain ⟨rest', hps⟩ := map_protect_eq_directories heq
        exact hnot rest' hps

/-- Protecting a glob keeps it valid or not valid. -/
theorem isValid_protect (c : Cut) : c.protect.isValid = c.isValid := by
  unfold Cut.isValid Cut.protect
  rw [List.all_map]
  congr 2
  funext p
  exact isValid_piece_protect p

/-- **Braces mean themselves.** A glob accepts the same paths when its plain braces are put into classes
of their own. -/
theorem accepts_protect (c : Cut) (path : List Nat) : c.protect.Accepts path ↔ c.Accepts path := by
  have hspells : Spells true (c.pieces.map Piece.protect) path ↔ Spells true c.pieces path := by
    show path ∈ spelled true (c.pieces.map Piece.protect) ↔ path ∈ spelled true c.pieces
    rw [spelled_protect]
  unfold Cut.Accepts Cut.protect
  rw [hspells, onlyDirectories_protect, ne_eq, List.map_eq_nil_iff]

end PullTriage.Glob
