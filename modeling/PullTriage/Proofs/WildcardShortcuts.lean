import PullTriage.Proofs.WildcardGlobs

/-!
  PullTriage.Proofs.WildcardShortcuts: shortcuts on paths that end in `..`.

  A path whose last component is `..` has no file name and no extension, so the strategies that ask for
  one refuse it whatever the glob says.  The glob `*.` asks for the extension `.`, and `?.` and `a*.` for
  it and the pattern; `*..` asks for an end of the path and `*?` for the pattern only.

      accepts  ⇔  the bytes fit  ∧  ¬ (the last component is `..`  ∧  the glob ends in a point)

  where a glob does not count as ending in a point if it is literal, or a star and at least two
  literal characters.

  Layers:
    * §1: on such a path a strategy answers like its pattern unless it asks for the name;
    * §2: which globs of wildcards ask for the name there;
    * §3: compiled globs.

  Main statement: `PathGlobs.accepts_iff_fitsText`.
-/

namespace PullTriage

open Glob

/-! ## §1. Strategies that ask for the name. -/

namespace Glob

/-- Whether a strategy asks for the file name of a path or for its extension. -/
def Strategy.readsName : Strategy → Bool
  | .fileName _ => true
  | .extension _ => true
  | .requiredExtension _ => true
  | _ => false

section Parent

variable {ts : List Token} {path : List Nat} (hname : lastName path = [0x2E, 0x2E])

include hname

/-- A path whose last name is `..` has no file name. -/
theorem fileName_of_parent : fileName path = [] := by
  unfold fileName
  exact if_pos hname

/-- So a shortcut that reads the file name or its extension says no there. -/
theorem Strategy.matches_of_readsName {s : Strategy} (h : s.readsName = true) :
    s.matches ts path = false := by
  cases s with
  | fileName name => simp [Strategy.matches, fileName_of_parent hname]
  | extension ext => simp [Strategy.matches, fileName_of_parent hname, Glob.extension]
  | requiredExtension ext => simp [Strategy.matches, fileName_of_parent hname, Glob.extension]
  | whole _ => cases h
  | beginning _ => cases h
  | ending _ _ => cases h
  | pattern => cases h

/-- Only the point fits as an extension of `..`. -/
theorem extension_of_parent {ext : List Char} (hpoint : '.' ∉ ext) (hslash : '/' ∉ ext)
    (h : path ∈ ⊤ * ({bytesOf ('.' :: ext)} : Language Nat)) : ext = [] := by
  have hext : extension (lastName path) = 0x2E :: bytesOf ext :=
    (extension_lastName_eq_iff (notMem_bytesOf (a := '.') (by decide) hpoint)
      (notMem_bytesOf (a := '/') (by decide) hslash)).mpr h
  have hdots : extension (lastName path) = [0x2E] := by
    rw [hname]
    decide
  rw [hdots] at hext
  by_contra hne
  exact bytesOf_ne_nil hne (List.cons.inj hext).2.symm

end Parent

theorem readsName_of_fileName? {ts : List Token} {s : Strategy} (h : fileName? ts = some s) :
    s.readsName = true := by
  unfold fileName? at h
  split at h
  case h_2 => cases h
  case h_1 =>
    split at h
    case h_2 => cases h
    case h_1 =>
      split at h
      case isTrue => cases h
      case isFalse =>
        obtain rfl := Option.some.inj h
        rfl

theorem readsName_of_whole? {ts : List Token} {s : Strategy} (h : whole? ts = some s) :
    s.readsName = false := by
  unfold whole? at h
  split at h
  case h_1 =>
    obtain rfl := Option.some.inj h
    rfl
  case h_2 => cases h

/-- **Shortcuts on `..`.** The strategy of a glob answers like its pattern on a path whose last component
is `..`, unless it asks for the name, and then it refuses the path. -/
theorem Strategy.matches_ofTokens_of_parent (ts : List Token) {path : List Nat}
    (hname : lastName path = [0x2E, 0x2E]) :
    (Strategy.ofTokens ts).matches ts path = true ↔
      path ∈ globWords ts ∧ (Strategy.ofTokens ts).readsName = false := by
  have hreads : ∀ s : Strategy, s.readsName = true →
      (s.matches ts path = true ↔ path ∈ globWords ts ∧ s.readsName = false) := by
    intro s hs
    rw [matches_of_readsName hname hs, hs]
    simp
  have hanswers : ∀ s : Strategy, s.readsName = false → Answers ts path s →
      (s.matches ts path = true ↔ path ∈ globWords ts ∧ s.readsName = false) := by
    intro s hs h
    rw [hs]
    exact h.trans ⟨fun hmem => ⟨hmem, rfl⟩, And.left⟩
  -- in the order in which the strategies are tried
  unfold Strategy.ofTokens
  cases hfile : fileName? ts with
  | some s => exact hreads s (readsName_of_fileName? hfile)
  | none =>
  cases hwhole : whole? ts with
  | some s => exact hanswers s (readsName_of_whole? hwhole) (answers_whole hwhole)
  | none =>
  cases hextension : extension? ts with
  | some s =>
      obtain ⟨_, _, _, _, _, _, rfl⟩ := extension?_shape hextension
      exact hreads _ rfl
  | none =>
  cases hbeginning : beginning? ts with
  | some s =>
      have hs : s.readsName = false := by
        obtain ⟨_, _, _, _, _, rfl⟩ := beginning?_shape hwhole hbeginning
        rfl
      exact hanswers s hs (answers_beginning hwhole hbeginning)
  | none =>
  cases hending : ending? ts with
  | some s =>
      have hs : s.readsName = false := by
        obtain ⟨_, _, _, rfl⟩ | ⟨_, _, _, _, rfl⟩ := ending?_shape hwhole hending <;> rfl
      exact hanswers s hs (answers_ending hwhole hending)
  | none =>
  cases hrequired : requiredExtension? ts with
  | some s =>
      obtain ⟨_, _, rfl⟩ := Option.map_eq_some_iff.mp hrequired
      exact hreads _ rfl
  | none => exact hanswers _ rfl (patternMatches_iff ts path)

end Glob

/-! ## §2. Globs that end in a point. -/

namespace Wildcard

/-- Whether the shortcut of a glob asks for an extension that is only a point: the glob ends in a point,
and is neither literal nor a star and at least two literal characters. -/
def EndsInPoint (ps : List Wildcard) : Prop :=
  ps.getLast? = some (literal '.') ∧ (∀ cs : List Char, ps ≠ cs.map literal) ∧
    ∀ cs : List Char, ps = run :: cs.map literal → cs.length < 2

/-- A star and literal characters end in a point only if there is nothing else between. -/
theorem endsInPoint_run_literals {tail : List Char} :
    EndsInPoint (run :: tail.map literal) ↔ tail = ['.'] := by
  constructor
  · rintro ⟨hlast, -, hrun⟩
    have hshort := hrun tail rfl
    match tail, hshort with
    | [], _ => cases hlast
    | [c], _ => simpa using hlast
  · rintro rfl
    refine ⟨rfl, fun cs => ?_, fun cs hcs => ?_⟩
    · cases cs <;> simp
    · obtain ⟨-, hcs⟩ := List.cons.inj hcs
      rw [← List.length_map literal, ← hcs]
      decide

/-- A literal token comes from a written literal only. -/
theorem token_eq_literal {p : Wildcard} {c : Char} (h : p.token = .literal c) : p = literal c := by
  cases p with
  | literal d =>
      obtain rfl := Token.literal.inj h
      rfl
  | one => cases h
  | run => cases h
  | oneOf members => cases h

/-- A `*` token comes from a written `*` only: the two starred forms of a directory are not written by
these globs. -/
theorem token_eq_anyRun {p : Wildcard} (h : p.token = .anyRun) : p = run := by
  cases p with
  | run => rfl
  | literal c => cases h
  | one => cases h
  | oneOf members => cases h

theorem map_token_literals (cs : List Char) : (cs.map literal).map token = cs.map Token.literal := by
  rw [List.map_map]
  rfl

/-- Tokens that are all literals come from a glob written without wildcards. -/
theorem map_token_eq_literals {ps : List Wildcard} {cs : List Char}
    (h : ps.map token = cs.map Token.literal) : ps = cs.map literal := by
  induction ps generalizing cs with
  | nil =>
      obtain rfl : cs = [] := List.map_eq_nil_iff.mp h.symm
      rfl
  | cons p ps ih =>
      cases cs with
      | nil => cases h
      | cons c cs =>
          obtain ⟨hp, hps⟩ := List.cons.inj h
          rw [token_eq_literal hp, ih hps]
          rfl

/-- Tokens `*` and literals come from a glob written that way, which is where the extension shortcut
applies. -/
theorem map_token_eq_run {ps : List Wildcard} {cs : List Char}
    (h : ps.map token = .anyRun :: cs.map Token.literal) : ps = run :: cs.map literal := by
  obtain ⟨p, ps, rfl, hp, hps⟩ := List.map_eq_cons_iff.mp h
  rw [token_eq_anyRun hp, map_token_eq_literals hps]

theorem getLast?_map_token {ps : List Wildcard} {c : Char}
    (h : ps.getLast? = some (literal c)) : (ps.map token).getLast? = some (.literal c) := by
  rw [List.getLast?_map, h]
  rfl

theorem fileName?_map_token (ps : List Wildcard) : fileName? (ps.map token) = none := by
  unfold fileName?
  split
  case h_1 heq =>
    obtain ⟨p, _, rfl, hp, -⟩ := List.map_eq_cons_iff.mp heq
    cases p <;> cases hp
  case h_2 => rfl

/-- No token of a wildcard is `**`. -/
theorem front_eq_nil {front rest : List Token} {ps : List Wildcard}
    (hfront : front = [] ∨ front = [.directoriesFirst]) (h : ps.map token = front ++ rest) :
    front = [] := by
  rcases hfront with rfl | rfl
  · rfl
  · obtain ⟨p, _, rfl, hp, -⟩ := List.map_eq_cons_iff.mp h
    cases p <;> cases hp

/-- A star and at least two literal characters ask for an end of the path. -/
theorem ending?_literals {cs : List Char} (h : 2 ≤ cs.length) :
    (ending? (.anyRun :: cs.map .literal)).isSome = true := by
  match cs, h with
  | c :: d :: cs, _ =>
    have hliteral : literals? (.literal c :: .literal d :: cs.map .literal) = some (c :: d :: cs) :=
      literals?_eq_some_iff.mpr rfl
    simp [ending?, hliteral]

/-- A point at the end is an extension to ask for. -/
theorem requiredExtension?_point {ts : List Token} (h : ts.getLast? = some (.literal '.')) :
    (requiredExtension? ts).isSome = true := by
  obtain ⟨front, rfl⟩ := List.getLast?_eq_some_iff.mp h
  unfold requiredExtension?
  rw [List.reverse_append]
  rfl

/-- A glob whose last wildcard is a point asks for no beginning. -/
theorem beginning?_point {ts : List Token} (hwhole : whole? ts = none)
    (h : ts.getLast? = some (.literal '.')) : beginning? ts = none := by
  cases hbeginning : beginning? ts with
  | none => rfl
  | some s =>
      obtain ⟨cs, last, _, hlast, rfl, -⟩ := beginning?_shape hwhole hbeginning
      rw [List.getLast?_concat] at h
      obtain rfl := Option.some.inj h
      rcases hlast with ⟨hlast, -⟩ | ⟨hlast, -⟩ <;> cases hlast

/-- A glob with a wildcard in it is not compared as a whole. -/
theorem whole?_eq_none {ps : List Wildcard} (h : ∀ cs : List Char, ps ≠ cs.map literal) :
    whole? (ps.map token) = none := by
  unfold whole?
  split
  case h_1 c cs hliteral =>
    exact absurd (map_token_eq_literals (literals?_eq_some_iff.mp hliteral)) (h (c :: cs))
  case h_2 => rfl

/-- A glob that ends in a point asks for the name. -/
theorem readsName_of_endsInPoint {ps : List Wildcard} (h : EndsInPoint ps) :
    (Strategy.ofTokens (ps.map token)).readsName = true := by
  obtain ⟨hlast, hliteral, hrun⟩ := h
  have hlast' := getLast?_map_token hlast
  have hwhole := whole?_eq_none hliteral
  unfold Strategy.ofTokens
  rw [fileName?_map_token, hwhole, beginning?_point hwhole hlast']
  cases hextension : extension? (ps.map token) with
  | some s =>
      obtain ⟨_, _, _, _, _, _, rfl⟩ := extension?_shape hextension
      rfl
  | none =>
  cases hending : ending? (ps.map token) with
  | some s =>
      -- a star and literal characters, of which only the point is possible
      have hshape : ∃ cs : List Char, ps = run :: cs.map literal := by
        rcases ending?_shape hwhole hending with ⟨cs, -, hts, -⟩ | ⟨front, cs, hfront, hts, -⟩
        · have hnil : [Token.directoriesFirst] = [] := front_eq_nil (.inr rfl) hts
          cases hnil
        · rw [front_eq_nil hfront hts] at hts
          exact ⟨cs, map_token_eq_run hts⟩
      obtain ⟨cs, rfl⟩ := hshape
      have hshort := hrun cs rfl
      match cs, hshort with
      | [], _ => cases hlast
      | [c], _ =>
          obtain rfl : c = '.' := by simpa using hlast
          cases hextension
  | none =>
      obtain ⟨s, hrequired⟩ := Option.isSome_iff_exists.mp (requiredExtension?_point hlast')
      rw [hrequired]
      obtain ⟨_, _, rfl⟩ := Option.map_eq_some_iff.mp hrequired
      rfl

/-- The shortcut by a required extension, the last one to be tried. -/
theorem endsInPoint_of_requiredExtension? {ps : List Wildcard} {path : List Nat} {s : Strategy}
    (hname : lastName path = [0x2E, 0x2E]) (hpath : path ∈ globWords (ps.map token))
    (hwhole : whole? (ps.map token) = none) (hending : ending? (ps.map token) = none)
    (hrequired : requiredExtension? (ps.map token) = some s) : EndsInPoint ps := by
  obtain ⟨_, hgo, -⟩ := Option.map_eq_some_iff.mp hrequired
  obtain ⟨ext, front, hpoint, hslash, hts, -⟩ := requiredExtension?_go_shape hgo
  have hts : ps.map token = front.reverse ++ ('.' :: ext).map .literal := by
    rw [← List.reverse_reverse (ps.map token), hts]
    simp
  rw [hts] at hpath
  obtain rfl := extension_of_parent hname hpoint hslash (ends_of_globWords hpath)
  refine ⟨?_, ?_, ?_⟩
  · have hlast : (ps.map token).getLast? = some (.literal '.') := by
      rw [hts]
      exact List.getLast?_concat
    rw [List.getLast?_map] at hlast
    obtain ⟨p, hp, htoken⟩ := Option.map_eq_some_iff.mp hlast
    rw [hp, token_eq_literal htoken]
  · rintro cs rfl
    -- a literal glob would have been compared as a whole
    have hcs : cs ≠ [] := by
      rintro rfl
      simp at hts
    exact ne_literals_of_whole hwhole hcs (map_token_literals cs)
  · rintro cs rfl
    -- a star and a longer tail would have been compared at the end
    by_contra hlong
    have hsome := ending?_literals (Nat.le_of_not_lt hlong)
    have hmap : (run :: cs.map literal).map token = .anyRun :: cs.map .literal :=
      congrArg (Token.anyRun :: ·) (map_token_literals cs)
    rw [← hmap, hending] at hsome
    cases hsome

/-- A glob that asks for the name and stands for a path that ends in `..` ends in a point. -/
theorem endsInPoint_of_readsName {ps : List Wildcard} {path : List Nat}
    (hname : lastName path = [0x2E, 0x2E]) (hpath : path ∈ globWords (ps.map token))
    (h : (Strategy.ofTokens (ps.map token)).readsName = true) : EndsInPoint ps := by
  -- of the strategies that ask for the name, only the two that ask for an extension are left
  unfold Strategy.ofTokens at h
  rw [fileName?_map_token] at h
  cases hwhole : whole? (ps.map token) with
  | some s =>
      rw [hwhole] at h
      have hs : s.readsName = true := h
      rw [readsName_of_whole? hwhole] at hs
      cases hs
  | none =>
  rw [hwhole] at h
  cases hextension : extension? (ps.map token) with
  | some s =>
      obtain ⟨front, cs, hfront, hpoint, hslash, hts, -⟩ := extension?_shape hextension
      rw [hts, globWords_extension hfront] at hpath
      obtain rfl := extension_of_parent hname hpoint hslash hpath
      rw [front_eq_nil hfront hts] at hts
      obtain rfl : ps = run :: ['.'].map literal := map_token_eq_run hts
      exact endsInPoint_run_literals.mpr rfl
  | none =>
  rw [hextension] at h
  cases hbeginning : beginning? (ps.map token) with
  | some s =>
      rw [hbeginning] at h
      obtain ⟨_, _, _, _, _, rfl⟩ := beginning?_shape hwhole hbeginning
      cases h
  | none =>
  rw [hbeginning] at h
  cases hending : ending? (ps.map token) with
  | some s =>
      rw [hending] at h
      obtain ⟨_, _, _, rfl⟩ | ⟨_, _, _, _, rfl⟩ := ending?_shape hwhole hending <;> cases h
  | none =>
  rw [hending] at h
  cases hrequired : requiredExtension? (ps.map token) with
  | none =>
      rw [hrequired] at h
      cases h
  | some s => exact endsInPoint_of_requiredExtension? hname hpath hwhole hending hrequired

/-! Literal characters and a star before them. -/

/-- Without wildcards, fitting a text is being that text. -/
theorem fitsText_literals {cs text : List Char} : FitsText (cs.map literal) text ↔ text = cs := by
  induction cs generalizing text with
  | nil =>
      constructor
      · rintro ⟨⟩
        rfl
      · rintro rfl
        exact .nil
  | cons c cs ih =>
      constructor
      · rintro (_ | rest)
        rw [ih.mp rest]
        rfl
      · rintro rfl
        exact .literal (ih.mpr rfl)

/-- A star and literal characters are what ends in these. -/
theorem fitsText_run_literals {tail text : List Char} :
    FitsText (run :: tail.map literal) text ↔ tail <:+ text := by
  constructor
  · rintro (_ | _ | _ | _ | @⟨u, _, w, rest⟩)
    rw [fitsText_literals.mp rest]
    exact List.suffix_append u tail
  · rintro ⟨u, rfl⟩
    exact .run (fitsText_literals.mpr rfl)

end Wildcard

/-! ## §3. Compiled globs. -/

open Wildcard

/-- The last component of a path is `..` exactly when its bytes are. -/
theorem FilePath.lastName_eq_parent_iff (path : String) :
    lastName (pathBytes path) = [0x2E, 0x2E] ↔ lastComponent path.toList.reverse = ['.', '.'] := by
  constructor
  · intro hbytes
    by_contra hne
    exact lastName_pathBytes hne hbytes
  · intro hdots
    have hbytes : lastName (pathBytes path) = bytesOf (lastComponent path.toList.reverse) :=
      lastName_bytesOf path.toList
    rw [hbytes, hdots]
    decide

namespace PathGlobs

/-- What a glob of wildcards accepts, byte for byte and on every path. -/
theorem accepts_wildcards_iff (g : WildcardGlob) (hsize : g.written.utf8ByteSize ≤ 4096)
    {gs : PathGlobs} (hgs : ofStrings [g.written] = .ok gs) (path : String) :
    gs.accepts path = true ↔ FitsBytes g.pieces (pathBytes path) ∧
      ¬(FilePath.lastComponent path.toList.reverse = ['.', '.'] ∧ EndsInPoint g.pieces) := by
  rw [accepts_wildcards g hsize hgs, fitsBytes_iff_globWords, ← FilePath.lastName_eq_parent_iff]
  by_cases hname : lastName (pathBytes path) = [0x2E, 0x2E]
  · rw [Strategy.matches_ofTokens_of_parent _ hname]
    refine and_congr_right fun hpath => ?_
    rw [← Bool.not_eq_true, not_and]
    constructor
    · exact fun hreads _ hpoint => hreads (readsName_of_endsInPoint hpoint)
    · exact fun hpoint hreads => hpoint hname (endsInPoint_of_readsName hname hpath hreads)
  · rw [Strategy.matches_ofTokens_iff _ hname]
    exact ⟨fun hpath => ⟨hpath, fun h => hname h.1⟩, And.left⟩

/-- **Shortcuts and plain matching.** Where a wildcard takes one byte whenever it takes one character, as
on a path of ASCII characters, a glob accepts the paths that fit it, with one exception: a glob that ends
in a point, and is neither literal nor a star and at least two literal characters, refuses a path whose
last component is `..`. A star and literal characters accept the paths that end in these, the point
alone and such a path apart. -/
theorem accepts_iff_fitsText (g : WildcardGlob) (hsize : g.written.utf8ByteSize ≤ 4096) :
    (ofStrings [g.written]).isOk = true ∧
      ∀ gs, ofStrings [g.written] = .ok gs → ∀ path : String, Agree g.pieces path.toList →
        (gs.accepts path = true ↔ FitsText g.pieces path.toList ∧
          ¬(FilePath.lastComponent path.toList.reverse = ['.', '.'] ∧ EndsInPoint g.pieces)) ∧
        ∀ tail : List Char, g.pieces = .run :: tail.map .literal →
          (gs.accepts path = true ↔ tail <:+ path.toList ∧
            ¬(FilePath.lastComponent path.toList.reverse = ['.', '.'] ∧ tail = ['.'])) := by
  refine ⟨isOk_ofStrings_wildcards g hsize, fun gs hgs path hagree => ?_⟩
  have htext : gs.accepts path = true ↔ FitsText g.pieces path.toList ∧
      ¬(FilePath.lastComponent path.toList.reverse = ['.', '.'] ∧ EndsInPoint g.pieces) := by
    have hfits : FitsBytes g.pieces (pathBytes path) ↔ FitsText g.pieces path.toList :=
      fitsBytes_iff_fitsText g.apart hagree
    rw [accepts_wildcards_iff g hsize hgs, hfits]
  refine ⟨htext, fun tail htail => ?_⟩
  rw [htext, htail, fitsText_run_literals, endsInPoint_run_literals]

/-- The glob `*..`. -/
def parentGlob : WildcardGlob where
  pieces := [.run, .literal '.', .literal '.']
  valid := by decide
  apart := by decide

/-- A glob that ends in a point and still accepts a path that ends in `..`. -/
theorem accepts_iff_fitsText_parent :
    parentGlob.written = "*.." ∧ parentGlob.written.utf8ByteSize ≤ 4096 ∧
      Agree parentGlob.pieces "a/..".toList ∧ parentGlob.pieces = .run :: ['.', '.'].map .literal ∧
      ∃ gs, ofStrings [parentGlob.written] = .ok gs ∧ gs.accepts "a/.." = true ∧
        FitsText parentGlob.pieces "a/..".toList ∧ ['.', '.'] <:+ "a/..".toList := by
  have hwritten : parentGlob.written = "*.." := by decide +kernel
  have hsize : parentGlob.written.utf8ByteSize ≤ 4096 := by
    rw [hwritten]
    decide
  have hagree : Agree parentGlob.pieces "a/..".toList := .inl (by simp)
  obtain ⟨hok, haccepts⟩ := accepts_iff_fitsText parentGlob hsize
  refine ⟨hwritten, hsize, hagree, rfl, ?_⟩
  cases hgs : ofStrings [parentGlob.written] with
  | error e => rw [hgs] at hok; cases hok
  | ok gs =>
      obtain ⟨htext, htail⟩ := haccepts gs hgs _ hagree
      have haccepted : gs.accepts "a/.." = true := by
        rw [accepts_eq_any, written_ofStrings hgs, hwritten]
        decide +kernel
      exact ⟨gs, rfl, haccepted, (htext.mp haccepted).1, ((htail ['.', '.'] rfl).mp haccepted).1⟩

/-- The glob `*.`. -/
def pointGlob : WildcardGlob where
  pieces := [.run, .literal '.']
  valid := by decide
  apart := by decide

/-- `*.` refuses a path that ends in a point. -/
theorem point_refuses_parent :
    pointGlob.written = "*." ∧ pointGlob.written.utf8ByteSize ≤ 4096 ∧
      (∀ c ∈ "..".toList, c.toNat < 0x80) ∧ FitsText pointGlob.pieces "..".toList ∧
      ['.'] <:+ "..".toList ∧
      ∃ gs, ofStrings [pointGlob.written] = .ok gs ∧ gs.accepts ".." = false := by
  have hwritten : pointGlob.written = "*." := by decide +kernel
  have htail : ['.'] <:+ "..".toList := ⟨['.'], by decide +kernel⟩
  have hok : (ofStrings ["*."]).isOk = true := by
    rw [isOk_ofStrings]
    decide +kernel
  rw [hwritten]
  refine ⟨rfl, by decide, by simp, fitsText_run_literals.mpr htail, htail, ?_⟩
  cases hgs : ofStrings ["*."] with
  | error e => rw [hgs] at hok; cases hok
  | ok gs =>
      refine ⟨gs, rfl, ?_⟩
      rw [accepts_eq_any, written_ofStrings hgs]
      decide +kernel

end PathGlobs
end PullTriage
