import PullTriage.Proofs.StablePieces
import PullTriage.Proofs.TrimmedTrees
import PullTriage.TextPattern

/-!
  PullTriage.Proofs.StrippedMarkers: the parser on a pattern without its markers.

  Markers are removed from the text, wherever they stand, and not from the tree.  Where the parser reads
  each of them as the flag group it looks like, this comes to the same:

      Ast.parse? written = some a  →  ∃ b, Ast.parse? (stripMarkers written) = some b ∧ a.Trims b

  for patterns in which no marker begins inside a piece, that is, inside a class or behind a backslash
  (`MarkersApart`).  The two runs of the parser go side by side.  At a marker one of them adds a part that
  the other leaves out, and every other piece is read alike, because what follows it goes on alike: behind a
  marker there is no operator, since a flag group cannot be repeated.  A marker in a comment is no part of
  any piece, and is skipped with the comment or missing from it.

  Layers:
    * §1: states that differ by markers, and the pieces that are read in them;
    * §2: the text without markers;
    * §3: runs;
    * §4: patterns.

  Main statement: `parse?_stripMarkers`.
-/

namespace PullTriage.Regex

open TextPattern (stripMarkers)

/-! ## §1. States that differ by markers. -/

/-- The second level is the first without some of its markers. -/
structure Level.Trims (l l' : Level) : Prop where
  branches : TrimsBranches l.branches l'.branches
  parts : TrimsParts l.parts l'.parts

theorem Level.Trims.close {l l' : Level} (h : l.Trims l') : l.close.Trims l'.close :=
  (TrimsBranches.cons h.parts.reverse.ofParts h.branches).reverse.ofBranches

/-- The second group is the first one, and what surrounds it has lost some of its markers. -/
structure OpenGroup.Trims (g g' : OpenGroup) : Prop where
  outer : g.outer.Trims g'.outer
  kind : g'.kind = g.kind
  verbose : g'.verbose = g.verbose

namespace ParserState

/-- The second state has read what the first one has, but some of its markers. -/
structure Trims (s u : ParserState) : Prop where
  verbose : u.verbose = s.verbose
  names : u.names = s.names
  level : s.level.Trims u.level
  groups : List.Forall₂ OpenGroup.Trims s.groups u.groups

/-- A step to such a state, with the same characters to come. -/
def Follows (step : Option ParserState) (s' : ParserState) : Prop :=
  ∃ u', step = some u' ∧ s'.Trims u' ∧ u'.rest = s'.rest

section Trims

variable {s s' u : ParserState} {cs rest : List Char}

theorem Trims.push (h : s.Trims u) {a : Ast} (rest rest' : List Char) :
    (s.push a rest).Trims (u.push a rest') :=
  ⟨h.verbose, h.names, ⟨h.level.branches, .keep (.same a) id h.level.parts⟩, h.groups⟩

/-- A marker may be left out. -/
theorem Trims.push_marker (h : s.Trims u) (rest : List Char) : (s.push .marker rest).Trims u :=
  ⟨h.verbose, h.names, ⟨h.level.branches, .drop h.level.parts⟩, h.groups⟩

theorem Trims.withRest (h : s.Trims u) (rest : List Char) : s.Trims { u with rest } :=
  ⟨h.verbose, h.names, h.level, h.groups⟩

/-- A repetition taken by one state is taken by the state that differs from it by markers. -/
theorem repeatLast?_follows (h : s.Trims u) {least : Nat} {most : Option Nat}
    (hs : s.repeatLast? least most rest = some s') : Follows (u.repeatLast? least most rest) s' := by
  obtain ⟨a, parts, hparts, ha, rfl⟩ := repeatLast?_eq_some hs
  have hlevel := h.level.parts
  rw [hparts] at hlevel
  obtain ⟨b, bs, hbs, hab, hb, hrest⟩ := hlevel.head ha
  exact ⟨_, repeatLast?_of_parts hbs hb least most rest, ⟨h.verbose, h.names,
    ⟨h.level.branches, .keep (.repetition hab least most) id hrest⟩, h.groups⟩, rfl⟩

/-- A group opened by one state is opened by the other. -/
theorem enter?_follows (h : s.Trims u) {o : Opening} (hs : s.enter? o rest = some s') :
    Follows (u.enter? o rest) s' := by
  have hlevel : Level.Trims ⟨[], []⟩ ⟨[], []⟩ := ⟨.nil, .nil⟩
  have hgroups : ∀ kind, List.Forall₂ OpenGroup.Trims (⟨s.level, kind, s.verbose⟩ :: s.groups)
      (⟨u.level, kind, u.verbose⟩ :: u.groups) := fun kind => .cons ⟨h.level, rfl, h.verbose⟩ h.groups
  -- flags outside of a group change the state they stand in, a group begins an empty level
  match o with
  | .setFlags items =>
    obtain rfl := Option.some.inj hs
    obtain ⟨-, hnames, hlevel, hgroups⟩ := h.push (a := .flags items) rest rest
    exact ⟨_, rfl, ⟨congrArg (FlagItem.state items .verbose).getD h.verbose, hnames, hlevel, hgroups⟩, rfl⟩
  | .group .capture =>
    obtain rfl := Option.some.inj hs
    exact ⟨_, rfl, ⟨h.verbose, h.names, hlevel, hgroups .capture⟩, rfl⟩
  | .group (.flags items) =>
    obtain rfl := Option.some.inj hs
    exact ⟨_, rfl, ⟨congrArg (FlagItem.state items .verbose).getD h.verbose, h.names, hlevel,
      hgroups (.flags items)⟩, rfl⟩
  | .group (.named name) =>
    unfold enter? at hs
    dsimp only at hs
    split at hs
    case isTrue => cases hs
    case isFalse hnew =>
      obtain rfl := Option.some.inj hs
      rw [← h.names] at hnew
      exact ⟨_, if_neg hnew, ⟨h.verbose, congrArg (name :: ·) h.names, hlevel, hgroups (.named name)⟩, rfl⟩

/-- A group closed by one state is closed by the other: the levels differ inside the group and outside
it. -/
theorem closeGroup?_follows (h : s.Trims u) (hs : s.closeGroup? cs = some s') :
    Follows (u.closeGroup? cs) s' := by
  have hgroups := h.groups
  unfold closeGroup? at hs ⊢
  split at hs
  case h_1 => cases hs
  case h_2 g groups heq =>
    obtain rfl := Option.some.inj hs
    rw [heq] at hgroups
    cases hu : u.groups with
    | nil =>
        rw [hu] at hgroups
        cases hgroups
    | cons g' groups' =>
        rw [hu] at hgroups
        obtain ⟨hg, hrest⟩ := List.forall₂_cons.mp hgroups
        refine ⟨_, rfl, ⟨hg.verbose, h.names, ⟨hg.outer.branches, ?_⟩, hrest⟩, rfl⟩
        rw [hg.kind]
        exact .keep (.group g.kind h.level.close) id hg.outer.parts

theorem alternate_trims (h : s.Trims u) (cs : List Char) : (s.alternate cs).Trims (u.alternate cs) :=
  ⟨h.verbose, h.names, ⟨.cons h.level.parts.reverse.ofParts h.level.branches, .nil⟩, h.groups⟩

/-- **A piece is read alike if markers before it are left out.** -/
theorem piece?_follows (h : s.Trims u) {c : Char} (hs : s.piece? c cs = some s') :
    Follows (u.piece? c cs) s' := by
  -- both states read the same text here, so each case asks only that they change alike
  unfold piece? at hs
  split at hs
  case h_1 =>
    rw [openGroup?_eq] at hs
    obtain ⟨⟨o, rest⟩, hopening, henter⟩ := Option.bind_eq_some_iff.mp hs
    show Follows (u.openGroup? cs) s'
    rw [openGroup?_eq, h.verbose, hopening]
    exact enter?_follows h henter
  case h_2 => exact closeGroup?_follows h hs
  case h_3 =>
    obtain rfl := Option.some.inj hs
    exact ⟨_, rfl, alternate_trims h cs, rfl⟩
  case h_4 =>
    obtain ⟨⟨⟨negated, set⟩, rest⟩, hset, rfl⟩ := Option.map_eq_some_iff.mp hs
    show Follows ((bracketed? u.verbose cs).map _) _
    rw [h.verbose, hset]
    exact ⟨_, rfl, h.push rest rest, rfl⟩
  case h_5 => exact repeatLast?_follows h hs
  case h_6 => exact repeatLast?_follows h hs
  case h_7 => exact repeatLast?_follows h hs
  case h_8 =>
    rw [counted?_eq] at hs
    obtain ⟨⟨bounds, rest⟩, hcount, hrepeat⟩ := Option.bind_eq_some_iff.mp hs
    show Follows (u.counted? cs) s'
    rw [counted?_eq, h.verbose, hcount]
    exact repeatLast?_follows h hrepeat
  case h_9 h₁ h₂ h₃ h₄ h₅ h₆ h₇ h₈ =>
    obtain ⟨⟨p, rest⟩, hp, rfl⟩ := Option.map_eq_some_iff.mp hs
    rw [piece?.eq_9 u c cs h₁ h₂ h₃ h₄ h₅ h₆ h₇ h₈, h.verbose, hp]
    exact ⟨_, rfl, h.push rest rest, rfl⟩

end Trims

/-- A marker is read as a flag group. -/
theorem piece?_marker (s : ParserState) (rest : List Char) :
    s.piece? '(' ('?' :: 'i' :: ')' :: rest) = some (s.push .marker rest) := by
  have hopening : opening? s.verbose ('?' :: 'i' :: ')' :: rest) =
      some (.setFlags [.flag .ignoreCase], rest) := by
    cases s.verbose <;> rfl
  show s.openGroup? _ = _
  rw [openGroup?_eq, hopening]
  rfl

end ParserState

/-! ## §2. The text without markers. -/

/-- A marker as it is written. -/
def markerText : List Char := ['(', '?', 'i', ')']

theorem stripMarkers_marker (rest : List Char) :
    stripMarkers ('(' :: '?' :: 'i' :: ')' :: rest) = stripMarkers rest := rfl

theorem stripMarkers_cons {c : Char} {cs : List Char} (h : markerText.isPrefixOf (c :: cs) = false) :
    stripMarkers (c :: cs) = c :: stripMarkers cs := by
  rw [stripMarkers]
  rintro rest rfl rfl
  cases h

/-- A marker stands in front, or it does not. -/
theorem marker_or_not (c : Char) (cs : List Char) :
    (∃ rest, c :: cs = '(' :: '?' :: 'i' :: ')' :: rest) ∨ markerText.isPrefixOf (c :: cs) = false := by
  cases hprefix : markerText.isPrefixOf (c :: cs) with
  | false => exact .inr rfl
  | true =>
      obtain ⟨rest, hrest⟩ := List.isPrefixOf_iff_prefix.mp hprefix
      exact .inl ⟨rest, hrest.symm⟩

/-- No marker begins at the first `count` characters. -/
def noMarkerIn : Nat → List Char → Bool
  | 0, _ => true
  | _ + 1, [] => true
  | count + 1, c :: cs => !markerText.isPrefixOf (c :: cs) && noMarkerIn count cs

/-- In front of a text in which no marker begins, stripping leaves that text as it is. -/
theorem stripMarkers_append {text rest : List Char} (h : noMarkerIn text.length (text ++ rest) = true) :
    stripMarkers (text ++ rest) = text ++ stripMarkers rest := by
  induction text with
  | nil => rfl
  | cons c text ih =>
      rw [List.length_cons, List.cons_append, noMarkerIn, Bool.and_eq_true, Bool.not_eq_true'] at h
      rw [List.cons_append, stripMarkers_cons h.1, ih h.2]
      rfl

/-- Where no marker stands nothing is removed. -/
theorem stripMarkers_eq_self {cs : List Char} (h : ¬markerText <:+: cs) : stripMarkers cs = cs := by
  induction cs with
  | nil => rfl
  | cons c cs ih =>
      have hfront : markerText.isPrefixOf (c :: cs) = false := by
        rw [Bool.eq_false_iff, ne_eq, List.isPrefixOf_iff_prefix]
        exact fun hprefix => h hprefix.isInfix
      rw [stripMarkers_cons hfront, ih fun hinside => h (List.infix_cons hinside)]

/-- What is skipped in front of the text without markers is what is skipped in front of the text.  A marker
in a comment goes with it, and none begins in a comment and ends behind it. -/
theorem dropBlank_stripMarkers (comment : Bool) (cs : List Char) :
    dropBlank comment (stripMarkers cs) = dropBlank false (stripMarkers (dropBlank comment cs)) := by
  fun_induction stripMarkers cs generalizing comment with
  | case1 rest ih =>
      cases comment with
      | false => rfl
      | true => exact ih true
  | case2 c rest hmarker ih =>
      rcases dropBlank_cases comment c with ⟨comment', hdrop⟩ | ⟨rfl, hkept⟩
      · rw [hdrop, hdrop]
        exact ih comment'
      · rw [hkept, hkept, stripMarkers]
        · exact (hkept _).symm
        · exact hmarker
  | case3 => rfl

/-- Whatever verbose mode skips may be skipped before the markers go or after. -/
theorem skip_stripMarkers (v : Bool) (cs : List Char) :
    skip v (stripMarkers cs) = skip v (stripMarkers (skip v cs)) := by
  cases v with
  | false => rfl
  | true => exact dropBlank_stripMarkers false cs

theorem skip_stripMarkers_nil {v : Bool} {cs : List Char} (h : skip v cs = []) :
    skip v (stripMarkers cs) = [] := by
  rw [skip_stripMarkers, h]
  exact skip_nil v

theorem skip_stripMarkers_marker {v : Bool} {cs rest : List Char}
    (h : skip v cs = '(' :: '?' :: 'i' :: ')' :: rest) :
    skip v (stripMarkers cs) = skip v (stripMarkers rest) := by
  rw [skip_stripMarkers, h, stripMarkers_marker]

theorem skip_stripMarkers_cons {v : Bool} {c : Char} {cs tail : List Char} (h : skip v cs = c :: tail)
    (hmarker : markerText.isPrefixOf (c :: tail) = false) :
    skip v (stripMarkers cs) = c :: stripMarkers tail := by
  rw [skip_stripMarkers, h, stripMarkers_cons hmarker]
  exact (skip_eq_cons h).2 _

/-! ## §3. Runs. -/

namespace ParserState

/-- From here on no marker begins inside a piece, except as the piece. -/
def markersApart : Nat → ParserState → Bool
  | 0, _ => true
  | fuel + 1, s =>
    match skip s.verbose s.rest with
    | [] => true
    | c :: cs =>
      match s.piece? c cs with
      | none => true
      | some s' => noMarkerIn (cs.length - s'.rest.length) cs && markersApart fuel s'

/-- The signs of the operators, which repeat what stands before them. -/
def operators : List Char := ['?', '*', '+', '\x7b']

/-- A repetition is refused where nothing that can be repeated stands before it. -/
theorem repeatLast?_eq_none {s : ParserState} (h : ∀ a ∈ s.level.parts.head?, isRepeatable a = false)
    (least : Nat) (most : Option Nat) (rest : List Char) : s.repeatLast? least most rest = none := by
  cases hrepeat : s.repeatLast? least most rest with
  | none => rfl
  | some s' =>
      obtain ⟨a, parts, hparts, ha, -⟩ := repeatLast?_eq_some hrepeat
      rw [h a (by rw [hparts]; rfl)] at ha
      cases ha

/-- A marker cannot be repeated. -/
theorem not_repeatable_marker (s : ParserState) (rest : List Char) :
    ∀ a ∈ (s.push .marker rest).level.parts.head?, isRepeatable a = false := by
  intro a ha
  obtain rfl : Ast.marker = a := Option.some.inj ha
  rfl

/-- There is no operator where nothing can be repeated. -/
theorem not_operator {s s' : ParserState} (hlast : ∀ a ∈ s.level.parts.head?, isRepeatable a = false)
    {c : Char} {cs : List Char} (h : s.piece? c cs = some s') : c ∉ operators := by
  have hnone := repeatLast?_eq_none hlast
  intro hc
  simp only [operators, List.mem_cons, List.not_mem_nil, or_false] at hc
  rcases hc with rfl | rfl | rfl | rfl
  · exact absurd ((hnone _ _ _).symm.trans h) nofun
  · exact absurd ((hnone _ _ _).symm.trans h) nofun
  · exact absurd ((hnone _ _ _).symm.trans h) nofun
  · have hcounted : s.counted? cs = some s' := h
    rw [counted?_eq] at hcounted
    obtain ⟨x, -, hrepeat⟩ := Option.bind_eq_some_iff.mp hcounted
    exact absurd ((hnone _ _ _).symm.trans hrepeat) nofun

/-- An operator is never skipped, in verbose mode or out of it. -/
theorem skip_operator {c : Char} (hc : c ∈ operators) (v : Bool) (cs : List Char) :
    skip v (c :: cs) = c :: cs := by
  simp only [operators, List.mem_cons, List.not_mem_nil, or_false] at hc
  rcases hc with rfl | rfl | rfl | rfl <;> cases v <;> rfl

section Loop

variable {fuel : Nat} {s s' : ParserState} {c : Char} {cs : List Char}

/-- The last round of the loop. -/
theorem loop?_nil (hrest : skip s.verbose s.rest = []) (fuel : Nat) : loop? (fuel + 1) s = some s := by
  unfold loop?
  rw [hrest]

/-- Any other round. -/
theorem loop?_cons (hrest : skip s.verbose s.rest = c :: cs) (fuel : Nat) :
    loop? (fuel + 1) s = (s.piece? c cs).bind (loop? fuel) := by
  conv => lhs; unfold loop?
  rw [hrest]

/-- Behind markers there is no operator, whether they are left out or not. -/
theorem no_operator_behind_markers (hlast : ∀ a ∈ s.level.parts.head?, isRepeatable a = false)
    (h : loop? fuel s = some s') :
    ∀ c ∈ (skip s.verbose (stripMarkers s.rest)).head?, c ∉ operators := by
  induction fuel generalizing s with
  | zero => cases h
  | succ fuel ih =>
      cases hrest : skip s.verbose s.rest with
      | nil =>
          rw [skip_stripMarkers_nil hrest]
          exact nofun
      | cons c cs =>
          rw [loop?_cons hrest] at h
          obtain ⟨s₁, hpiece, hrun⟩ := Option.bind_eq_some_iff.mp h
          -- a marker goes, and the rest begins with what stood behind it
          rcases marker_or_not c cs with ⟨rest, hmarker⟩ | hmarker
          · rw [skip_stripMarkers_marker (hrest.trans hmarker)]
            obtain ⟨rfl, rfl⟩ := List.cons.inj hmarker
            rw [piece?_marker] at hpiece
            obtain rfl := Option.some.inj hpiece
            exact ih (not_repeatable_marker s rest) hrun
          · rw [skip_stripMarkers_cons hrest hmarker]
            intro d hd
            obtain rfl : c = d := Option.some.inj hd
            exact not_operator hlast hpiece

/-- An operator that comes next once the markers are removed came next before. -/
theorem operator_of_stripMarkers (h : loop? fuel s = some s') {c : Char} (hc : c ∈ operators)
    (hhead : (skip s.verbose (stripMarkers s.rest)).head? = some c) :
    (skip s.verbose s.rest).head? = some c := by
  cases fuel with
  | zero => cases h
  | succ fuel =>
      cases hrest : skip s.verbose s.rest with
      | nil =>
          rw [skip_stripMarkers_nil hrest] at hhead
          cases hhead
      | cons d cs =>
          rcases marker_or_not d cs with ⟨rest, hmarker⟩ | hmarker
          · rw [loop?_cons hrest] at h
            obtain ⟨s₁, hpiece, hrun⟩ := Option.bind_eq_some_iff.mp h
            rw [skip_stripMarkers_marker (hrest.trans hmarker)] at hhead
            obtain ⟨rfl, rfl⟩ := List.cons.inj hmarker
            rw [piece?_marker] at hpiece
            obtain rfl := Option.some.inj hpiece
            have hnone := no_operator_behind_markers (not_repeatable_marker s rest) hrun
            exact absurd hc (hnone c hhead)
          · rw [skip_stripMarkers_cons hrest hmarker] at hhead
            exact hhead

/-- The same where nothing is skipped. -/
theorem operator_of_head_stripMarkers (h : loop? fuel s = some s') {c : Char} (hc : c ∈ operators)
    (hhead : (stripMarkers s.rest).head? = some c) : s.rest.head? = some c := by
  cases hrest : s.rest with
  | nil =>
      rw [hrest] at hhead
      cases hhead
  | cons d cs =>
      rcases marker_or_not d cs with ⟨rest, hmarker⟩ | hmarker
      · -- a parenthesis is not skipped, so the marker is still there to be left out
        obtain ⟨tail, htail⟩ := List.head?_eq_some_iff.mp hhead
        have hfirst : (skip s.verbose (stripMarkers s.rest)).head? = some c := by
          rw [htail, skip_operator hc]
          rfl
        have hparen : skip s.verbose s.rest = s.rest := by
          rw [hrest, hmarker]
          cases s.verbose <;> rfl
        have hsame := operator_of_stripMarkers h hc hfirst
        rwa [hparen, hrest] at hsame
      · rw [hrest, stripMarkers_cons hmarker] at hhead
        exact hhead

end Loop

/-- A count does not begin with a parenthesis. -/
theorem counted?_parenthesis {s : ParserState} {cs tail : List Char}
    (hcs : skip s.verbose cs = '(' :: tail) : s.counted? cs = none := by
  have hdecimal : decimal? s.verbose ('(' :: tail) = none := by
    cases s.verbose <;> rfl
  rw [counted?_eq, hcs]
  unfold count?
  rw [hdecimal]
  rfl

/-- **What is left of a pattern goes on alike without its markers.** -/
theorem continues_stripMarkers {fuel : Nat} {s s' : ParserState} (h : loop? fuel s = some s') :
    Continues s.verbose s.rest (stripMarkers s.rest) := by
  have hended : Ended s.rest (stripMarkers s.rest) := by
    intro hrest
    rw [hrest]
    rfl
  have hquestion : '?' ∈ operators := by decide
  have hbrace : '\x7b' ∈ operators := by decide
  refine ⟨⟨hended, ?_⟩, ⟨hended, ?_⟩, fun hname => ?_⟩
  · exact mt (operator_of_head_stripMarkers h hquestion)
  · exact mt (operator_of_stripMarkers h hquestion)
  by_cases hhead : (stripMarkers s.rest).head? = some '\x7b'
  case neg => exact noBoundaryName_of_head hhead
  case pos =>
    obtain ⟨tail, hrest⟩ := List.head?_eq_some_iff.mp (operator_of_head_stripMarkers h hbrace hhead)
    rw [hrest] at hname ⊢
    rw [stripMarkers_cons rfl]
    obtain ⟨d, after, hskip, hd⟩ := NoBoundaryName.braced hname
    -- a count follows, and no count begins with a marker
    rcases marker_or_not d after with ⟨rest, hmarker⟩ | hmarker
    · have hfirst : skip s.verbose s.rest = '\x7b' :: tail := by
        rw [hrest, skip_brace]
      rw [hmarker] at hskip
      cases fuel with
      | zero => cases h
      | succ fuel =>
          rw [loop?_cons hfirst] at h
          obtain ⟨s₁, hpiece, -⟩ := Option.bind_eq_some_iff.mp h
          exact absurd ((counted?_parenthesis hskip).symm.trans hpiece) nofun
    · exact noBoundaryName_braced (skip_stripMarkers_cons hskip hmarker) hd

/-- A run on a pattern, and where the run on the pattern without its markers is then. -/
structure StrippedTo (s u : ParserState) : Prop where
  trims : s.Trims u
  rest : skip s.verbose u.rest = skip s.verbose (stripMarkers s.rest)

/-- At a marker the run without markers stays where it is. -/
theorem StrippedTo.push_marker {s u : ParserState} (h : s.StrippedTo u) {rest : List Char}
    (hrest : skip s.verbose s.rest = '(' :: '?' :: 'i' :: ')' :: rest) :
    (s.push .marker rest).StrippedTo u :=
  ⟨h.trims.push_marker rest, h.rest.trans (skip_stripMarkers_marker hrest)⟩

/-- **One piece that is no marker: without markers the same characters are read, to the same effect.** -/
theorem piece?_stripped {s s' u : ParserState} (h : s.StrippedTo u) {c : Char} {cs : List Char}
    (hrest : skip s.verbose s.rest = c :: cs) (hmarker : markerText.isPrefixOf (c :: cs) = false)
    (hpiece : s.piece? c cs = some s') (hinside : noMarkerIn (cs.length - s'.rest.length) cs = true)
    (hcontinues : Continues s'.verbose s'.rest (stripMarkers s'.rest)) :
    ∃ text u', skip u.verbose u.rest = c :: (text ++ stripMarkers s'.rest) ∧
      u.piece? c (text ++ stripMarkers s'.rest) = some u' ∧ s'.StrippedTo u' := by
  obtain ⟨u₁, hu₁, htrims, hrest₁⟩ := piece?_follows h.trims hpiece
  obtain ⟨text, rfl, hread⟩ := piece?_stable hu₁
  rw [← htrims.verbose, ← hrest₁] at hcontinues
  obtain ⟨rest'', hread, hskip⟩ := hread _ hcontinues
  rw [hrest₁] at hread hskip
  refine ⟨text, { u₁ with rest := rest'' }, ?_, hread, htrims.withRest rest'', ?_⟩
  case refine_2 => rwa [htrims.verbose] at hskip
  rw [hrest₁] at hrest hmarker hinside
  have hfree : noMarkerIn text.length (text ++ s'.rest) = true := by
    rwa [List.length_append, Nat.add_sub_cancel] at hinside
  rw [h.trims.verbose, h.rest, skip_stripMarkers_cons hrest hmarker, stripMarkers_append hfree]

/-- **A run on a pattern and the run on the pattern without its markers go side by side.** -/
theorem loop?_stripped {fuel fuel' : Nat} {s s' u : ParserState} (h : s.StrippedTo u)
    (hrun : loop? fuel s = some s') (hapart : s.markersApart fuel = true)
    (hfuel : (skip u.verbose u.rest).length < fuel') :
    ∃ u', loop? fuel' u = some u' ∧ s'.Trims u' := by
  induction fuel generalizing fuel' s u with
  | zero => cases hrun
  | succ fuel ih =>
      obtain ⟨fuel', rfl⟩ := Nat.exists_eq_succ_of_ne_zero (Nat.ne_of_gt (Nat.lt_of_le_of_lt
        (Nat.zero_le _) hfuel))
      cases hrest : skip s.verbose s.rest with
      | nil =>
          rw [loop?_nil hrest] at hrun
          obtain rfl := Option.some.inj hrun
          refine ⟨u, loop?_nil ?_ fuel', h.trims⟩
          rw [h.trims.verbose, h.rest, skip_stripMarkers_nil hrest]
      | cons c cs =>
          rw [loop?_cons hrest] at hrun
          obtain ⟨s₁, hpiece, hrun₁⟩ := Option.bind_eq_some_iff.mp hrun
          have hapart₁ : noMarkerIn (cs.length - s₁.rest.length) cs = true ∧
              s₁.markersApart fuel = true := by
            unfold markersApart at hapart
            rw [hrest] at hapart
            dsimp only at hapart
            rw [hpiece, Bool.and_eq_true] at hapart
            exact hapart
          rcases marker_or_not c cs with ⟨rest, hmarker⟩ | hmarker
          · -- one run adds a part, the other one stays where it is
            have h₁ := h.push_marker (hrest.trans hmarker)
            obtain ⟨rfl, rfl⟩ := List.cons.inj hmarker
            rw [piece?_marker] at hpiece
            obtain rfl := Option.some.inj hpiece
            exact ih h₁ hrun₁ hapart₁.2 hfuel
          · -- both read the same piece, and what is left of the second pattern is shorter
            obtain ⟨text, u₁, hu, hpiece', h₁⟩ := piece?_stripped h hrest hmarker hpiece hapart₁.1
              (continues_stripMarkers hrun₁)
            rw [loop?_cons hu, hpiece']
            refine ih h₁ hrun₁ hapart₁.2 ?_
            have hle := length_skip_le s₁.verbose (stripMarkers s₁.rest)
            rw [hu, List.length_cons, List.length_append] at hfuel
            rw [h₁.trims.verbose, h₁.rest]
            omega

/-! ## §4. Patterns. -/

/-- The parser before a pattern. -/
def start (cs : List Char) : ParserState := ⟨cs, false, [], ⟨[], []⟩, []⟩

/-- The run starts with the two texts in step. -/
theorem start_strippedTo (cs : List Char) : (start cs).StrippedTo (start (stripMarkers cs)) :=
  ⟨⟨rfl, rfl, ⟨.nil, .nil⟩, .nil⟩, rfl⟩

end ParserState

/-- What it takes for a pattern to parse. -/
theorem parse?_eq_some_iff {text : String} {a : Ast} : Ast.parse? text = some a ↔
    ∃ s, ParserState.loop? (text.toList.length + 1) (.start text.toList) = some s ∧
      s.groups = [] ∧ s.level.close = a ∧ a.nesting ≤ Ast.maxNesting := by
  have hclose : ∀ s : ParserState,
      (if (!s.groups.isEmpty) = true then none
        else if s.level.close.nesting ≤ Ast.maxNesting then some s.level.close else none) = some a ↔
        s.groups = [] ∧ s.level.close = a ∧ a.nesting ≤ Ast.maxNesting := by
    intro s
    by_cases hgroups : s.groups = []
    case neg =>
      rw [if_pos (by simpa using hgroups)]
      exact ⟨nofun, fun h => absurd h.1 hgroups⟩
    case pos =>
      rw [if_neg (by simpa using hgroups), Option.ite_none_right_eq_some, Option.some.injEq]
      constructor
      · rintro ⟨hnesting, rfl⟩
        exact ⟨hgroups, rfl, hnesting⟩
      · rintro ⟨-, rfl, hnesting⟩
        exact ⟨hnesting, rfl⟩
  unfold Ast.parse?
  simp only [Option.bind_eq_bind, Option.bind_eq_some_iff, Option.pure_def]
  exact exists_congr fun s => and_congr_right fun _ => hclose s

/-- Every marker in a pattern is read as a flag group: none begins inside a piece. -/
def MarkersApart (written : String) : Prop :=
  (ParserState.start written.toList).markersApart (written.toList.length + 1) = true

instance (written : String) : Decidable (MarkersApart written) :=
  inferInstanceAs (Decidable (_ = true))

/-- **Without its markers in the text, a pattern has a tree without them.** -/
theorem parse?_stripMarkers {written : String} {a : Ast} (h : Ast.parse? written = some a)
    (hapart : MarkersApart written) :
    ∃ b, Ast.parse? (String.ofList (stripMarkers written.toList)) = some b ∧ a.Trims b := by
  obtain ⟨s, hrun, hgroups, rfl, hnesting⟩ := parse?_eq_some_iff.mp h
  obtain ⟨u, hu, htrims⟩ := ParserState.loop?_stripped (ParserState.start_strippedTo _) hrun hapart
    (Nat.lt_succ_self _)
  have hclose := htrims.level.close
  refine ⟨u.level.close, parse?_eq_some_iff.mpr ⟨u, ?_, ?_, rfl, ?_⟩, hclose⟩
  · rw [String.toList_ofList]
    exact hu
  · have hgroups' := htrims.groups
    rw [hgroups] at hgroups'
    exact List.forall₂_nil_left_iff.mp hgroups'
  · exact Nat.le_trans hclose.nesting_le hnesting

end PullTriage.Regex
