import PullTriage.Proofs.WildcardShortcuts

/-!
  PullTriage.Proofs.DirectoryGlobs: `**` at one end of a literal glob.

  For a text `l` that holds nothing with a meaning in globs, `l/**` accepts what lies in the directory
  `l`, and `**/l` what is called `l`, wherever it lies:

      l/**   accepts  path   ⇔   path begins with `l/`
      **/l   accepts  path   ⇔   path is `l`, or ends with `/l`           (`l` is not `..`)

  on all paths, also on those with empty components, `.` and `..`.  The second glob is matched in one of
  two ways: by the name of the file where `l` has no slash, which is where `..` does not count as a name,
  and by the end of the path where it has one.

  Layers:
    * §1: beginnings and ends of texts are beginnings and ends of their bytes;
    * §2: the globs are read to literal tokens and one `**`;
    * §3: the strategies of these tokens;
    * §4: compiled globs.
-/

namespace PullTriage

open Glob

/-! ## §1. Beginnings and ends. -/

namespace Glob

/-- A text begins with another if its bytes do. -/
theorem bytesOf_prefix_iff {a b : List Char} : bytesOf a <+: bytesOf b ↔ a <+: b := by
  constructor
  case mp =>
    induction a generalizing b with
    | nil => exact fun _ => List.nil_prefix
    | cons c a ih =>
        rintro ⟨bytes, hbytes⟩
        have hfirst : bytesOf b = charBytes c ++ (bytesOf a ++ bytes) := by
          rw [← hbytes, ← List.append_assoc]
          rfl
        obtain ⟨rest, rfl, hrest⟩ := exists_of_bytesOf_append hfirst
        exact List.cons_prefix_cons.mpr ⟨rfl, ih ⟨bytes, hrest.symm⟩⟩
  case mpr =>
    rintro ⟨rest, rfl⟩
    rw [bytesOf_append]
    exact List.prefix_append _ _

/-- No two texts have the same bytes. -/
theorem bytesOf_injective : Function.Injective bytesOf := by
  intro a b h
  obtain ⟨rest, rfl⟩ : a <+: b := bytesOf_prefix_iff.mp (h ▸ List.prefix_rfl)
  rw [bytesOf_append, List.self_eq_append_right] at h
  by_contra hne
  refine bytesOf_ne_nil ?_ h
  rintro rfl
  exact hne (List.append_nil a).symm

/-- The bytes of a text do not begin inside a character. -/
theorem isContinuation_head?_bytesOf (cs : List Char) (b : Nat) (h : (bytesOf cs).head? = some b) :
    isContinuation b = false := by
  cases cs with
  | nil => cases h
  | cons c cs =>
      obtain ⟨b', bs, hc, hfirst, -⟩ := charBytes_eq_cons c
      have hbytes : bytesOf (c :: cs) = b' :: (bs ++ bytesOf cs) := by
        rw [← List.cons_append, ← hc]
        rfl
      rw [hbytes] at h
      obtain rfl := Option.some.inj h
      exact hfirst

/-- A text ends in another if its bytes do. -/
theorem bytesOf_suffix_iff {a b : List Char} : bytesOf a <:+ bytesOf b ↔ a <:+ b := by
  constructor
  case mp =>
    rintro ⟨bytes, hbytes⟩
    obtain ⟨front, tail, rfl, -, htail⟩ :=
      exists_of_bytesOf_eq_append hbytes.symm (isContinuation_head?_bytesOf a)
    rw [bytesOf_injective htail]
    exact List.suffix_append _ _
  case mpr =>
    rintro ⟨front, rfl⟩
    rw [bytesOf_append]
    exact List.suffix_append _ _

/-! ## §2. Reading. -/

/-- Add literal characters. -/
def State.pushLiterals (s : State) (cs : List Char) : State :=
  cs.foldl (fun s c => s.push (.literal c) c) s

theorem State.pushLiterals_concat (s : State) (cs : List Char) (c : Char) :
    s.pushLiterals (cs ++ [c]) = (s.pushLiterals cs).push (.literal c) c :=
  List.foldl_concat ..

theorem State.outer_pushLiterals (s : State) (cs : List Char) : (s.pushLiterals cs).outer = s.outer := by
  induction cs using List.reverseRecOn with
  | nil => rfl
  | append_singleton cs c ih => rw [pushLiterals_concat]; exact ih

theorem State.current_pushLiterals (s : State) (cs : List Char) :
    (s.pushLiterals cs).level.current = (cs.map Token.literal).reverse ++ s.level.current := by
  induction cs using List.reverseRecOn with
  | nil => rfl
  | append_singleton cs c ih =>
      rw [pushLiterals_concat, List.map_append, List.reverse_append]
      exact congrArg (Token.literal c :: ·) ih

/-- Ordinary characters are read one by one. -/
theorem readTokens_ordinary {cs : List Char} (h : ∀ c ∈ cs, Wildcard.ordinary c = true) {s : State}
    (houter : s.outer = []) (rest : List Char) :
    readTokens s (cs ++ rest) = readTokens (s.pushLiterals cs) rest := by
  induction cs generalizing s with
  | nil => rfl
  | cons c cs ih =>
      obtain ⟨hc, hcs⟩ := List.forall_mem_cons.mp h
      have hbrace : ∀ d, Piece.plain c = .plain d → isBrace d = false := by
        intro d hd
        rw [← Piece.plain.inj hd]
        exact Wildcard.isBrace_of_ordinary hc
      have hstar : Piece.plain c = .plain '*' → (cs ++ rest).head? ≠ some '*' := by
        intro hstar
        rw [Piece.plain.inj hstar] at hc
        cases hc
      have hpiece := readTokens_piece houter (Wildcard.wellFormed_piece (p := .literal c) hc) hbrace hstar
      rw [Wildcard.token_piece (p := .literal c) hc] at hpiece
      exact hpiece.trans (ih hcs (s := s.push (.literal c) c) houter)

/-- A glob with a literal text and no brace is read as it is written. -/
theorem literalBraces_ordinary (front tail : List Char) {cs : List Char}
    (h : ∀ c ∈ cs, Wildcard.ordinary c = true) (hfront : front.any isBrace = false)
    (htail : tail.any isBrace = false) :
    literalBraces (front ++ cs ++ tail) = front ++ cs ++ tail := by
  refine braces_of_braceFree.1 _ ?_
  have hcs : cs.any isBrace = false := by
    rw [List.any_eq_false]
    intro c hc
    rw [Wildcard.isBrace_of_ordinary (h c hc)]
    exact Bool.false_ne_true
  rw [List.any_append, List.any_append, hfront, hcs, htail]
  rfl

/-- `**` behind a slash takes the slash with it. -/
theorem read_inDirectory {cs : List Char} (h : ∀ c ∈ cs, Wildcard.ordinary c = true) :
    Token.read (literalBraces (cs ++ ['/', '*', '*'])) = .ok (cs.map .literal ++ [.directoriesLast]) := by
  have hbraces : literalBraces (cs ++ ['/', '*', '*']) = (cs ++ ['/']) ++ ['*', '*'] :=
    (literalBraces_ordinary [] _ h rfl rfl).trans (List.append_assoc cs ['/'] ['*', '*']).symm
  have hslash : ∀ c ∈ cs ++ ['/'], Wildcard.ordinary c = true := by
    rw [List.forall_mem_append]
    exact ⟨h, List.forall_mem_singleton.mpr rfl⟩
  have hread : readTokens .initial ((cs ++ ['/']) ++ ['*', '*'])
      = .ok ((State.initial.pushLiterals cs).push (.literal '/') '/').endDirectories := by
    rw [readTokens_ordinary hslash rfl, State.pushLiterals_concat]
    exact readTokens_end rfl
  have houter := State.outer_pushLiterals .initial cs
  have hcurrent := State.current_pushLiterals .initial cs
  unfold Token.read
  rw [hbraces, hread]
  show (if (State.initial.pushLiterals cs).outer.isEmpty then
    Except.ok ((.directoriesLast :: (State.initial.pushLiterals cs).level.current).reverse) else _) = _
  rw [houter, hcurrent, List.reverse_cons, List.reverse_append, List.reverse_reverse]
  rfl

/-- `**` and a slash at the beginning are one token. -/
theorem read_called {cs : List Char} (h : ∀ c ∈ cs, Wildcard.ordinary c = true) :
    Token.read (literalBraces ('*' :: '*' :: '/' :: cs)) = .ok (.directoriesFirst :: cs.map .literal) := by
  have hbraces : literalBraces ('*' :: '*' :: '/' :: cs) = '*' :: '*' :: '/' :: cs := by
    have hwritten := literalBraces_ordinary ['*', '*', '/'] [] h rfl rfl
    rwa [List.append_nil] at hwritten
  have hread : readTokens .initial ('*' :: '*' :: '/' :: cs)
      = .ok ((State.initial.push .directoriesFirst '/').pushLiterals cs) := by
    have hall := readTokens_ordinary h (s := State.initial.push .directoriesFirst '/') rfl []
    rw [List.append_nil, readTokens.eq_1] at hall
    rw [readTokens_directories rfl]
    exact hall
  unfold Token.read
  rw [hbraces, hread]
  dsimp only
  rw [State.outer_pushLiterals, State.current_pushLiterals, List.reverse_append, List.reverse_reverse]
  rfl

/-! ## §3. Strategies. -/

/-- Tokens with one that is no literal are no literals. -/
theorem literals?_eq_none {ts : List Token} {t : Token} (ht : t ∈ ts) (h : ∀ c, t ≠ .literal c) :
    literals? ts = none := by
  cases hliterals : literals? ts with
  | none => rfl
  | some cs =>
      rw [literals?_eq_some_iff.mp hliterals] at ht
      obtain ⟨c, -, hc⟩ := List.mem_map.mp ht
      exact absurd hc.symm (h c)

theorem whole?_of_literals? {ts : List Token} (h : literals? ts = none) : whole? ts = none := by
  rw [whole?, h]

/-- Literal characters and `**` ask for a beginning. -/
theorem ofTokens_inDirectory {cs : List Char} (hne : cs ≠ []) :
    Strategy.ofTokens (cs.map .literal ++ [.directoriesLast]) = .beginning (bytesOf (cs ++ ['/'])) := by
  obtain ⟨c, cs, rfl⟩ := List.exists_cons_of_ne_nil hne
  generalize hts : (c :: cs).map .literal ++ [Token.directoriesLast] = ts
  -- the shortcuts before the one by the beginning do not apply
  have hfile : fileName? ts = none := by
    rw [← hts]
    rfl
  have hwhole : whole? ts = none := by
    refine whole?_of_literals? (literals?_eq_none (t := .directoriesLast) ?_ fun _ h => nomatch h)
    simp [← hts]
  have hextension : extension? ts = none := by
    rw [← hts]
    rfl
  have hbeginning : beginning? ts = some (.beginning (bytesOf ((c :: cs) ++ ['/']))) := by
    have hliteral : literals? ((c :: cs).map .literal) = some (c :: cs) :=
      literals?_eq_some_iff.mpr rfl
    unfold beginning?
    rw [← hts, List.getLast?_concat, List.dropLast_concat]
    simp only [hliteral]
    rfl
  unfold Strategy.ofTokens
  rw [hfile, hwhole, hextension, hbeginning]
  rfl

/-- `**` and literal characters ask for the name of the file if that can hold them, else for an end. -/
theorem ofTokens_called {cs : List Char} (hne : cs ≠ []) :
    Strategy.ofTokens (.directoriesFirst :: cs.map .literal)
      = if '/' ∈ cs then .ending (bytesOf ('/' :: cs)) true else .fileName (bytesOf cs) := by
  obtain ⟨c, cs, rfl⟩ := List.exists_cons_of_ne_nil hne
  have hliteral : literals? (.literal c :: cs.map .literal) = some (c :: cs) :=
    literals?_eq_some_iff.mpr rfl
  rw [List.map_cons]
  have hfile : fileName? (.directoriesFirst :: .literal c :: cs.map .literal)
      = if '/' ∈ c :: cs then none else some (Strategy.fileName (bytesOf (c :: cs))) := by
    simp only [fileName?, hliteral, List.contains_iff_mem]
  have hwhole : whole? (.directoriesFirst :: .literal c :: cs.map .literal) = none :=
    whole?_of_literals? (literals?_eq_none List.mem_cons_self fun _ h => nomatch h)
  have hbeginning : beginning? (.directoriesFirst :: .literal c :: cs.map .literal) = none := by
    cases h : beginning? (.directoriesFirst :: .literal c :: cs.map .literal) with
    | none => rfl
    | some s =>
        -- a beginning is literal, and `**` is not
        obtain ⟨front, last, -, -, hshape, -⟩ := beginning?_shape hwhole h
        cases front <;> cases hshape
  have hending : ending? (.directoriesFirst :: .literal c :: cs.map .literal)
      = some (.ending (bytesOf ('/' :: c :: cs)) true) := by
    simp [ending?, hliteral]
  unfold Strategy.ofTokens
  rw [hfile, hwhole, hbeginning, hending]
  split <;> rfl

/-! What the strategies answer. -/

/-- The name of a file is the last component of its path, unless that is `..`. -/
theorem fileName_eq_iff {path name : List Nat} (hne : name ≠ []) (hdots : name ≠ [0x2E, 0x2E]) :
    fileName path = name ↔ lastName path = name := by
  by_cases hparent : lastName path = [0x2E, 0x2E]
  case pos =>
    rw [fileName_of_parent hparent, hparent]
    exact iff_of_false hne.symm hdots.symm
  case neg => rw [fileName_eq hparent]

/-- What stands in a directory begins with its path and a slash. -/
theorem matches_inDirectory {cs : List Char} (hne : cs ≠ []) (path : List Char) :
    (Strategy.ofTokens (cs.map .literal ++ [.directoriesLast])).matches
        (cs.map .literal ++ [.directoriesLast]) (bytesOf path) = true ↔ cs ++ ['/'] <+: path := by
  rw [ofTokens_inDirectory hne, Strategy.matches, List.isPrefixOf_iff_prefix, bytesOf_prefix_iff]

/-- The end of the path or its last component: both say the same of a text. -/
theorem matches_called {cs : List Char} (hne : cs ≠ []) (hdots : cs ≠ ['.', '.']) (path : List Char) :
    (Strategy.ofTokens (.directoriesFirst :: cs.map .literal)).matches
        (.directoriesFirst :: cs.map .literal) (bytesOf path) = true ↔
      path = cs ∨ '/' :: cs <:+ path := by
  rw [ofTokens_called hne]
  split
  case isTrue =>
    show ((bytesOf ('/' :: cs)).isSuffixOf (bytesOf path) || bytesOf path == bytesOf cs) = true ↔ _
    rw [Bool.or_eq_true, List.isSuffixOf_iff_suffix, bytesOf_suffix_iff, beq_iff_eq,
      bytesOf_injective.eq_iff, or_comm]
  case isFalse hslash =>
    have hbytes : bytesOf cs ≠ bytesOf ['.', '.'] := bytesOf_injective.ne hdots
    show (!(fileName (bytesOf path)).isEmpty && fileName (bytesOf path) == bytesOf cs) = true ↔ _
    rw [nonempty_and_eq_iff (bytesOf_ne_nil hne), fileName_eq_iff (bytesOf_ne_nil hne) hbytes,
      lastName_bytesOf, bytesOf_injective.eq_iff, afterLast_eq_iff hslash]

end Glob

/-! ## §4. Compiled globs. -/

namespace PathGlobs

/-- **Directory globs mean what they say.** -/
theorem accepts_directoryGlobs {l : String} (hne : l ≠ "")
    (hordinary : ∀ c ∈ l.toList, Wildcard.ordinary c = true) :
    ((l ++ "/**").utf8ByteSize ≤ 4096 → ∃ gs, ofStrings [l ++ "/**"] = .ok gs ∧
      ∀ path : String, gs.accepts path = true ↔ (l ++ "/").toList <+: path.toList) ∧
    (("**/" ++ l).utf8ByteSize ≤ 4096 → l ≠ ".." → ∃ gs, ofStrings ["**/" ++ l] = .ok gs ∧
      ∀ path : String, gs.accepts path = true ↔ path = l ∨ ("/" ++ l).toList <:+ path.toList) := by
  have hlist : l.toList ≠ [] := fun h => hne (String.toList_inj.mp h)
  have hfree : l.toList.any isBrace = false := by
    rw [List.any_eq_false]
    intro c hc
    rw [Wildcard.isBrace_of_ordinary (hordinary c hc)]
    exact Bool.false_ne_true
  -- in both halves the glob has no braces, so it is read as written, and its strategy is known
  constructor
  case left =>
    intro hsize
    have hwritten : (l ++ "/**").toList = l.toList ++ ['/', '*', '*'] := by
      rw [String.toList_append]
      rfl
    have hfree' : (l ++ "/**").toList.any isBrace = false := by
      rw [hwritten, List.any_append, hfree]
      rfl
    have hclose := classesClose_of_braceFree hfree'
    have hread := read_inDirectory hordinary
    rw [← hwritten] at hread
    obtain ⟨gs, hgs, haccepts⟩ := exists_of_read hsize hclose hread
    refine ⟨gs, hgs, fun path => ?_⟩
    rw [haccepts, String.toList_append]
    exact matches_inDirectory hlist path.toList
  case right =>
    intro hsize hdots
    have hwritten : ("**/" ++ l).toList = '*' :: '*' :: '/' :: l.toList := by
      rw [String.toList_append]
      rfl
    have hfree' : ("**/" ++ l).toList.any isBrace = false := by
      rw [hwritten]
      exact hfree
    have hclose := classesClose_of_braceFree hfree'
    have hread := read_called hordinary
    rw [← hwritten] at hread
    obtain ⟨gs, hgs, haccepts⟩ := exists_of_read hsize hclose hread
    refine ⟨gs, hgs, fun path => ?_⟩
    rw [haccepts, String.toList_append, ← String.toList_inj]
    exact matches_called hlist (fun h => hdots (String.toList_inj.mp h)) path.toList

/-- A name of two bytes for one character, and a text with a slash whose last component is `..`: on paths
with empty components and points. -/
theorem accepts_directoryGlobs_parent :
    (∀ c ∈ "é".toList, Wildcard.ordinary c = true) ∧ (∀ c ∈ "a/..".toList, Wildcard.ordinary c = true) ∧
      (∃ gs, ofStrings ["é/**"] = .ok gs ∧ gs.accepts "é//.." = true ∧ gs.accepts "é" = false) ∧
      (∃ gs, ofStrings ["**/é"] = .ok gs ∧ gs.accepts "..//é" = true ∧ gs.accepts "é/." = false) ∧
      ∃ gs, ofStrings ["**/a/.."] = .ok gs ∧ gs.accepts "./a/.." = true ∧ gs.accepts "ba/.." = false := by
  have hname : ∀ c ∈ "é".toList, Wildcard.ordinary c = true := List.all_eq_true.mp (by decide +kernel)
  have hparent : ∀ c ∈ "a/..".toList, Wildcard.ordinary c = true :=
    List.all_eq_true.mp (by decide +kernel)
  obtain ⟨hinside, hcalled⟩ := accepts_directoryGlobs (l := "é") (by decide) hname
  obtain ⟨gs, hgs, haccepts⟩ := hinside (by decide)
  obtain ⟨gs', hgs', haccepts'⟩ := hcalled (by decide) (by decide)
  obtain ⟨gs'', hgs'', haccepts''⟩ :=
    (accepts_directoryGlobs (l := "a/..") (by decide) hparent).2 (by decide) (by decide)
  simp only [← Bool.not_eq_true]
  refine ⟨hname, hparent, ⟨gs, hgs, ?_, ?_⟩, ⟨gs', hgs', ?_, ?_⟩, gs'', hgs'', ?_, ?_⟩
  · exact (haccepts _).mpr (by decide)
  · exact mt (haccepts _).mp (by decide)
  · exact (haccepts' _).mpr (by decide)
  · exact mt (haccepts' _).mp (by decide)
  · exact (haccepts'' _).mpr (by decide)
  · exact mt (haccepts'' _).mp (by decide)

end PathGlobs
end PullTriage
