import PullTriage.Proofs.GlobRuns

/-!
  PullTriage.Proofs.GlobReading: what the tokens of a glob stand for.

  Along a run of the reader over pieces without plain braces, the language of the tokens grows by the
  language of the pieces.  So the tokens that a valid glob is read to stand for the paths that its pieces
  accept.

  Layers:
    * §1: the language along a run;
    * §2: a glob that begins with `**` and a slash, or with `**` only.

  Main statements: `Reads.words_of_initial`, `read_text`.
-/

namespace PullTriage.Glob

/-! ## §1. The language along a run. -/

namespace State

/-- The language of the tokens read so far. -/
def row (s : State) : Language Nat := rowWords s.level.current.reverse

/-- A token that is added follows those before. -/
theorem row_push (s : State) (t : Token) (c : Char) : (s.push t c).row = s.row * rowWords [t] := by
  show rowWords (t :: s.level.current).reverse = _
  rw [List.reverse_cons, rowWords_append]
  rfl

theorem fresh_push (s : State) (t : Token) (c : Char) : (s.push t c).fresh = (c == '/') := rfl

/-- Something other than a single `**` at the beginning was read, and where a component may begin, the
last token ends in a slash that a `**` can take over. -/
structure Ready (s : State) : Prop where
  ne_nil : s.level.current ≠ []
  ne_first : s.level.current ≠ [.directoriesFirst]
  slash : s.previous = some '/' → ∃ ts,
    s.level.current = .literal '/' :: ts ∨ s.level.current = .directoriesBetween :: ts

/-- A token other than a `**` at the beginning makes the state ready. -/
theorem Ready.push (s : State) {t : Token} {c : Char} (ht : t ≠ .directoriesFirst)
    (hc : c = '/' → t = .literal '/') : (s.push t c).Ready := by
  refine ⟨List.cons_ne_nil _ _, ?_, ?_⟩
  · intro heq
    exact ht (List.cons.inj heq).1
  · intro hslash
    rw [hc (Option.some.inj hslash)]
    exact ⟨s.level.current, .inl rfl⟩

section Ready

variable {s : State} (h : s.Ready) (hfresh : s.fresh = true)

include h

/-- A state that is ready is not at the start. -/
theorem Ready.isBranchStart : s.isBranchStart = false := by
  unfold State.isBranchStart
  simpa using h.ne_nil

include hfresh

/-- Before a `**` stands a slash or another `**`. -/
theorem Ready.exists_slash : ∃ ts,
    s.level.current = .literal '/' :: ts ∨ s.level.current = .directoriesBetween :: ts := by
  apply h.slash
  unfold State.fresh at hfresh
  rw [h.isBranchStart] at hfresh
  simpa using hfresh

/-- A `**` with its slash makes the slash before it directories. -/
theorem Ready.enterDirectories : s.enterDirectories.Ready ∧ s.enterDirectories.fresh = true ∧
    s.enterDirectories.row = s.row * directories := by
  obtain ⟨ts, hts⟩ := h.exists_slash hfresh
  have henter : s.enterDirectories =
      ⟨{ s.level with current := .directoriesBetween :: ts }, s.outer, some '/'⟩ := by
    unfold State.enterDirectories State.replaceLast
    rw [h.isBranchStart]
    rcases hts with hts | hts <;> rw [hts] <;> rfl
  rw [henter]
  refine ⟨⟨List.cons_ne_nil _ _, by simp, fun _ => ⟨ts, .inr rfl⟩⟩, rfl, ?_⟩
  unfold row
  rw [List.reverse_cons, rowWords_append, rowWords_directoriesBetween]
  rcases hts with hts | hts
  · rw [hts, List.reverse_cons, rowWords_append, rowWords_literal, mul_assoc]
    rfl
  · rw [hts, List.reverse_cons, rowWords_append, rowWords_directoriesBetween, mul_assoc, mul_assoc,
      directories_mul_directories]

/-- A `**` at the end makes the slash before it anything. -/
theorem Ready.endDirectories : s.endDirectories.level.current ≠ [.directoriesFirst] ∧
    s.endDirectories.row = s.row * ⊤ := by
  obtain ⟨ts, hts⟩ := h.exists_slash hfresh
  have hend : s.endDirectories.level.current = .directoriesLast :: ts := by
    unfold State.endDirectories State.replaceLast
    rw [h.isBranchStart]
    rcases hts with hts | hts <;> rw [hts] <;> rfl
  refine ⟨by simp [hend], ?_⟩
  unfold row
  rw [hend, List.reverse_cons, rowWords_append, rowWords_directoriesLast]
  rcases hts with hts | hts
  · rw [hts, List.reverse_cons, rowWords_append, rowWords_literal, mul_assoc]
    rfl
  · rw [hts, List.reverse_cons, rowWords_append, rowWords_directoriesBetween, mul_assoc, mul_assoc,
      directories_mul_top]

end Ready

theorem Ready.pushTwoRuns (s : State) : s.pushTwoRuns.Ready :=
  Ready.push _ (by simp) (fun h => absurd h (by decide))

/-- Two runs are anything twice. -/
theorem row_pushTwoRuns (s : State) : s.pushTwoRuns.row = s.row * (⊤ * ⊤) := by
  unfold State.pushTwoRuns
  rw [row_push, row_push, rowWords_anyRun, mul_assoc]

end State

/-- A piece is no `**`, and one that ends in a slash is the slash. -/
theorem Piece.token_spec {p : Piece} {t : Token} (h : p.token = .ok t) :
    t ≠ .directoriesFirst ∧ (p.last = '/' → t = .literal '/') := by
  cases p with
  | plain c =>
      obtain rfl := Except.ok.inj h
      constructor
      · split
        case isTrue => simp
        case isFalse => split <;> simp
      · rintro rfl
        rfl
  | escaped c =>
      obtain rfl := Except.ok.inj h
      exact ⟨by simp, fun hc => by rw [← hc]; rfl⟩
  | bracket mark members =>
      obtain ⟨k, -, rfl⟩ := exists_of_token_bracket h
      exact ⟨by simp [ClassState.close], fun hc => absurd hc (by simp [last])⟩

/-- A piece ends in a slash if it is one. -/
theorem Piece.last_slash (p : Piece) : (p.last == '/') = p.isSlash := by
  cases p <;> rfl

/-- A piece makes the state ready. -/
theorem Piece.ready_push (s : State) {p : Piece} {t : Token} (h : p.token = .ok t) :
    (s.push t p.last).Ready :=
  .push s (token_spec h).1 (token_spec h).2

/-- Two stars that are no `**` stand for anything twice. -/
theorem spelled_runs {fresh : Bool} {ps : List Piece}
    (h : fresh = true → ps.head? ≠ some (.plain '/')) :
    spelled fresh (.plain '*' :: .plain '*' :: ps) = ⊤ * ⊤ * spelled false ps := by
  rw [spelled_cons, words_star, mul_assoc]
  · exact congrArg (⊤ * ·) (spelled_cons (fun h => nomatch h))
  · rintro hfresh rest heq
    obtain ⟨-, heq⟩ := List.cons.inj heq
    obtain ⟨-, rfl⟩ := List.cons.inj heq
    exact h hfresh rfl

/-- A piece at which no `**` begins stands for what it stands for on its own. -/
theorem spelled_piece {fresh : Bool} {p : Piece} {ps : List Piece}
    (h : p = .plain '*' → ps.head? ≠ some (.plain '*')) :
    spelled fresh (p :: ps) = p.words * spelled p.isSlash ps := by
  apply spelled_cons
  rintro - rest heq
  obtain ⟨rfl, rfl⟩ := List.cons.inj heq
  exact h rfl rfl

/-- `**` at the end, where a component begins, stands for anything. -/
theorem spelled_end : spelled true [.plain '*', .plain '*'] = ⊤ := by
  rw [spelled_runs (fun _ => by simp), spelled_nil, mul_one, top_mul_top]

/-- A token adds what its piece stands for. -/
theorem State.row_piece (s : State) {fresh : Bool} {p : Piece} {ps : List Piece} {t : Token}
    (token : p.token = .ok t) (single : p = .plain '*' → ps.head? ≠ some (.plain '*')) :
    (s.push t p.last).row * spelled (s.push t p.last).fresh ps = s.row * spelled fresh (p :: ps) := by
  rw [row_push, fresh_push, p.last_slash, spelled_piece single, p.words_eq token, mul_assoc]

/-- Two stars add what they stand for. -/
theorem State.row_runs (s : State) {fresh : Bool} {ps : List Piece}
    (h : fresh = true → ps.head? ≠ some (.plain '/')) :
    s.pushTwoRuns.row * spelled s.pushTwoRuns.fresh ps =
      s.row * spelled fresh (.plain '*' :: .plain '*' :: ps) := by
  rw [row_pushTwoRuns, spelled_runs h, mul_assoc]
  rfl

/-- Along a run the language grows by that of the pieces. -/
theorem Reads.row_eq {s s' : State} {ps : List Piece} (h : Reads s ps s') (hs : s.Ready) :
    s'.level.current ≠ [.directoriesFirst] ∧ s'.row = s.row * spelled s.fresh ps := by
  induction h with
  | done => exact ⟨hs.ne_first, by rw [spelled_nil, mul_one]⟩
  | @piece s p ps t s' token single _ ih =>
      obtain ⟨hne, hrow⟩ := ih (Piece.ready_push s token)
      exact ⟨hne, hrow.trans (s.row_piece token single)⟩
  | @runs s ps s' inside _ ih =>
      obtain ⟨hne, hrow⟩ := ih (.pushTwoRuns s)
      exact ⟨hne, hrow.trans (s.row_runs fun hfresh => (inside hfresh).2)⟩
  | @enter s ps s' fresh _ ih =>
      obtain ⟨hready, hfresh, hentered⟩ := hs.enterDirectories fresh
      obtain ⟨hne, hrow⟩ := ih hready
      refine ⟨hne, ?_⟩
      rw [hrow, hentered, hfresh, fresh, spelled_directories, mul_assoc]
  | finish fresh =>
      obtain ⟨hne, hrow⟩ := hs.endDirectories fresh
      refine ⟨hne, ?_⟩
      rw [hrow, fresh, spelled_end]

/-! ## §2. Globs that begin with `**`. -/

/-- A glob that begins with a piece other than `**` is not made of directories only. -/
theorem onlyDirectories_piece {p : Piece} {ps : List Piece}
    (h : p = .plain '*' → ps.head? ≠ some (.plain '*')) : onlyDirectories (p :: ps) = false := by
  apply onlyDirectories.eq_3
  · exact List.cons_ne_nil _ _
  · intro rest heq
    obtain ⟨rfl, rfl⟩ := List.cons.inj heq
    exact h rfl rfl

/-- Nor is one that begins with two stars and no slash. -/
theorem onlyDirectories_runs {ps : List Piece} (h : ps.head? ≠ some (.plain '/')) :
    onlyDirectories (.plain '*' :: .plain '*' :: ps) = false := by
  apply onlyDirectories.eq_3
  · exact List.cons_ne_nil _ _
  · intro rest heq
    obtain ⟨-, heq⟩ := List.cons.inj heq
    obtain ⟨-, rfl⟩ := List.cons.inj heq
    exact h rfl

namespace State

/-- The language of a glob whose reading ends in a state. -/
def words (s : State) : Language Nat := globWords s.level.current.reverse

/-- Tokens in a row stand for what they say, a `**` alone apart. -/
theorem words_eq {s : State} (h : s.level.current ≠ [.directoriesFirst]) : s.words = s.row :=
  globWords_eq fun heq => h (List.reverse_eq_iff.mp heq)

/-- A `**` alone stands for anything. -/
theorem words_first {s : State} (h : s.level.current = [.directoriesFirst]) : s.words = ⊤ := by
  unfold words
  rw [h]
  exact globWords_directoriesFirst

/-- In a row it stands for directories. -/
theorem row_first {s : State} (h : s.level.current = [.directoriesFirst]) : s.row = directories := by
  unfold row
  rw [h]
  exact rowWords_directoriesFirst

/-- Further `**` behind a first one leave it as it is. -/
theorem current_enterDirectories {s : State} (h : s.level.current = [.directoriesFirst]) :
    s.enterDirectories.level.current = [.directoriesFirst] ∧
      s.enterDirectories.previous = some '/' := by
  unfold enterDirectories isBranchStart replaceLast
  rw [h]
  exact ⟨h, rfl⟩

theorem current_endDirectories {s : State} (h : s.level.current = [.directoriesFirst]) :
    s.endDirectories.level.current = [.directoriesFirst] := by
  unfold endDirectories isBranchStart replaceLast
  rw [h]
  exact h

end State

/-- A run that begins behind a first `**` with its slash. -/
theorem Reads.words_of_first {s s' : State} {ps : List Piece} (h : Reads s ps s')
    (hcurrent : s.level.current = [.directoriesFirst]) (hprevious : s.previous = some '/') :
    s'.words = if onlyDirectories ps then ⊤ else directories * spelled true ps := by
  induction h with
  | done => exact State.words_first hcurrent
  | @piece s p ps t s' token single rest _ =>
      obtain ⟨hne, hrow⟩ := rest.row_eq (Piece.ready_push s token)
      rw [onlyDirectories_piece single, State.words_eq hne, hrow, s.row_piece token single,
        State.row_first hcurrent]
      rfl
  | @runs s ps s' inside rest _ =>
      obtain ⟨hne, hrow⟩ := rest.row_eq (.pushTwoRuns s)
      -- the slash before the stars makes them a component of their own, unless more follows
      have hslash : ps.head? ≠ some (.plain '/') := by
        refine (inside ?_).2
        simp [State.fresh, hprevious]
      rw [onlyDirectories_runs hslash, State.words_eq hne, hrow, s.row_runs (fun _ => hslash),
        State.row_first hcurrent]
      rfl
  | @enter s ps s' _ rest ih =>
      obtain ⟨hcurrent', hprevious'⟩ := State.current_enterDirectories hcurrent
      rw [ih hcurrent' hprevious', spelled_directories, ← mul_assoc, directories_mul_directories]
      rfl
  | finish _ =>
      rw [State.words_first (State.current_endDirectories hcurrent), spelled_end,
        directories_mul_top]
      rfl

/-- A run over a whole glob. -/
theorem Reads.words_of_initial {s' : State} {ps : List Piece} (h : Reads .initial ps s') :
    s'.words = if ps ≠ [] ∧ onlyDirectories ps then ⊤ else spelled true ps := by
  have hinitial : State.initial.row = 1 := rfl
  cases h with
  | done =>
      rw [State.words_eq (by simp [State.initial]), spelled_nil, if_neg (by simp)]
      rfl
  | piece token single rest =>
      obtain ⟨hne, hrow⟩ := rest.row_eq (Piece.ready_push _ token)
      rw [if_neg (by simp [onlyDirectories_piece single]), State.words_eq hne, hrow,
        State.row_piece _ token single, hinitial, one_mul]
  | runs inside rest =>
      obtain ⟨hne, hrow⟩ := rest.row_eq (.pushTwoRuns _)
      have hslash := (inside rfl).2
      rw [if_neg (by simp [onlyDirectories_runs hslash]), State.words_eq hne, hrow,
        State.row_runs _ (fun _ => hslash), hinitial, one_mul]
  | enter _ rest =>
      rw [rest.words_of_first rfl rfl, spelled_directories]
      simp [onlyDirectories]
  | finish _ =>
      rw [State.words_first rfl, spelled_end]
      simp

/-- **Reading a glob without plain braces.** It is read exactly when it is valid, and then its tokens
stand for the paths that its pieces accept. -/
theorem read_text {c : Cut} (hrest : Unfinished c.rest)
    (hpieces : ∀ p ∈ c.pieces, p.WellFormed ∧ ∀ d, p = .plain d → isBrace d = false) :
    (Token.read c.text).isOk = c.isValid ∧
      ∀ ts, Token.read c.text = .ok ts → ∀ path, path ∈ globWords ts ↔ c.Accepts path := by
  have houtcome : Outcome .initial c (readTokens .initial c.text) :=
    outcome_readTokens hrest hpieces rfl
  unfold Token.read
  rcases houtcome with ⟨hvalid, s, hread, houter, hrun⟩ | ⟨hinvalid, e, hread⟩
  · rw [hread, hvalid]
    simp only [houter, List.isEmpty_nil, if_true]
    refine ⟨rfl, ?_⟩
    intro ts hts path
    obtain rfl := Except.ok.inj hts
    show path ∈ s.words ↔ _
    rw [hrun.words_of_initial]
    unfold Cut.Accepts
    -- a glob of stars and slashes alone stands for every path
    by_cases honly : c.pieces ≠ [] ∧ onlyDirectories c.pieces = true
    · rw [if_pos honly]
      exact iff_of_true (mem_top path) (.inr honly)
    · rw [if_neg honly]
      exact ⟨.inl, fun h => h.resolve_right honly⟩
  · rw [hread, hinvalid]
    exact ⟨rfl, fun ts hts => nomatch hts⟩

end PullTriage.Glob
