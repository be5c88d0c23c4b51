import PullTriage.Glob.Braces

/-!
  PullTriage.Proofs.GlobPieces: braces and the pieces of a glob as it is written.

  A written glob falls into plain characters, characters after a backslash, and classes.  Inside a class
  a backslash is a member like any other, a closing bracket at the beginning is a member, and the next
  closing bracket closes the class.  Putting braces into classes of their own replaces plain braces and
  keeps all other pieces as they are, as long as no class that ends in an unpaired backslash stands
  before a brace.

  Layers:
    * §1: cutting a glob into pieces, and which pieces come out;
    * §2: what the rewriting does to one piece, and to what is left of a piece that breaks off;
    * §3: the whole glob.

  Main statement: `cut_literalBraces`.
-/

namespace PullTriage.Glob

/-! ## §1. Pieces. -/

/-- A piece of a glob as it is written. -/
inductive Piece where
  | plain (c : Char)
  /-- A character after a backslash. -/
  | escaped (c : Char)
  /-- A class: the `!` or `^` at its beginning, and its members with their hyphens. -/
  | bracket (mark : Option Char) (members : List Char)
  deriving DecidableEq, Repr

/-- How a piece is written. -/
def Piece.text : Piece → List Char
  | plain c => [c]
  | escaped c => ['\\', c]
  | bracket mark members => '[' :: (mark.toList ++ (members ++ [']']))

/-- The pieces of a glob, and what is left at its end of a piece that breaks off. -/
structure Cut where
  pieces : List Piece
  rest : List Char
  deriving DecidableEq, Repr

namespace Cut

/-- Put a piece in front. -/
def cons (p : Piece) (c : Cut) : Cut := ⟨p :: c.pieces, c.rest⟩

/-- How the pieces are written. -/
def text (c : Cut) : List Char := c.pieces.flatMap Piece.text ++ c.rest

theorem text_cons (p : Piece) (c : Cut) : (c.cons p).text = p.text ++ c.text := by
  unfold text cons
  rw [List.flatMap_cons, List.append_assoc]

end Cut

mutual

/-- Cut a glob outside a class. -/
def cut : List Char → Cut
  | [] => ⟨[], []⟩
  | ['\\'] => ⟨[], ['\\']⟩
  | '\\' :: c :: rest => (cut rest).cons (.escaped c)
  | '[' :: '!' :: rest => cutBracket (some '!') [] rest
  | '[' :: '^' :: rest => cutBracket (some '^') [] rest
  | '[' :: rest => cutBracket none [] rest
  | c :: rest => (cut rest).cons (.plain c)

/-- Cut a glob inside a class that has had `members` so far. -/
def cutBracket (mark : Option Char) (members : List Char) : List Char → Cut
  | [] => ⟨[], '[' :: (mark.toList ++ members)⟩
  | ']' :: rest =>
    if members.isEmpty then cutBracket mark [']'] rest
    else (cut rest).cons (.bracket mark members)
  | c :: rest => cutBracket mark (members ++ [c]) rest

end

/-- The characters between the opening of a class and the bracket that closes it, or the end of the
glob: a closing bracket stands first or not at all, and what could be a mark is one. -/
structure Enclosed (mark : Option Char) (body : List Char) : Prop where
  mark_mem : mark ∈ [none, some '!', some '^']
  unmarked : mark = none → body.head? ≠ some '!' ∧ body.head? ≠ some '^'
  close : ']' ∉ body.tail

theorem mark_cases {mark : Option Char} (h : mark ∈ [none, some '!', some '^']) :
    mark = none ∨ mark = some '!' ∨ mark = some '^' := by
  simpa using h

/-- What follows the members of a class is never taken for its mark. -/
theorem Enclosed.unmarked_append {mark : Option Char} {members : List Char}
    (h : Enclosed mark members) (hne : members ≠ []) (rest : List Char) (hmark : mark = none) :
    (members ++ rest).head? ≠ some '!' ∧ (members ++ rest).head? ≠ some '^' := by
  cases members with
  | nil => exact absurd rfl hne
  | cons m members => exact h.unmarked hmark

theorem Piece.text_bracket_append (mark : Option Char) (members rest : List Char) :
    (bracket mark members).text ++ rest = '[' :: (mark.toList ++ (members ++ ']' :: rest)) := by
  simp [text]

/-- Pieces that the cutting produces. -/
def Piece.WellFormed : Piece → Prop
  | plain c => c ≠ '\\' ∧ c ≠ '['
  | escaped _ => True
  | bracket mark members => Enclosed mark members ∧ members ≠ []

/-- What can be left at the end of a glob. -/
inductive Unfinished : List Char → Prop
  | nothing : Unfinished []
  | backslash : Unfinished ['\\']
  | bracket {mark : Option Char} {body : List Char} (h : Enclosed mark body) :
      Unfinished ('[' :: (mark.toList ++ body))

/-- The opening of a class and what it encloses. -/
theorem exists_mark (text : List Char) : ∃ mark body, text = mark.toList ++ body ∧
    mark ∈ [none, some '!', some '^'] ∧
      (mark = none → body.head? ≠ some '!' ∧ body.head? ≠ some '^') := by
  by_cases hbang : text.head? = some '!'
  · obtain ⟨body, rfl⟩ := List.head?_eq_some_iff.mp hbang
    exact ⟨some '!', body, rfl, by simp, by simp⟩
  · by_cases hcaret : text.head? = some '^'
    · obtain ⟨body, rfl⟩ := List.head?_eq_some_iff.mp hcaret
      exact ⟨some '^', body, rfl, by simp, by simp⟩
    · exact ⟨none, text, rfl, by simp, fun _ => ⟨hbang, hcaret⟩⟩

/-- A closing bracket at the beginning does not count; the next one closes. -/
theorem exists_close (body : List Char) : ']' ∉ body.tail ∨
    ∃ members rest, body = members ++ ']' :: rest ∧ members ≠ [] ∧ ']' ∉ members.tail := by
  cases body with
  | nil => exact .inl List.not_mem_nil
  | cons c body =>
      by_cases hclose : ']' ∈ body
      · obtain ⟨members, rest, rfl, hfree⟩ := List.eq_append_cons_of_mem hclose
        exact .inr ⟨c :: members, rest, rfl, List.cons_ne_nil _ _, hfree⟩
      · exact .inl hclose

/-- A glob begins with a piece, or it breaks off in one. -/
theorem exists_piece (glob : List Char) :
    Unfinished glob ∨ ∃ p rest, glob = Piece.text p ++ rest ∧ p.WellFormed := by
  cases glob with
  | nil => exact .inl .nothing
  | cons c glob =>
      by_cases hbackslash : c = '\\'
      · subst hbackslash
        cases glob with
        | nil => exact .inl .backslash
        | cons c rest => exact .inr ⟨.escaped c, rest, rfl, trivial⟩
      by_cases hbracket : c = '['
      · subst hbracket
        obtain ⟨mark, body, rfl, hmark, hunmarked⟩ := exists_mark glob
        rcases exists_close body with hopen | ⟨members, rest, rfl, hne, hfree⟩
        · exact .inl (.bracket ⟨hmark, hunmarked, hopen⟩)
        · right
          refine ⟨.bracket mark members, rest, by simp [Piece.text], ⟨hmark, ?_, hfree⟩, hne⟩
          cases members with
          | nil => exact absurd rfl hne
          | cons m members => exact hunmarked
      · exact .inr ⟨.plain c, glob, rfl, hbackslash, hbracket⟩

theorem cutBracket_close (mark : Option Char) {members : List Char} (h : members ≠ [])
    (rest : List Char) :
    cutBracket mark members (']' :: rest) = (cut rest).cons (.bracket mark members) := by
  rw [cutBracket.eq_2, if_neg]
  simpa using h

theorem cutBracket_member (mark : Option Char) {members : List Char} {c : Char}
    (h : c = ']' → members = []) (rest : List Char) :
    cutBracket mark members (c :: rest) = cutBracket mark (members ++ [c]) rest := by
  by_cases hc : c = ']'
  · subst hc
    rw [h rfl, cutBracket.eq_2]
    rfl
  · rw [cutBracket.eq_3 _ _ _ _ hc]

theorem cutBracket_members (mark : Option Char) {members body : List Char}
    (hfree : ']' ∉ (members ++ body).tail) (rest : List Char) :
    cutBracket mark members (body ++ rest) = cutBracket mark (members ++ body) rest := by
  induction body generalizing members with
  | nil => rw [List.append_nil, List.nil_append]
  | cons c body ih =>
      have hc : c = ']' → members = [] := by
        rintro rfl
        cases members with
        | nil => rfl
        | cons m members => simp at hfree
      rw [List.cons_append, cutBracket_member mark hc, ih (by simpa using hfree), List.append_assoc]
      rfl

/-- Cutting reads the opening of a class. -/
theorem cut_bracket {mark : Option Char} (hmark : mark ∈ [none, some '!', some '^'])
    {text : List Char} (h : mark = none → text.head? ≠ some '!' ∧ text.head? ≠ some '^') :
    cut ('[' :: (mark.toList ++ text)) = cutBracket mark [] text := by
  rcases mark_cases hmark with rfl | rfl | rfl
  · obtain ⟨hbang, hcaret⟩ := h rfl
    apply cut.eq_6
    · rintro rest rfl
      exact hbang rfl
    · rintro rest rfl
      exact hcaret rfl
  · exact cut.eq_4 text
  · exact cut.eq_5 text

/-- Cutting takes a piece off. -/
theorem cut_text_append {p : Piece} (h : p.WellFormed) (rest : List Char) :
    cut (p.text ++ rest) = (cut rest).cons p := by
  cases p with
  | plain c =>
      obtain ⟨hbackslash, hbracket⟩ := h
      apply cut.eq_7
      · exact fun hc _ => hbackslash hc
      · exact fun _ _ hc _ => hbackslash hc
      · exact fun _ hc _ => hbracket hc
      · exact fun _ hc _ => hbracket hc
      · exact hbracket
  | escaped c => exact cut.eq_3 c rest
  | bracket mark members =>
      obtain ⟨hclosed, hne⟩ := h
      rw [Piece.text_bracket_append, cut_bracket hclosed.mark_mem (hclosed.unmarked_append hne _),
        cutBracket_members mark (by simpa using hclosed.close), List.nil_append,
        cutBracket_close mark hne]

/-- Cutting leaves what breaks off. -/
theorem cut_unfinished {rest : List Char} (h : Unfinished rest) : cut rest = ⟨[], rest⟩ := by
  cases h with
  | nothing => rfl
  | backslash => rfl
  | @bracket mark body h =>
      rw [cut_bracket h.mark_mem h.unmarked, ← List.append_nil body,
        cutBracket_members mark (by simpa using h.close)]
      simp [cutBracket]

/-- A statement about globs holds when it holds of what breaks off, and of a piece in front of a glob of
which it holds. -/
theorem piece_induction {motive : List Char → Prop}
    (unfinished : ∀ rest, Unfinished rest → motive rest)
    (piece : ∀ p rest, Piece.WellFormed p → motive rest → motive (p.text ++ rest))
    (glob : List Char) : motive glob := by
  induction hlength : glob.length using Nat.strongRecOn generalizing glob with
  | ind n ih =>
      rcases exists_piece glob with hrest | ⟨p, rest, rfl, hp⟩
      · exact unfinished glob hrest
      · have hshorter : rest.length < n := by
          have hpos : 0 < p.text.length := by cases p <;> simp [Piece.text]
          rw [← hlength, List.length_append]
          omega
        exact piece p rest hp (ih rest.length hshorter rest rfl)

/-- Nothing is lost, and the pieces are well formed. -/
theorem cut_spec (glob : List Char) : (cut glob).text = glob ∧
    (∀ p ∈ (cut glob).pieces, p.WellFormed) ∧ Unfinished (cut glob).rest := by
  induction glob using piece_induction with
  | unfinished rest h =>
      rw [cut_unfinished h]
      exact ⟨rfl, fun p hp => absurd hp List.not_mem_nil, h⟩
  | piece p rest h ih =>
      obtain ⟨htext, hpieces, hrest⟩ := ih
      rw [cut_text_append h, Cut.text_cons, htext]
      refine ⟨rfl, ?_, hrest⟩
      intro q hq
      rcases List.mem_cons.mp hq with rfl | hq
      · exact h
      · exact hpieces q hq

/-- Pieces come out as they were put in. -/
theorem cut_text {c : Cut} (hpieces : ∀ p ∈ c.pieces, p.WellFormed) (hrest : Unfinished c.rest) :
    cut c.text = c := by
  obtain ⟨ps, rest⟩ := c
  induction ps with
  | nil => exact cut_unfinished hrest
  | cons p ps ih =>
      obtain ⟨hp, hps⟩ := List.forall_mem_cons.mp hpieces
      show cut (Cut.cons p ⟨ps, rest⟩).text = _
      rw [Cut.text_cons, cut_text_append hp, ih hps hrest]
      rfl

/-! ## §2. Rewriting a piece. -/

/-- Whether a character is a brace. -/
def isBrace (c : Char) : Bool := c == '\x7b' || c == '\x7d'

/-- A plain brace in a class of its own; other pieces stay. -/
def Piece.protect : Piece → Piece
  | plain c => if isBrace c then bracket none [c] else plain c
  | p => p

/-- Whether every backslash has a character behind it, when a backslash takes the character behind it. -/
def isPaired : List Char → Bool
  | [] => true
  | ['\\'] => false
  | '\\' :: _ :: rest => isPaired rest
  | _ :: rest => isPaired rest

theorem Piece.wellFormed_protect {p : Piece} (h : p.WellFormed) : p.protect.WellFormed := by
  cases p with
  | plain c =>
      unfold protect
      by_cases hbrace : isBrace c = true
      · have hmark : some c ≠ some '!' ∧ some c ≠ some '^' := by
          constructor <;> rintro heq <;> rw [Option.some.inj heq] at hbrace <;> cases hbrace
        simp only [hbrace, if_true]
        exact ⟨⟨by simp, fun _ => hmark, by simp⟩, by simp⟩
      · simp only [hbrace]
        exact h
  | escaped c => exact h
  | bracket mark members => exact h

/-- A character that no case for backslashes applies to. -/
theorem ne_backslash {c : Char} {text : List Char} (hlast : c = '\\' → text = [] → False)
    (hmore : ∀ d rest, c = '\\' → text = d :: rest → False) : c ≠ '\\' := by
  intro hc
  cases text with
  | nil => exact hlast hc rfl
  | cons d rest => exact hmore d rest hc rfl

/-- The rewriting goes through the members of a class. It leaves the class at its end unless the last
backslash takes the closing bracket for its own. -/
theorem bracesInside_members {members : List Char} (h : ']' ∉ members) (rest : List Char) :
    bracesInside (members ++ ']' :: rest) =
      members ++ ']' :: (if isPaired members then bracesOutside rest else bracesInside rest) := by
  fun_induction isPaired members with
  | case1 => exact bracesInside.eq_3 rest
  | case2 => exact bracesInside.eq_2 ']' rest
  | case3 c members ih =>
      rw [List.cons_append, List.cons_append, bracesInside.eq_2, ih (by simp_all)]
      rfl
  | case4 c members hlast hmore ih =>
      obtain ⟨hc, hmembers⟩ := List.ne_and_not_mem_of_not_mem_cons h
      rw [List.cons_append, bracesInside.eq_4, ih hmembers]
      · rfl
      · exact fun _ _ hc' _ => ne_backslash hlast hmore hc'
      · exact hc.symm

/-- The rewriting leaves text without braces as it is. -/
theorem braces_of_braceFree :
    (∀ text : List Char, text.any isBrace = false → bracesOutside text = text) ∧
      ∀ text : List Char, text.any isBrace = false → bracesInside text = text := by
  apply bracesOutside.mutual_induct
  all_goals
    intros
    simp_all [bracesOutside, bracesInside, isBrace]

/-- The rewriting leaves a class that is not closed as it is. -/
theorem bracesInside_of_open {body : List Char} (h : ']' ∉ body) : bracesInside body = body := by
  induction body using isPaired.induct with
  | case1 => rfl
  | case2 => rfl
  | case3 c body ih => rw [bracesInside.eq_2, ih (by simp_all)]
  | case4 c body hlast hmore ih =>
      obtain ⟨hc, hbody⟩ := List.ne_and_not_mem_of_not_mem_cons h
      rw [bracesInside.eq_4, ih hbody]
      · exact fun _ _ hc' _ => ne_backslash hlast hmore hc'
      · exact hc.symm

section Opening

variable {mark : Option Char} (hmark : mark ∈ [none, some '!', some '^'])

include hmark

theorem bracesOutside_openClose (rest : List Char) :
    bracesOutside ('[' :: (mark.toList ++ ']' :: rest)) =
      '[' :: (mark.toList ++ ']' :: bracesInside rest) := by
  rcases mark_cases hmark with rfl | rfl | rfl
  · exact bracesOutside.eq_7 rest
  · exact bracesOutside.eq_3 rest
  · exact bracesOutside.eq_4 rest

theorem bracesOutside_open {text : List Char} (hclose : text.head? ≠ some ']')
    (h : mark = none → text.head? ≠ some '!' ∧ text.head? ≠ some '^') :
    bracesOutside ('[' :: (mark.toList ++ text)) = '[' :: (mark.toList ++ bracesInside text) := by
  have hnot : ∀ rest, text ≠ ']' :: rest := by
    rintro rest rfl
    exact hclose rfl
  rcases mark_cases hmark with rfl | rfl | rfl
  · obtain ⟨hbang, hcaret⟩ := h rfl
    have hnotBang : ∀ rest, text ≠ '!' :: rest := by
      rintro rest rfl
      exact hbang rfl
    have hnotCaret : ∀ rest, text ≠ '^' :: rest := by
      rintro rest rfl
      exact hcaret rfl
    exact bracesOutside.eq_8 text (fun _ => hnotBang _) (fun _ => hnotCaret _) hnotBang hnotCaret hnot
  · exact bracesOutside.eq_5 text hnot
  · exact bracesOutside.eq_6 text hnot

end Opening

/-- The rewriting goes through a class, and leaves it unless the last backslash is unpaired. -/
theorem bracesOutside_bracket {mark : Option Char} {members : List Char}
    (h : (Piece.bracket mark members).WellFormed) (rest : List Char) :
    bracesOutside ((Piece.bracket mark members).text ++ rest) =
      (Piece.bracket mark members).text ++
        (if isPaired members then bracesOutside rest else bracesInside rest) := by
  obtain ⟨hclosed, hne⟩ := h
  cases members with
  | nil => exact absurd rfl hne
  | cons m ms =>
      have hfree : ']' ∉ ms := hclosed.close
      by_cases hm : m = ']'
      · subst hm
        have hpaired : isPaired (']' :: ms) = isPaired ms := by simp [isPaired]
        rw [Piece.text_bracket_append, Piece.text_bracket_append, List.cons_append, List.cons_append,
          bracesOutside_openClose hclosed.mark_mem, bracesInside_members hfree, hpaired]
      · have hopen : bracesOutside ('[' :: (mark.toList ++ (m :: ms ++ ']' :: rest))) =
            '[' :: (mark.toList ++ bracesInside (m :: ms ++ ']' :: rest)) :=
          bracesOutside_open hclosed.mark_mem (by simpa using hm) (hclosed.unmarked_append hne _)
        rw [Piece.text_bracket_append, Piece.text_bracket_append, hopen,
          bracesInside_members (by simp [hfree, Ne.symm hm])]

/-- The rewriting leaves what breaks off as it is. -/
theorem bracesOutside_unfinished {rest : List Char} (h : Unfinished rest) :
    bracesOutside rest = rest := by
  cases h with
  | nothing => rfl
  | backslash => rfl
  | @bracket mark body h =>
      by_cases hclose : body.head? = some ']'
      · obtain ⟨tail, rfl⟩ := List.head?_eq_some_iff.mp hclose
        have hfree : ']' ∉ tail := h.close
        rw [bracesOutside_openClose h.mark_mem, bracesInside_of_open hfree]
      · have hfree : ']' ∉ body := by
          cases body with
          | nil => exact List.not_mem_nil
          | cons c body =>
              have hc : ']' ≠ c := by simpa using Ne.symm hclose
              exact List.not_mem_cons_of_ne_of_not_mem hc h.close
        rw [bracesOutside_open h.mark_mem hclose h.unmarked, bracesInside_of_open hfree]

/-! ## §3. The whole glob. -/

/-- Whether every class that stands before a brace has its backslashes paired, when `rest` follows the
pieces. -/
def classesClose (rest : List Char) : List Piece → Bool
  | [] => true
  | .bracket _ members :: ps =>
    (isPaired members || !(Cut.text ⟨ps, rest⟩).any isBrace) && classesClose rest ps
  | _ :: ps => classesClose rest ps

/-- The pieces with braces put into classes of their own. -/
def Cut.protect (c : Cut) : Cut := ⟨c.pieces.map Piece.protect, c.rest⟩

/-- Text without a brace has no plain brace among its pieces. -/
theorem Cut.text_protect_of_braceFree {c : Cut} (h : c.text.any isBrace = false) :
    c.protect.text = c.text := by
  obtain ⟨ps, rest⟩ := c
  have hstay : ∀ p ∈ ps, p.protect = id p := by
    intro p hp
    cases p with
    | plain c =>
        have hmem : c ∈ text ⟨ps, rest⟩ :=
          List.mem_append_left rest (List.mem_flatMap.mpr ⟨_, hp, List.mem_singleton_self c⟩)
        have hbrace : isBrace c = false := by simpa using List.any_eq_false.mp h c hmem
        simp [Piece.protect, hbrace]
    | escaped c => rfl
    | bracket mark members => rfl
  unfold protect
  rw [List.map_congr_left hstay, List.map_id]

/-- The rewriting of a piece that is no class. -/
theorem bracesOutside_plain {c : Char} (h : (Piece.plain c).WellFormed) (rest : List Char) :
    bracesOutside (c :: rest) = (Piece.plain c).protect.text ++ bracesOutside rest := by
  obtain ⟨hbackslash, hbracket⟩ := h
  by_cases hopen : c = '\x7b'
  · subst hopen
    exact bracesOutside.eq_9 rest
  by_cases hclose : c = '\x7d'
  · subst hclose
    exact bracesOutside.eq_10 rest
  · have hprotect : (Piece.plain c).protect = .plain c := by
      simp [Piece.protect, isBrace, hopen, hclose]
    rw [hprotect]
    apply bracesOutside.eq_11
    · exact fun _ _ hc _ => hbackslash hc
    · exact fun _ hc _ => hbracket hc
    · exact fun _ hc _ => hbracket hc
    · exact fun _ hc _ => hbracket hc
    · exact fun _ hc _ => hbracket hc
    · exact fun _ hc _ => hbracket hc
    · exact hbracket
    · exact hopen
    · exact hclose

theorem bracesOutside_text {c : Cut} (hpieces : ∀ p ∈ c.pieces, p.WellFormed)
    (hrest : Unfinished c.rest) (hclose : classesClose c.rest c.pieces = true) :
    bracesOutside c.text = c.protect.text := by
  obtain ⟨ps, rest⟩ := c
  induction ps with
  | nil => exact bracesOutside_unfinished hrest
  | cons p ps ih =>
      obtain ⟨hp, hps⟩ := List.forall_mem_cons.mp hpieces
      show bracesOutside (Cut.cons p ⟨ps, rest⟩).text =
        (Cut.cons p.protect (Cut.protect ⟨ps, rest⟩)).text
      rw [Cut.text_cons, Cut.text_cons]
      cases p with
      | plain c =>
          rw [← ih hps hrest hclose]
          exact bracesOutside_plain hp _
      | escaped c =>
          rw [← ih hps hrest hclose]
          exact bracesOutside.eq_2 c _
      | bracket mark members =>
          obtain ⟨hseen, hclose⟩ := Bool.and_eq_true_iff.mp hclose
          rw [bracesOutside_bracket hp]
          -- behind a class with an unpaired backslash, no brace may follow
          by_cases hpaired : isPaired members = true
          · rw [if_pos hpaired, ih hps hrest hclose]
            rfl
          · have hfree : (Cut.text ⟨ps, rest⟩).any isBrace = false := by
              simpa [hpaired] using hseen
            rw [if_neg hpaired, Cut.text_protect_of_braceFree hfree, braces_of_braceFree.2 _ hfree]
            rfl

/-- **Braces.** In a glob in which no class that ends in an unpaired backslash stands before a brace, the
rewriting puts every plain brace into a class of its own, and all classes begin and end where they
did. -/
theorem cut_literalBraces {glob : List Char}
    (hclose : classesClose (cut glob).rest (cut glob).pieces = true) :
    cut (literalBraces glob) = (cut glob).protect := by
  obtain ⟨htext, hpieces, hrest⟩ := cut_spec glob
  have hrewritten : literalBraces glob = (cut glob).protect.text := by
    rw [← bracesOutside_text hpieces hrest hclose, htext]
    rfl
  rw [hrewritten]
  apply cut_text
  · intro p hp
    obtain ⟨q, hq, rfl⟩ := List.mem_map.mp hp
    exact Piece.wellFormed_protect (hpieces q hq)
  · exact hrest

end PullTriage.Glob
