import PullTriage.Proofs.PropertyNames
import PullTriage.Regex.Class

/-!
  PullTriage.Proofs.QuietText: verbose text without surprises.

  A verbose pattern skips blanks and comments.  The parser knows what it skips; anything that goes by the
  characters alone does not, and may be surprised by the text of a comment, and by a closing bracket that
  belongs to a class but not to its end:

        (?x) a # (?-i)        (?x) [ ](?-i)]        (?x) [+- # to\n](?-i)]

  In the first a flag group stands in a comment.  In the second the closing bracket is the first member of
  the class, since the blank before it is skipped, and in the third it is the end of a range, since a
  comment keeps the parser from seeing it behind the hyphen.  A text is quiet when it holds nothing of the
  kind: comments without brackets, backslashes and opening parentheses, and no such closing brackets.
-/

namespace PullTriage.Regex

/-! ## §1. Quiet texts. -/

/-- What stands behind the bracket that opens a class, and behind a caret and what is skipped around
it. -/
def classText (v : Bool) (cs : List Char) : List Char :=
  match skip v cs with
  | '^' :: rest => skip v rest
  | rest => rest

/-- Behind the bracket that opens a class, a closing bracket is the first member, but does not stand right
behind the bracket or its caret. -/
def hidesMember (cs : List Char) : Bool :=
  (classText true cs).head? = some ']' && cs.head? ≠ some ']' && cs.take 2 ≠ ['^', ']']

/-- Behind a hyphen comes a closing bracket, but the parser that looks ahead does not see it. -/
def hidesEnd (cs : List Char) : Bool :=
  (skip true cs).head? = some ']' && peekPast true ('-' :: cs) ≠ some ']'

/-- Up to the end of the line there are no brackets, backslashes and opening parentheses. -/
def plainComment (cs : List Char) : Bool := (cs.takeWhile (· != '\n')).all isOrdinary

/-- Escapes apart, all comments are plain and no closing bracket is hidden. -/
def quiet : List Char → Bool
  | [] => true
  | ['\\'] => true
  | '\\' :: _ :: rest => quiet rest
  | '#' :: rest => plainComment rest && quiet rest
  | '[' :: rest => !hidesMember rest && quiet rest
  | '-' :: rest => !hidesEnd rest && quiet rest
  | _ :: rest => quiet rest

/-- Where the pattern is verbose the text is quiet. -/
def QuietIf (verbose : Bool) (cs : List Char) : Prop := verbose = true → quiet cs = true

theorem QuietIf.of_false (cs : List Char) : QuietIf false cs := fun h => nomatch h

/-- Where a comment is open it is plain. -/
def PlainIf (comment : Bool) (cs : List Char) : Prop := comment = true → plainComment cs = true

theorem PlainIf.of_false (cs : List Char) : PlainIf false cs := fun h => nomatch h

section Quiet

variable {c : Char} {cs : List Char}

/-- What follows a character of a quiet text is quiet, unless that is a backslash. -/
theorem quiet_tail (h : quiet (c :: cs) = true) (hc : c ≠ '\\') : quiet cs = true := by
  unfold quiet at h
  split at h
  case h_1 heq => cases heq
  case h_2 heq => exact absurd (List.cons.inj heq).1 hc
  case h_3 heq => exact absurd (List.cons.inj heq).1 hc
  case h_7 heq => exact (List.cons.inj heq).2 ▸ h
  all_goals
    rename_i heq
    exact (List.cons.inj heq).2 ▸ (Bool.and_eq_true_iff.mp h).2

/-- What follows the character behind a backslash is quiet. -/
theorem quiet_escaped (h : quiet ('\\' :: c :: cs) = true) : quiet cs = true := by
  rwa [quiet] at h

/-- A comment of a quiet text is plain. -/
theorem plainIf_of_quiet (h : quiet ('#' :: cs) = true) : PlainIf true cs := by
  rw [quiet, Bool.and_eq_true] at h
  exact fun _ => h.1

/-- Behind an opening bracket of a quiet text no closing bracket is hidden. -/
theorem hidesMember_of_quiet (h : quiet ('[' :: cs) = true) : hidesMember cs = false := by
  rw [quiet, Bool.and_eq_true, Bool.not_eq_true'] at h
  exact h.1

/-- Nor is one behind a hyphen. -/
theorem hidesEnd_of_quiet (h : quiet ('-' :: cs) = true) : hidesEnd cs = false := by
  rw [quiet, Bool.and_eq_true, Bool.not_eq_true'] at h
  exact h.1

/-- A text stays quiet when characters are taken from its front, unless an escape is torn apart. -/
theorem quiet_of_append {pre : List Char} (hpre : ∀ c ∈ pre, c ≠ '\\') (h : quiet (pre ++ cs) = true) :
    quiet cs = true := by
  induction pre with
  | nil => exact h
  | cons c pre ih =>
    obtain ⟨hc, hpre⟩ := List.forall_mem_cons.mp hpre
    exact ih hpre (quiet_tail h hc)

/-- A plain comment goes on as one until its line ends. -/
theorem PlainIf.tail (h : PlainIf true (c :: cs)) :
    isOrdinary c = true ∧ PlainIf (c != '\n') cs := by
  have hplain := h rfl
  unfold plainComment at hplain
  rw [List.takeWhile_cons] at hplain
  split at hplain
  case isTrue =>
    rw [List.all_cons, Bool.and_eq_true] at hplain
    exact ⟨hplain.1, fun _ => hplain.2⟩
  case isFalse hend =>
    refine ⟨?_, fun hc => absurd hc hend⟩
    obtain rfl : c = '\n' := by simpa using hend
    decide

end Quiet

/-! ## §2. Looking ahead. -/

/-- Where the text is quiet, a closing bracket behind a hyphen is seen. -/
theorem close_of_peekPast {v : Bool} {cs : List Char} (hq : QuietIf v ('-' :: cs))
    (h : peekPast v ('-' :: cs) ≠ some ']') : (skip v cs).head? ≠ some ']' := by
  cases v with
  | false => exact h
  | true =>
    intro hclose
    have hshown := hidesEnd_of_quiet (hq rfl)
    unfold hidesEnd at hshown
    simp [hclose, h] at hshown

end PullTriage.Regex
