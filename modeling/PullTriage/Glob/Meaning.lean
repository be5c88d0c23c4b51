import PullTriage.Pattern.Positions
import PullTriage.Glob.Token

/-!
  PullTriage.Glob.Meaning: the pattern over bytes that a glob stands for.

  Paths are matched byte by byte: `?` and a class match exactly one byte, and a class holds the bytes
  of its characters. Slashes are bytes like any other.
-/

namespace PullTriage.Glob

/-- The bytes of a character in UTF-8. -/
def charBytes (c : Char) : List Nat := (String.utf8EncodeChar c).map UInt8.toNat

/-- The bytes of a text in UTF-8. -/
def pathBytes (text : String) : List Nat := text.toList.flatMap charBytes

/-- The test of a step. -/
inductive ByteTest where
  | byte (b : Nat)
  | any
  | oneOf (negated : Bool) (ranges : List (Nat × Nat))
  deriving DecidableEq, Repr, Inhabited

/-- Whether a byte passes a test. -/
def ByteTest.contains : ByteTest → Nat → Bool
  | byte b, c => b == c
  | any, _ => true
  | oneOf negated ranges, c => (ranges.any fun r => r.1 ≤ c && c ≤ r.2) != negated

/-- Globs have no conditions on positions. -/
def noGuard : Empty → Option Nat → Option Nat → Bool := fun e => nomatch e

/-- Patterns over bytes. -/
abbrev BytePattern := Pattern ByteTest Empty

/-- The bytes that stand for a range of characters: those of its ends one by one, except that the
last byte of the lower end and the first byte of the upper end are the ends of a range of bytes. -/
def byteRanges (low high : Char) : List (Nat × Nat) :=
  let single := fun b : Nat => (b, b)
  let a := charBytes low
  let b := charBytes high
  if low = high then a.map single
  else a.dropLast.map single ++ [(a.getLastD 0, b.headD 0)] ++ b.tail.map single

/-- One slash. -/
def slash : BytePattern := .step (.byte 0x2F)

/-- Anything. -/
def anything : BytePattern := .star (.step .any)

/-- One pattern or another; `none` if there is none. -/
def eitherOf? : List BytePattern → Option BytePattern
  | [] => none
  | [p] => some p
  | p :: rest => (eitherOf? rest).map (.alt p)

mutual

/-- The pattern of a piece; `none` for a group whose branches are all empty. -/
def tokenPattern? : Token → Option BytePattern
  | .literal c => some (.ofList ((charBytes c).map fun b => .step (.byte b)))
  | .any => some (.step .any)
  | .anyRun => some anything
  | .directoriesFirst => some (.alt (.optional slash) (.seq anything slash))
  | .directoriesLast => some (.seq slash anything)
  | .directoriesBetween => some (.alt slash (.seq slash (.seq anything slash)))
  | .oneOf negated ranges =>
    some (.step (.oneOf negated (ranges.flatMap fun r => byteRanges r.1 r.2)))
  | .alternatives branches => eitherOf? (branchPatterns branches)

/-- The patterns of the branches that are not empty. -/
def branchPatterns : List (List Token) → List BytePattern
  | [] => []
  | ts :: rest =>
    match tokenPatterns ts with
    | [] => branchPatterns rest
    | ps => .ofList ps :: branchPatterns rest

/-- The patterns of pieces, without those that say nothing. -/
def tokenPatterns : List Token → List BytePattern
  | [] => []
  | t :: rest =>
    match tokenPattern? t with
    | none => tokenPatterns rest
    | some p => p :: tokenPatterns rest

end

/-- The pattern of a whole glob. A `**` on its own matches everything. -/
def globPattern (tokens : List Token) : BytePattern :=
  match tokens with
  | [.directoriesFirst] => anything
  | ts => .ofList (tokenPatterns ts)

/-- Whether a glob matches a path by its pattern. -/
def patternMatches (tokens : List Token) (path : List Nat) : Bool :=
  (globPattern tokens).matchesWhole ByteTest.contains noGuard path

end PullTriage.Glob
