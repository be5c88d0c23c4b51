import PullTriage.Regex.Program
import PullTriage.Unicode.Utf8

/-!
  PullTriage.Regex.Automaton: how much memory compiled patterns take.

  Patterns are compiled into an automaton that reads bytes, and into a second one that reads a text
  from its end. Every state takes 32 bytes, and a state with several ways out 8 bytes more for each
  range of bytes or 4 for each state that it leads to without reading. A repetition with a count is
  compiled as that many copies of its body, so a short pattern can be huge; patterns are refused when
  one of the two automata is larger than a limit.

  Equal states of a class are built once. The tables in which they are looked up are taken to be large
  enough here, so for classes of very many ranges the number of states is a lower estimate.

  Main definitions:
    * `Program.size`: the states of one pattern;
    * `fitsLimit`: whether both automata of some patterns are small enough.
-/

namespace PullTriage.Regex

open Unicode (Ranges ByteSequence)

/-- What the symbols of a program are. -/
inductive Alphabet where
  | characters
  | bytes
  deriving DecidableEq, Repr, Inhabited

/-- The bytes of a symbol. -/
def Alphabet.encode : Alphabet → Nat → List Nat
  | characters, c => Unicode.utf8 c
  | bytes, b => [b]

/-- From which end of a text an automaton reads. -/
inductive Direction where
  | forward
  | backward
  deriving DecidableEq, Repr, Inhabited

/-! ## §1. States -/

/-- The size of a state with one way out or none. -/
def stateSize : Nat := 32

/-- The size of a state that reads a byte of one of some ranges. -/
def readingSize (ranges : Nat) : Nat := stateSize + 8 * ranges

/-- The size of a state that leads on to other states without reading. -/
def choiceSize (ways : Nat) : Nat := stateSize + 4 * ways

/-- Numbers added up. -/
def total : List Nat → Nat
  | [] => 0
  | n :: rest => n + total rest

/-! ## §2. Classes -/

/-- The states of a class: each stands for the sequences that may still follow. -/
def suffixStates : Nat → List (List ByteSequence) → List (List ByteSequence)
  | 0, _ => []
  | bytes + 1, states =>
    states ++ suffixStates bytes (states.flatMap fun s => (Unicode.firstBytes s).map Prod.snd)

/-- The size of a class read forwards: states from which the same sequences follow are one. -/
def forwardClassSize (sequences : List ByteSequence) : Nat :=
  let states := ((suffixStates 4 [sequences]).filter fun s => s != [[]]).eraseDups
  stateSize + total (states.map fun s => readingSize (Unicode.firstBytes s).length)

/-- How many different beginnings sequences of so many bytes have. -/
def beginnings : Nat → List ByteSequence → Nat
  | 0, _ => 0
  | bytes + 1, sequences =>
    total ((Unicode.firstBytes sequences).map fun b => beginnings bytes b.2 + 1)

/-- The size of a class read backwards: a choice between the sequences, of which those that begin
alike share states. -/
def backwardClassSize (sequences : List ByteSequence) : Nat :=
  choiceSize sequences.length + stateSize + stateSize * beginnings 4 sequences

/-- The size of a class. One of bytes or of characters below U+0080 takes a state that reads and one
that it leads to. -/
def classSize (alphabet : Alphabet) (direction : Direction) (ranges : Ranges) : Nat :=
  if alphabet = .bytes ∨ ranges.all (·.2 < 0x80) then readingSize ranges.length + stateSize
  else match direction with
    | .forward => forwardClassSize (ranges.flatMap Unicode.byteSequences)
    | .backward => backwardClassSize (ranges.flatMap Unicode.byteSequences)

/-! ## §3. Alternatives that are literals -/

/-- What follows a byte in a tree of literals; the bytes of one chunk are tried together. -/
abbrev LiteralChunk := List (Nat × List (List Nat))

/-- Enter a literal that begins with a byte. -/
def LiteralChunk.enter (b : Nat) (rest : List Nat) : LiteralChunk → LiteralChunk
  | [] => [(b, [rest])]
  | (c, rests) :: others =>
    if b = c then (c, rests ++ [rest]) :: others else (c, rests) :: enter b rest others

/-- The chunks of literals: one that ends here ends a chunk, because it comes before the ones behind. -/
def literalChunks (literals : List (List Nat)) : List LiteralChunk :=
  let (finished, current) := literals.foldl (fun (finished, current) literal => match literal with
    | [] => if current.isEmpty && !finished.isEmpty then (finished, current)
      else (finished ++ [current], [])
    | b :: rest => (finished, LiteralChunk.enter b rest current)) (([], []) : List LiteralChunk × LiteralChunk)
  finished ++ [current]

/-- The size of a tree of literals without the state at its end, for literals of so many bytes. -/
def literalTreeSize : Nat → List (List Nat) → Nat
  | 0, _ => 0
  | bytes + 1, literals =>
    -- a choice between the chunks and the ends among them, a state that reads for each, and what follows
    let chunks := literalChunks literals
    let reading := chunks.filter fun c => !c.isEmpty
    choiceSize (reading.length + chunks.length - 1) +
      total (reading.map fun c => if c.length = 1 then stateSize else readingSize c.length) +
      total (reading.flatten.map fun b =>
        if b.2.all List.isEmpty then 0 else literalTreeSize bytes b.2)

/-! ## §4. Programs -/

namespace Program

/-- The literal of a program. -/
def literal? : Program → Option (List Nat)
  | literal symbols => some symbols
  | _ => none

/-- The size of a repetition, given that of its body. -/
def repetitionSize (body : Nat) (mayBeEmpty : Bool) (least : Nat) : Option Nat → Nat
  | none =>
    if 0 < least then least * body + choiceSize 2
    else if mayBeEmpty then body + 2 * choiceSize 2 + stateSize
    else body + choiceSize 2
  | some most =>
    if least = 0 ∧ most = 1 then body + choiceSize 2 + stateSize
    else if most ≤ least then least * body
    else (if least = 0 then stateSize else least * body) + stateSize +
      (most - least) * (body + choiceSize 2)

/-- The size of alternatives, given that of the branches: a choice and the state where they meet. -/
def alternationSize (branches : List Nat) : Nat :=
  choiceSize branches.length + stateSize + total branches

mutual

/-- The size of the states of a program. -/
def size (alphabet : Alphabet) (direction : Direction) : Program → Nat
  | empty => stateSize
  | literal symbols => stateSize * (symbols.flatMap alphabet.encode).length
  | oneOf ranges => classSize alphabet direction ranges
  | look _ => stateSize
  | repeated body least most =>
    repetitionSize (body.size alphabet direction) (body.least?.all (· == 0)) least most
  | captured body =>
    -- only the automaton that reads forwards records places
    if direction = .forward then body.size alphabet direction + 2 * stateSize
    else body.size alphabet direction
  | concat parts => total (sizes alphabet direction parts)
  | alternation branches =>
    match branches.mapM literal? with
    | some literals =>
      let bytes := literals.map fun l =>
        let encoded := l.flatMap alphabet.encode
        if direction = .forward then encoded else encoded.reverse
      stateSize + literalTreeSize (total (bytes.map List.length) + 1) bytes
    | none => alternationSize (sizes alphabet direction branches)

/-- The sizes of programs. -/
def sizes (alphabet : Alphabet) (direction : Direction) : List Program → List Nat
  | [] => []
  | p :: rest => p.size alphabet direction :: sizes alphabet direction rest

end

end Program

/-! ## §5. Automata -/

/-- The size of the beginning of an automaton: nothing if every match begins where the automaton does,
else a loop that reads any byte. -/
def startSize (anchored : Bool) : Nat :=
  if anchored then stateSize else choiceSize 2 + readingSize 1 + stateSize

/-- The size of a pattern in an automaton: its states and the one that accepts. Forwards the place of
the whole match is recorded. -/
def patternSize (alphabet : Alphabet) (direction : Direction) (p : Program) : Nat :=
  (Program.captured p).size alphabet direction + stateSize

/-- The size of patterns side by side, given that of each. -/
def sideBySideSize : List Nat → Nat
  | [] => stateSize
  | [n] => n
  | ns => Program.alternationSize ns

/-- The size of the automaton of some patterns. -/
def automatonSize (alphabet : Alphabet) (direction : Direction) (ps : List Program) : Nat :=
  let anchor := if direction = .forward then Look.textStart else Look.textEnd
  startSize (ps.all (·.isAnchored anchor)) +
    sideBySideSize (ps.map (patternSize alphabet direction))

/-- Whether the automata of some patterns are small enough. -/
def fitsLimit (alphabet : Alphabet) (limit : Nat) (ps : List Program) : Bool :=
  automatonSize alphabet .forward ps ≤ limit && automatonSize alphabet .backward ps ≤ limit

end PullTriage.Regex
