import PullTriage.Yaml.BlockText
import PullTriage.Yaml.FlowText
import PullTriage.Yaml.Token

/-!
  PullTriage.Yaml.Lexer: from a YAML text to its lexemes.

  The layout decides what block collections there are. An item or a key that stands further to the
  right than the collections around it begins one, and a lexeme further to the left than a collection
  ends it. What may turn out to be a key is remembered, with the number of lexemes before it, until a
  colon shows that it is one; it has to be on one line and short. Inside a flow collection columns
  mean nothing, and keys are remembered apart from those outside.

  Each round of the loop reads at least one character, so the number of characters bounds the rounds.

  Main definition: `Token.scan?`.
-/

namespace PullTriage.Yaml

/-- What may be a key: the number of lexemes before it, where it stands, and whether nothing else can
stand there. -/
structure PossibleKey where
  before : Nat
  place : Placed
  required : Bool

/-- The most bytes from the beginning of a key to its colon. -/
def maxKeyLength : Nat := 1024

/-- Whether the colon of a key can no longer come, once the text was read up to `now`. -/
def PossibleKey.isOver (k : PossibleKey) (now : Placed) : Bool :=
  k.place.line < now.line || k.place.offset + maxKeyLength < now.offset

/-- The lexemes so far, in reverse, and their number. -/
structure Lexemes where
  reversed : List Token
  size : Nat
  length_eq : reversed.length = size

namespace Lexemes

/-- No lexemes. -/
def empty : Lexemes := ⟨[], 0, rfl⟩

/-- Add a lexeme at the end. -/
def push (l : Lexemes) (t : Token) : Lexemes :=
  ⟨t :: l.reversed, l.size + 1, by simp [l.length_eq]⟩

/-- Add a lexeme behind the first `before` ones. -/
def insertAt (l : Lexemes) (before : Nat) (t : Token) : Lexemes :=
  let later := l.size - before
  ⟨l.reversed.take later ++ t :: l.reversed.drop later, l.size + 1, by
    have := l.length_eq
    simp only [List.length_append, List.length_take, List.length_cons, List.length_drop]
    omega⟩

end Lexemes

/-- A text in progress. -/
structure Lexer where
  tokens : Lexemes
  /-- The columns of the open block collections, innermost first. -/
  indents : List Nat
  /-- What may be a key at this level of flow collections. -/
  key : Option PossibleKey
  /-- What may be keys at the levels around it, innermost first. -/
  outerKeys : List (Option PossibleKey)
  /-- Whether a key may begin here. -/
  keyAllowed : Bool

namespace Lexer

/-- Before the first character. -/
def initial : Lexer := ⟨.empty, [], none, [], true⟩

/-- Whether a flow collection is open. -/
def inFlow (s : Lexer) : Bool := !s.outerKeys.isEmpty

/-- The column of the innermost block collection, or `-1`. -/
def indent (s : Lexer) : Int :=
  match s.indents with
  | [] => -1
  | column :: _ => column

/-- Add a lexeme. -/
def push (s : Lexer) (t : Token) : Lexer := { s with tokens := s.tokens.push t }

/-- Add a lexeme behind the first `before` ones. -/
def insertAt (s : Lexer) (before : Nat) (t : Token) : Lexer :=
  { s with tokens := s.tokens.insertAt before t }

/-- Say whether a key may come next. -/
def allowKey (s : Lexer) (allowed : Bool) : Lexer := { s with keyAllowed := allowed }

/-! ## §1. Block collections -/

/-- Begin a block collection in a column, behind the first `before` lexemes, unless one is open
there. -/
def openBlock (s : Lexer) (column before : Nat) (t : Token) : Lexer :=
  if !s.inFlow && s.indent < column then
    { s.insertAt before t with indents := column :: s.indents }
  else s

/-- End the block collections to the right of a column. -/
def closeBlocks (s : Lexer) (column : Int) : Lexer :=
  if s.inFlow then s else
  let closed := s.indents.takeWhile fun (i : Nat) => decide (column < i)
  { s with
    tokens := closed.foldl (fun tokens _ => tokens.push .blockEnd) s.tokens
    indents := s.indents.drop closed.length }

/-! ## §2. Possible keys -/

/-- Forget a key that is over. It must not be one that was required. -/
def checkKey? (now : Placed) (key : Option PossibleKey) : Option (Option PossibleKey) :=
  match key with
  | none => some none
  | some k => if k.isOver now then if k.required then none else some none else some (some k)

/-- Forget the keys that are over. -/
def checkKeys? (s : Lexer) (now : Placed) : Option Lexer := do
  let key ← checkKey? now s.key
  let outerKeys ← s.outerKeys.mapM (checkKey? now)
  return { s with key, outerKeys }

/-- Forget what might have been a key at this level. -/
def dropKey? (s : Lexer) : Option Lexer :=
  if s.key.any (·.required) then none else some { s with key := none }

/-- Remember that a key may begin here. -/
def saveKey? (s : Lexer) (place : Placed) : Option Lexer :=
  if s.keyAllowed then do
    let s ← s.dropKey?
    let required := !s.inFlow && s.indent == place.column
    return { s with key := some ⟨s.tokens.size, place, required⟩ }
  else some s

/-! ## §3. Lexemes -/

/-- A directive, from the character behind its percent sign. -/
def directive? (s : Lexer) (rest : Text) : Option (Lexer × Text) := do
  let s ← (s.closeBlocks (-1)).dropKey?
  let (token, rest) ← readDirective? rest
  return ((s.allowKey false).push token, rest)

/-- A document marker. -/
def marker? (s : Lexer) (token : Token) (rest : Text) : Option (Lexer × Text) := do
  let s ← (s.closeBlocks (-1)).dropKey?
  return ((s.allowKey false).push token, rest)

/-- The beginning of a flow collection. -/
def openFlow? (s : Lexer) (token : Token) (place : Placed) (rest : Text) :
    Option (Lexer × Text) := do
  let s ← s.saveKey? place
  return (({ s with key := none, outerKeys := s.key :: s.outerKeys }.allowKey true).push token, rest)

/-- The end of a flow collection. Whether it ends one that is open is seen when nodes are read. -/
def closeFlow? (s : Lexer) (token : Token) (rest : Text) : Option (Lexer × Text) := do
  let s ← s.dropKey?
  let s := match s.outerKeys with
    | [] => s
    | key :: outerKeys => { s with key, outerKeys }
  return ((s.allowKey false).push token, rest)

/-- A comma between members of a flow collection. -/
def comma? (s : Lexer) (rest : Text) : Option (Lexer × Text) := do
  return (((← s.dropKey?).allowKey true).push .comma, rest)

/-- The hyphen of an item. -/
def item? (s : Lexer) (place : Placed) (rest : Text) : Option (Lexer × Text) := do
  if !s.inFlow && !s.keyAllowed then none
  let s ← (s.openBlock place.column s.tokens.size .sequenceStart).dropKey?
  return ((s.allowKey true).push .item, rest)

/-- The question mark of a key. -/
def key? (s : Lexer) (place : Placed) (rest : Text) : Option (Lexer × Text) := do
  if !s.inFlow && !s.keyAllowed then none
  let s ← (s.openBlock place.column s.tokens.size .mappingStart).dropKey?
  return ((s.allowKey !s.inFlow).push .key, rest)

/-- The colon of a value. What was remembered as a possible key is one now. -/
def value? (s : Lexer) (place : Placed) (rest : Text) : Option (Lexer × Text) :=
  match s.key with
  | some k =>
    let s := (s.insertAt k.before .key).openBlock k.place.column k.before .mappingStart
    some (({ s with key := none }.allowKey false).push .value, rest)
  | none =>
    if !s.inFlow && !s.keyAllowed then none else
    let s := s.openBlock place.column s.tokens.size .mappingStart
    some ((s.allowKey !s.inFlow).push .value, rest)

/-- A block scalar, from the character behind its indicator. -/
def block? (s : Lexer) (folds : Bool) (rest : Text) : Option (Lexer × Text) := do
  let s ← s.dropKey?
  let (text, rest) ← Yaml.block? folds s.indent rest
  return ((s.allowKey true).push (.scalar false text), rest)

/-- A quoted scalar, from the character behind its quote. -/
def quoted? (s : Lexer) (double : Bool) (place : Placed) (rest : Text) :
    Option (Lexer × Text) := do
  let s ← s.saveKey? place
  let (text, rest) ← Yaml.quoted? double .text [] .empty rest
  return ((s.allowKey false).push (.scalar false text), rest)

/-- A plain scalar. A key may begin behind it if a line ended there. -/
def plain? (s : Lexer) (place : Placed) (text : Text) : Option (Lexer × Text) := do
  let s ← s.saveKey? place
  let (chars, broken, rest) ← Yaml.plain? s.inFlow (s.indent + 1) [] .empty text
  return ((s.allowKey broken).push (.scalar true (String.ofList chars.reverse)), rest)

/-- An anchor or a reference to one, from the character behind its indicator. -/
def name? (s : Lexer) (token : List Char → Token) (place : Placed) (rest : Text) :
    Option (Lexer × Text) := do
  let s ← s.saveKey? place
  let (name, rest) ← readName? rest
  return ((s.allowKey false).push (token name), rest)

/-- A tag, from the character behind its exclamation mark. -/
def tag? (s : Lexer) (place : Placed) (rest : Text) : Option (Lexer × Text) := do
  let s ← s.saveKey? place
  let (tag, rest) ← readTag? s.inFlow rest
  return ((s.allowKey false).push (.tag tag), rest)

/-- The lexeme that begins with character `p`. -/
def lexeme? (s : Lexer) (p : Placed) (rest : Text) : Option (Lexer × Text) :=
  let here := p :: rest
  if p.column = 0 ∧ p.char = '%' then s.directive? rest else
  match Text.marker? here with
  | some '-' => s.marker? .documentStart (Text.skip rest 2)
  | some _ => s.marker? .documentEnd (Text.skip rest 2)
  | none =>
    let separate := s.inFlow || Text.atGap rest
    match p.char with
    | '[' => s.openFlow? .openSequence p rest
    | '\x7b' => s.openFlow? .openMapping p rest
    | ']' => s.closeFlow? .closeSequence rest
    | '\x7d' => s.closeFlow? .closeMapping rest
    | ',' => s.comma? rest
    | '*' => s.name? .reference p rest
    | '&' => s.name? .anchor p rest
    | '!' => s.tag? p rest
    | '\'' => s.quoted? false p rest
    | '"' => s.quoted? true p rest
    | '|' => if s.inFlow then none else s.block? false rest
    | '>' => if s.inFlow then none else s.block? true rest
    | c =>
      if c = '-' ∧ Text.atGap rest then s.item? p rest
      else if c = '?' ∧ separate then s.key? p rest
      else if c = ':' ∧ separate then s.value? p rest
      else if canBeginPlain s.inFlow c rest then s.plain? p here
      else none

/-! ## §4. The loop -/

/-- Skip white space, comments and line breaks. A tab is not skipped where a key may begin, as the
column of the key would not be clear. A byte order mark may begin a line. Answers whether a key may
begin behind it. -/
def skip (inFlow : Bool) (keyAllowed comment : Bool) : Text → Bool × Text
  | [] => (keyAllowed, [])
  | p :: rest =>
    if isBreak p.char then skip inFlow (keyAllowed || !inFlow) false rest
    else if comment then skip inFlow keyAllowed true rest
    else if p.char = ' ' || (p.char = '\ufeff' && p.column = 0) then skip inFlow keyAllowed false rest
    else if p.char = '\t' && (inFlow || !keyAllowed) then skip inFlow keyAllowed false rest
    else if p.char = '#' then skip inFlow keyAllowed true rest
    else (keyAllowed, p :: rest)

/-- Read lexemes to the end of the text. -/
def loop? : Nat → Lexer → Text → Option Lexer
  | 0, _, _ => none
  | fuel + 1, s, t =>
    let (keyAllowed, t) := skip s.inFlow s.keyAllowed false t
    let s := s.allowKey keyAllowed
    match t with
    | [] => (s.closeBlocks (-1)).dropKey?
    | p :: rest => do
      let s ← s.checkKeys? p
      let (s, t) ← (s.closeBlocks p.column).lexeme? p rest
      loop? fuel s t

end Lexer

/-- The lexemes of a text. -/
def Token.scan? (s : String) : Option (List Token) := do
  let text ← Text.ofString? s
  let done ← Lexer.loop? (text.length + 1) .initial text
  return done.tokens.reversed.reverse

end PullTriage.Yaml
