import PullTriage.Digit
import PullTriage.Yaml.Text

/-!
  PullTriage.Yaml.Token: the lexemes of a YAML text.

  Besides the marks that are written there are lexemes for what the layout says: where a block
  collection begins and ends, and that a scalar is a key although only the colon behind it tells.
  Tags, anchors and directives are read here, as they need nothing but their own characters.

  Main definitions:
    * `Token`: the lexemes;
    * `readTag?`, `readName?`, `readDirective?`: the lexemes that describe nodes and documents.
-/

namespace PullTriage.Yaml

/-- A tag as written: a handle that a directive may redefine, and the octets of what follows it. A
tag that needs no handle has an empty one. -/
structure TagText where
  handle : List Char
  suffix : List Nat
  deriving DecidableEq, Repr, Inhabited

/-- A lexeme. -/
inductive Token where
  | version (major minor : Nat)
  | tagHandle (handle : List Char) (expansion : List Nat)
  | documentStart
  | documentEnd
  | sequenceStart
  | mappingStart
  | blockEnd
  | openSequence
  | closeSequence
  | openMapping
  | closeMapping
  /-- A hyphen that begins an item. -/
  | item
  | comma
  | key
  | value
  | anchor (name : List Char)
  | reference (name : List Char)
  | tag (text : TagText)
  /-- A scalar; it is plain if it is written without quotes and not as a block. -/
  | scalar (plain : Bool) (text : String)
  deriving DecidableEq, Repr, Inhabited

/-! ## §1. Names -/

/-- The name of an anchor, or of the anchor that is referred to. -/
def readName? (t : Text) : Option (List Char × Text) :=
  let name := t.run isWordChar
  let rest := t.past isWordChar
  if name.isEmpty then none
  else if rest.atGap || rest.head?.any (fun p => "?:,]\x7d%@\x60".toList.contains p.char) then
    some (name, rest)
  else none

/-! ## §2. Tags -/

/-- Characters of a tag. A verbatim tag, between angle brackets, may also hold the layout characters
of flow sequences. -/
def isTagChar (verbatim : Bool) (c : Char) : Bool :=
  isWordChar c || ";/?:@&=+$.%!~*'()".toList.contains c || (verbatim && ",[]".toList.contains c)

/-- How many octets follow the first octet of a character. -/
def octetsAfter? (octet : Nat) : Option Nat :=
  if octet < 0x80 then some 0
  else if 0xc0 ≤ octet ∧ octet < 0xe0 then some 1
  else if 0xe0 ≤ octet ∧ octet < 0xf0 then some 2
  else if 0xf0 ≤ octet ∧ octet < 0xf8 then some 3
  else none

/-- The octets of a tag: a percent sign and two digits are one octet. `left` is how many octets of a
character are missing; they must be written in the same way. -/
def tagOctets? (left : Nat) : List Char → Option (List Nat)
  | [] => if left = 0 then some [] else none
  | c :: rest =>
    if c = '%' then
      match rest with
      | a :: b :: rest => do
        let octet := (← hexDigit? a) * 16 + (← hexDigit? b)
        let left ←
          if left = 0 then octetsAfter? octet
          else if 0x80 ≤ octet ∧ octet < 0xc0 then some (left - 1) else none
        return octet :: (← tagOctets? left rest)
      | _ => none
    else if left = 0 then (tagOctets? 0 rest).map (c.toNat :: ·)
    else none

/-- The characters of a tag as octets. A zero octet ends a tag. -/
def readTagOctets? (verbatim : Bool) (t : Text) : Option (List Nat × Text) :=
  (tagOctets? 0 (t.run (isTagChar verbatim))).map fun octets =>
    (octets.takeWhile (· ≠ 0), t.past (isTagChar verbatim))

/-- Whether a tag may end here: at a gap, or at a comma in a flow collection. -/
def tagEnds (inFlow : Bool) (t : Text) : Bool := t.atGap || (inFlow && t.startsWith ',')

/-- A tag, from the character behind its exclamation mark. -/
def readTag? (inFlow : Bool) (t : Text) : Option (TagText × Text) := do
  let (tag, rest) ←
    if t.startsWith '<' then
      let t := t.skip 1
      if (t.run (isTagChar true)).isEmpty then none else
      let (suffix, rest) ← readTagOctets? true t
      if rest.startsWith '>' then some (⟨[], suffix⟩, rest.skip 1) else none
    else
      let behind := t.past isWordChar
      if behind.startsWith '!' then
        let handle := '!' :: t.run isWordChar ++ ['!']
        let t := behind.skip 1
        if (t.run (isTagChar false)).isEmpty then none else
        let (suffix, rest) ← readTagOctets? false t
        some (⟨handle, suffix⟩, rest)
      else
        let (suffix, rest) ← readTagOctets? false t
        some (if suffix.isEmpty then ⟨[], ['!'.toNat]⟩ else ⟨['!'], suffix⟩, rest)
  if tagEnds inFlow rest then return (tag, rest) else none

/-! ## §3. Directives -/

/-- The most digits of a part of a version. -/
def maxVersionDigits : Nat := 9

/-- A part of a version. -/
def readVersionPart? (t : Text) : Option (Nat × Text) :=
  let digits := t.run Char.isDigit
  if digits.isEmpty ∨ digits.length > maxVersionDigits then none
  else some (digits.foldl (fun n c => n * 10 + (c.toNat - '0'.toNat)) 0, t.past Char.isDigit)

/-- The version that a document claims. -/
def readVersion? (t : Text) : Option (Token × Text) := do
  let (major, t) ← readVersionPart? (t.past isBlank)
  if !t.startsWith '.' then none
  let (minor, t) ← readVersionPart? (t.skip 1)
  return (.version major minor, t)

/-- What a tag handle stands for. -/
def readTagHandle? (t : Text) : Option (Token × Text) := do
  let t := t.past isBlank
  if !t.startsWith '!' then none
  let name := (t.skip 1).run isWordChar
  let t := (t.skip 1).past isWordChar
  let (handle, t) ←
    if t.startsWith '!' then some ('!' :: name ++ ['!'], t.skip 1)
    else if name.isEmpty then some (['!'], t)
    else none
  if !t.head?.any fun p => isBlank p.char then none
  let t := t.past isBlank
  if (t.run (isTagChar true)).isEmpty then none
  let (expansion, t) ← readTagOctets? true t
  if t.atGap then return (.tagHandle handle expansion, t) else none

/-- A directive, from the character behind its percent sign, and the text from the next line on. -/
def readDirective? (t : Text) : Option (Token × Text) := do
  let name := t.run isWordChar
  let t := t.past isWordChar
  if !t.atGap then none
  let (token, t) ←
    if name = "YAML".toList then readVersion? t
    else if name = "TAG".toList then readTagHandle? t
    else none
  return (token, (← t.restOfLine?).skip 1)

end PullTriage.Yaml
