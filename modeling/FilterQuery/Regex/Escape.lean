import FilterQuery.Regex.Cursor

/-!
# Escapes

What a backslash stands for: a character, an assertion, or a class of characters.
-/

namespace FilterQuery.Regex

/-- The characters that stand for themselves behind a backslash: all of ASCII but letters, digits and
the angles. -/
def isEscapable (c : Char) : Bool :=
  c.toNat < 0x80 && !c.isAlphanum && c != '<' && c != '>'

def hexValue? (c : Char) : Option Nat :=
  if c.isDigit then some (c.toNat - '0'.toNat)
  else if 'a' ≤ c ∧ c ≤ 'f' then some (c.toNat - 'a'.toNat + 10)
  else if 'A' ≤ c ∧ c ≤ 'F' then some (c.toNat - 'A'.toNat + 10)
  else none

def isHex (c : Char) : Bool := (hexValue? c).isSome

/-- The character with a code point in hexadecimal digits. -/
def charOfHex? (digits : List Char) : Option Char :=
  let n := digits.foldl (fun n c => n * 16 + (hexValue? c).getD 0) 0
  if n.isValidChar then some (Char.ofNat n) else none

/-- A fixed number of hexadecimal digits, from the second on behind the one read last. -/
def readHexDigits : Nat → Bool → Cursor → Reading (List Char × Cursor)
  | 0, _, cur => .ok ([], cur.bumpSpace)
  | count + 1, first, cur => do
    let cur := if first then cur else cur.bumpSpace
    match cur.peek? with
    | none => reject .escapeUnexpectedEnd cur.here
    | some c =>
      if isHex c then
        let (cs, cur) ← readHexDigits count false cur
        .ok (c :: cs, cur)
      else reject .escapeHexInvalidDigit cur.charSpan

/-- The code point behind `\x`, `\u` or `\U`: that many digits, or any number of them in braces. -/
def readHex (start : Position) (count : Nat) (cur : Cursor) : Reading (Literal × Cursor) := do
  let cur := cur.bumpSpace
  match cur.peek? with
  | none => reject .escapeUnexpectedEnd cur.here
  | some '\x7b' =>
    let brace := cur.pos
    let inner := cur.bump.pos
    let (digits, cur) := cur.bumpSpace.span isHex true
    match cur.peek? with
    | none => reject .escapeUnexpectedEnd (cur.since brace)
    | some '\x7d' =>
      let last := cur.pos
      let cur := cur.bumpSpace
      if digits.isEmpty then reject .escapeHexEmpty (cur.since brace)
      else
        match charOfHex? digits with
        | none => reject .escapeHexInvalid ⟨inner, last⟩
        | some c => .ok ({ span := cur.since start, char := c }, cur)
    | some _ => reject .escapeHexInvalidDigit cur.charSpan
  | some _ =>
    let first := cur.pos
    let (digits, cur) ← readHexDigits count true cur
    match charOfHex? digits with
    | none => reject .escapeHexInvalid (cur.since first)
    | some c => .ok ({ span := cur.since start, char := c, byteEscape := count == 2 }, cur)

/-- The text before and after the first occurrence of a separator. -/
def splitAt? (sep : List Char) : List Char → Option (List Char × List Char)
  | [] => none
  | c :: rest =>
    if sep.isPrefixOf (c :: rest) then some ([], (c :: rest).drop sep.length)
    else (splitAt? sep rest).map fun (before, after) => (c :: before, after)

def PropertyQuery.ofName (name : List Char) : PropertyQuery :=
  match splitAt? ['!', '='] name with
  | some (n, v) => .valued true (String.ofList n) (String.ofList v)
  | none =>
    match splitAt? [':'] name with
    | some (n, v) => .valued false (String.ofList n) (String.ofList v)
    | none =>
      match splitAt? ['='] name with
      | some (n, v) => .valued false (String.ofList n) (String.ofList v)
      | none => .single (String.ofList name)

/-- The property behind `\p` or `\P`: one letter, or a name in braces. -/
def readProperty (start : Position) (negated : Bool) (cur : Cursor) : Reading (Tree × Cursor) :=
  let cur := cur.bumpSpace
  match cur.peek? with
  | none => reject .escapeUnexpectedEnd cur.here
  | some '\x7b' =>
    let (name, cur) := cur.bumpSpace.span (· != '\x7d') true
    if cur.atEnd then reject .escapeUnexpectedEnd cur.here
    else
      let cur := cur.bump
      .ok (.property (cur.since start) negated (.ofName name), cur)
  | some '\\' => reject .unicodeClassInvalid cur.charSpan
  | some c =>
    let cur := cur.bumpSpace
    .ok (.property (cur.since start) negated (.single (String.singleton c)), cur)

/-- The kind of word boundary named in braces behind `\b`. What cannot be a name is left for a
counted repetition. -/
def readWordBoundary? (start : Position) (cur : Cursor) : Reading (Option (Assertion × Cursor)) :=
  let named (c : Char) : Bool := c.isAlpha || c == '-'
  let brace := cur.pos
  let cur := cur.bumpSpace
  match cur.peek? with
  | none => reject .specialWordOrRepetitionUnexpectedEnd (cur.since start)
  | some c =>
    if !named c then .ok none
    else
      let contents := cur.pos
      let (name, cur) := cur.span named true
      if cur.peek? != some '\x7d' then reject .specialWordBoundaryUnclosed (cur.since brace)
      else
        match String.ofList name with
        | "start" => .ok (some (.wordStart, cur.bump))
        | "end" => .ok (some (.wordEnd, cur.bump))
        | "start-half" => .ok (some (.wordStartHalf, cur.bump))
        | "end-half" => .ok (some (.wordEndHalf, cur.bump))
        | _ => reject .specialWordBoundaryUnrecognized (cur.since contents)

def readEscape (cur : Cursor) : Reading (Tree × Cursor) := do
  let start := cur.pos
  let cur := cur.bump
  match cur.peek? with
  | none => reject .escapeUnexpectedEnd (cur.since start)
  | some c =>
    let after := cur.bump
    let span := after.since start
    let char (c : Char) : Reading (Tree × Cursor) :=
      .ok (.literal { span, char := c }, after)
    let assertion (kind : Assertion) : Reading (Tree × Cursor) :=
      .ok (.assertion span kind, after)
    let shorthand (negated : Bool) (name : Shorthand) : Reading (Tree × Cursor) :=
      .ok (.shorthand span negated name, after)
    let hex (count : Nat) : Reading (Tree × Cursor) := do
      let (l, cur) ← readHex start count cur
      .ok (.literal l, cur)
    if c.isDigit then reject .unsupportedBackreference span
    else if isEscapable c then char c
    else
      match c with
      | 'x' => hex 2
      | 'u' => hex 4
      | 'U' => hex 8
      | 'p' => readProperty start false cur
      | 'P' => readProperty start true cur
      | 'd' => shorthand false .digit
      | 'D' => shorthand true .digit
      | 's' => shorthand false .space
      | 'S' => shorthand true .space
      | 'w' => shorthand false .word
      | 'W' => shorthand true .word
      | 'a' => char '\x07'
      | 'f' => char '\x0c'
      | 't' => char '\t'
      | 'n' => char '\n'
      | 'r' => char '\r'
      | 'v' => char '\x0b'
      | 'A' => assertion .startText
      | 'z' => assertion .endText
      | 'B' => assertion .notWordBoundary
      | '<' => assertion .wordStart
      | '>' => assertion .wordEnd
      | 'b' =>
        if after.peek? == some '\x7b' then
          match ← readWordBoundary? start after with
          | some (kind, cur) => .ok (.assertion (cur.since start) kind, cur)
          | none => assertion .wordBoundary
        else assertion .wordBoundary
      | _ => reject .escapeUnrecognized span

end FilterQuery.Regex
