import FilterQuery.Regex.Class
import FilterQuery.Unicode.Property

/-!
# Reading patterns

`parse` reads a whole pattern. It goes through the pattern once, from left to right, with a stack of
the groups and alternations that are still open, so that each fault is found where it is noticed
first. Last of all it looks for trees that are nested too deep.
-/

namespace FilterQuery.Regex

/-- The parts of a sequence read so far, last first, and where it starts. -/
structure Sequence where
  start : Position
  parts : List Tree

def Sequence.toTree (s : Sequence) (stop : Position) : Tree :=
  match s.parts with
  | [] => .empty ⟨s.start, stop⟩
  | [part] => part
  | parts => .concat ⟨s.start, stop⟩ parts.reverse

inductive Frame where
  /-- An open group: the sequence before it, the stretch of its bracket, its flags, and the mode to
  return to. -/
  | group (before : Sequence) (span : Span) (items : List FlagItem) (verbose : Bool)
  /-- The branches read so far, last first. -/
  | alternation (start : Position) (branches : List Tree)

/-! ### Groups -/

def Flag.ofLetter? : Char → Option Flag
  | 'i' => some .caseInsensitive
  | 'm' => some .multiLine
  | 's' => some .dotMatchesNewLine
  | 'U' => some .swapGreed
  | 'u' => some .unicode
  | 'R' => some .crlf
  | 'x' => some .ignoreWhiteSpace
  | _ => none

/-- The flags up to a colon or a closing bracket. The fuel bounds their number. -/
def readFlags : Nat → List FlagItem → Option Span → Cursor → Reading (List FlagItem × Cursor)
  | 0, _, _, cur => reject .flagUnexpectedEnd cur.here
  | fuel + 1, items, dangling, cur =>
    match cur.peek? with
    | none => reject .flagUnexpectedEnd cur.here
    | some c =>
      if c = ':' ∨ c = ')' then
        match dangling with
        | some span => reject .flagDanglingNegation span
        | none => .ok (items, cur)
      else do
        let flag ← if c = '-' then .ok none
          else match Flag.ofLetter? c with
            | some f => .ok (some f)
            | none => reject .flagUnrecognized cur.charSpan
        let item : FlagItem := ⟨cur.charSpan, flag⟩
        match items.find? (·.flag == flag) with
        | some first =>
          .error ⟨if flag.isNone then .flagRepeatedNegation else .flagDuplicate, item.span,
            some first.span⟩
        | none =>
          readFlags fuel (items ++ [item]) (if flag.isNone then some item.span else none) cur.bump

/-- The characters of group names; a name starts with a letter or an underscore. -/
def isNameChar (c : Char) (first : Bool) : Bool :=
  if first then c == '_' || Unicode.isAlphabetic c
  else c ∈ ['_', '.', '[', ']'] || Unicode.isAlphabetic c || Unicode.isNumeric c

/-- The characters of a name up to its closing angle. The fuel bounds their number. -/
def readNameChars : Nat → Bool → Cursor → Reading (List Char × Cursor)
  | 0, _, cur => .ok ([], cur)
  | fuel + 1, first, cur =>
    match cur.peek? with
    | none => .ok ([], cur)
    | some c =>
      if c = '>' then .ok ([], cur)
      else if !isNameChar c first then reject .groupNameInvalid cur.charSpan
      else do
        let (cs, cur) ← readNameChars fuel false cur.bump
        .ok (c :: cs, cur)

/-- The name of a group, which no group before it may have. -/
def readGroupName (cur : Cursor) : Reading Cursor :=
  if cur.atEnd then reject .groupNameUnexpectedEnd cur.here
  else do
    let start := cur.pos
    let (chars, cur) ← readNameChars cur.rest.length true cur
    let span := cur.since start
    if cur.atEnd then reject .groupNameUnexpectedEnd cur.here
    else if chars.isEmpty then reject .groupNameEmpty ⟨start, start⟩
    else
      let name := String.ofList chars
      match cur.names.lookup name with
      | some first => .error ⟨.groupNameDuplicate, span, some first⟩
      | none => .ok { cur.bump with names := (name, span) :: cur.names }

inductive GroupStart where
  /-- Flags for the rest of the group around it. -/
  | flags (span : Span) (items : List FlagItem)
  | group (span : Span) (items : List FlagItem)

/-- Past the first of some words that comes next. -/
def bumpFirst? (cur : Cursor) (words : List String) : Option Cursor :=
  words.findSome? cur.bumpWord?

/-- An opening bracket with what belongs to it. -/
def readGroupStart (cur : Cursor) : Reading (GroupStart × Cursor) :=
  let opening := cur.charSpan
  let cur := cur.bumpSpace
  match bumpFirst? cur ["?=", "?!", "?<=", "?<!"] with
  | some cur => reject .unsupportedLookAround (cur.since opening.start)
  | none =>
    match bumpFirst? cur ["?P<", "?<"] with
    | some cur => do
      let cur ← readGroupName cur
      .ok (.group opening [], cur)
    | none =>
      match cur.bumpWord? "?" with
      | none => .ok (.group opening [], cur)
      | some inner =>
        if inner.atEnd then reject .groupUnclosed opening
        else do
          let (items, after) ← readFlags (inner.rest.length + 1) [] none inner
          if after.peek? = some ')' then
            if items.isEmpty then reject .repetitionMissing cur.here
            else
              let after := after.bump
              .ok (.flags (after.since opening.start) items, after)
          else .ok (.group opening items, after.bump)

/-! ### Repetitions -/

/-- Takes the last part of a sequence to repeat it. -/
def popOperand (s : Sequence) (cur : Cursor) : Reading (Tree × Sequence) :=
  match s.parts with
  | [] | .empty _ :: _ | .flags _ _ :: _ => reject .repetitionMissing cur.here
  | part :: parts => .ok (part, { s with parts })

/-- Adds a repetition, and skips the sign that it is to take little first. -/
def pushRepetition (part : Tree) (s : Sequence) (least : Nat) (most : Option Nat)
    (cur : Cursor) : Sequence × Cursor :=
  let cur := if cur.peek? = some '?' then cur.bump else cur
  ({ s with parts := .repetition ⟨part.span.start, cur.pos⟩ least most part :: s.parts }, cur)

/-- A decimal number below 2³². White space may stand around it. -/
def readDecimal (cur : Cursor) : Except Rejection Nat × Cursor :=
  let (_, cur) := cur.span Text.isWhiteSpace false
  let start := cur.pos
  let (ds, cur) := cur.span Char.isDigit true
  let span := cur.since start
  let (_, cur) := cur.span Text.isWhiteSpace true
  let n := ds.foldl (fun n c => n * 10 + (c.toNat - '0'.toNat)) 0
  let result : Except Rejection Nat :=
    if ds.isEmpty then reject .repetitionCountDecimalEmpty span
    else if n < 0x100000000 then .ok n else reject .decimalInvalid span
  (result, cur)

def readCounted (s : Sequence) (cur : Cursor) : Reading (Sequence × Cursor) := do
  let start := cur.pos
  let (part, s) ← popOperand s cur
  let unclosed {α : Type} (cur : Cursor) : Reading α :=
    reject .repetitionCountUnclosed (cur.since start)
  let cur := cur.bumpSpace
  if cur.atEnd then unclosed cur
  else
    let (least, cur) := readDecimal cur
    if cur.atEnd then unclosed cur
    else
      let (least, most, cur) ←
        if cur.peek? = some ',' then
          let cur := cur.bumpSpace
          if cur.atEnd then unclosed cur
          else if cur.peek? = some '\x7d' then do
            let least ← least
            .ok (least, none, cur)
          else do
            let least ← least
            let (most, cur) := readDecimal cur
            let most ← most
            .ok (least, some most, cur)
        else do
          let least ← least
          .ok (least, some least, cur)
      if cur.peek? != some '\x7d' then unclosed cur
      else
        let (s, cur) := pushRepetition part s least most cur.bumpSpace
        if most.all (fun m => least ≤ m) then .ok (s, cur)
        else reject .repetitionCountInvalid (cur.since start)

/-! ### Whole patterns -/

def pushBranch (s : Sequence) (cur : Cursor) : List Frame → List Frame
  | .alternation start branches :: stack =>
    .alternation start (s.toTree cur.pos :: branches) :: stack
  | stack => .alternation s.start [s.toTree cur.pos] :: stack

/-- The tree of what was read since the last group was opened, and the frames around it. -/
def closeBranches (s : Sequence) (stop : Position) : List Frame → Tree × List Frame
  | .alternation start branches :: stack =>
    (.alternation ⟨start, stop⟩ (s.toTree stop :: branches).reverse, stack)
  | stack => (s.toTree stop, stack)

/-- The end of the pattern, where no group may be open. -/
def closePattern (stack : List Frame) (s : Sequence) (cur : Cursor) : Reading Tree :=
  match closeBranches s cur.pos stack with
  | (tree, []) => .ok tree
  | (_, .group _ span _ _ :: _) => reject .groupUnclosed span
  | (_, .alternation _ _ :: _) => reject .groupUnclosed cur.here

def closeGroup (stack : List Frame) (s : Sequence) (cur : Cursor) :
    Reading (List Frame × Sequence × Cursor) :=
  match closeBranches s cur.pos stack with
  | (tree, .group before span items verbose :: stack) =>
    let cur := { cur.bump with verbose }
    let group := Tree.group (cur.since span.start) items tree
    .ok (stack, { before with parts := group :: before.parts }, cur)
  | _ => reject .groupUnopened cur.charSpan

def openGroup (stack : List Frame) (s : Sequence) (cur : Cursor) :
    Reading (List Frame × Sequence × Cursor) := do
  match ← readGroupStart cur with
  | (.flags span items, cur) =>
    let verbose := (flagState? .ignoreWhiteSpace false items).getD cur.verbose
    .ok (stack, { s with parts := .flags span items :: s.parts }, { cur with verbose })
  | (.group span items, cur) =>
    let verbose := (flagState? .ignoreWhiteSpace false items).getD cur.verbose
    .ok (.group s span items cur.verbose :: stack, ⟨cur.pos, []⟩, { cur with verbose })

/-- A character, a dot, an anchor or an escape. -/
def readPrimitive (c : Char) (cur : Cursor) : Reading (Tree × Cursor) :=
  match c with
  | '\\' => readEscape cur
  | '.' => .ok (.dot cur.charSpan, cur.bump)
  | '^' => .ok (.assertion cur.charSpan .startLine, cur.bump)
  | '$' => .ok (.assertion cur.charSpan .endLine, cur.bump)
  | c => .ok (.literal { span := cur.charSpan, char := c }, cur.bump)

/-- One step: what the next character, which is `c`, does. -/
def step (c : Char) (stack : List Frame) (s : Sequence) (cur : Cursor) :
    Reading (List Frame × Sequence × Cursor) :=
  let repeated (least : Nat) (most : Option Nat) : Reading (List Frame × Sequence × Cursor) := do
    let (part, s) ← popOperand s cur
    .ok (stack, pushRepetition part s least most cur.bump)
  match c with
  | '(' => openGroup stack s cur
  | ')' => closeGroup stack s cur
  | '|' =>
    let stack := pushBranch s cur stack
    let cur := cur.bump
    .ok (stack, ⟨cur.pos, []⟩, cur)
  | '[' => do
    let (tree, cur) ← readClass cur
    .ok (stack, { s with parts := tree :: s.parts }, cur)
  | '?' => repeated 0 (some 1)
  | '*' => repeated 0 none
  | '+' => repeated 1 none
  | '\x7b' => do
    let (s, cur) ← readCounted s cur
    .ok (stack, s, cur)
  | c => do
    let (tree, cur) ← readPrimitive c cur
    .ok (stack, { s with parts := tree :: s.parts }, cur)

/-- Reads to the end. Each step takes at least one character, so the fuel bounds their number. -/
def parseFrom : Nat → List Frame → Sequence → Cursor → Reading Tree
  | 0, stack, s, cur => closePattern stack s cur
  | fuel + 1, stack, s, cur =>
    let cur := cur.space
    match cur.peek? with
    | none => closePattern stack s cur
    | some c => do
      let (stack, s, cur) ← step c stack s cur
      parseFrom fuel stack s cur

/-- The syntax tree of a pattern, or why it has none. -/
def parse (pattern : String) (verbose : Bool) : Reading Tree := do
  let chars := pattern.toList
  let tree ← parseFrom (chars.length + 1) [] ⟨.first, []⟩ ⟨chars, .first, verbose, []⟩
  tree.checkNesting 0
  .ok tree

end FilterQuery.Regex
