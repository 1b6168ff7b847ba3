import FilterQuery.Regex.Escape

/-!
# Bracketed classes

Reading what stands between brackets: characters, ranges, escapes, named classes, nested brackets,
and the operators `&&`, `--` and `~~`, which bind to the left and all alike. Open brackets and
pending operators are kept on a stack.
-/

namespace FilterQuery.Regex

/-- The items of one bracket read so far, last first, and the stretch they cover. -/
structure Union where
  span : Span
  items : List ClassSet

namespace Union

def push (u : Union) (item : ClassSet) : Union :=
  { span := ⟨if u.items.isEmpty then item.span.start else u.span.start, item.span.stop⟩
    items := item :: u.items }

def toSet (u : Union) : ClassSet :=
  match u.items with
  | [] => .empty u.span
  | [item] => item
  | items => .union u.span items.reverse

end Union

inductive ClassFrame where
  /-- An open bracket: the items before it, the stretch that opened it, and its sign. -/
  | opened (parent : Union) (span : Span) (negated : Bool)
  /-- An operator and its left operand. -/
  | operator (op : SetOperator) (left : ClassSet)

/-- The innermost open bracket is never closed. -/
def unclosedClass {α : Type} (stack : List ClassFrame) (cur : Cursor) : Reading α :=
  let spans := stack.filterMap fun
    | .opened _ span _ => some span
    | .operator _ _ => none
  reject .classUnclosed (spans.head?.getD cur.here)

/-- Takes any number of dashes at the front of a bracket as characters. -/
def readDashes (start : Position) : Nat → Union → Cursor → Reading (Union × Cursor)
  | 0, u, cur => .ok (u, cur)
  | fuel + 1, u, cur =>
    if cur.peek? = some '-' then
      let u := u.push (.literal { span := cur.charSpan, char := '-' })
      let cur := cur.bumpSpace
      if cur.atEnd then reject .classUnclosed ⟨start, start⟩
      else readDashes start fuel u cur
    else .ok (u, cur)

/-- The opening of a bracket: its sign, and the dashes or the closing bracket that stand for
themselves at its front. -/
def openBracket (parent : Union) (cur : Cursor) : Reading (ClassFrame × Union × Cursor) := do
  let start := cur.pos
  let cur := cur.bumpSpace
  if cur.atEnd then reject .classUnclosed (cur.since start)
  else
    let negated := cur.peek? = some '^'
    let cur := if negated then cur.bumpSpace else cur
    if cur.atEnd then reject .classUnclosed (cur.since start)
    else
      let (u, cur) ← readDashes start cur.rest.length ⟨cur.here, []⟩ cur
      if u.items.isEmpty && cur.peek? == some ']' then
        let u := u.push (.literal { span := cur.charSpan, char := ']' })
        let cur := cur.bumpSpace
        if cur.atEnd then reject .classUnclosed (cur.since start)
        else .ok (.opened parent (cur.since start) negated, u, cur)
      else .ok (.opened parent (cur.since start) negated, u, cur)

/-- A named class such as `[:alpha:]`, if one starts here. -/
def readAsciiClass? (cur : Cursor) : Option (ClassSet × Cursor) := do
  let start := cur.pos
  let cur ← cur.bumpWord? "[:"
  let (negated, cur) := match cur.bumpWord? "^" with
    | some cur => (true, cur)
    | none => (false, cur)
  let (name, cur) := cur.span (· != ':') false
  let cur ← cur.bumpWord? ":]"
  let kind ← AsciiClass.ofName? (String.ofList name)
  some (.ascii (cur.since start) negated kind, cur)

def readClassItem (cur : Cursor) : Reading (Tree × Cursor) :=
  match cur.peek? with
  | some '\\' => readEscape cur
  | some c => .ok (.literal { span := cur.charSpan, char := c }, cur.bump)
  | none => reject .classUnclosed cur.here

def asItem : Tree → Reading ClassSet
  | .literal l => .ok (.literal l)
  | .shorthand s n k => .ok (.shorthand s n k)
  | .property s n q => .ok (.property s n q)
  | t => reject .classEscapeInvalid t.span

def asEnd : Tree → Reading Literal
  | .literal l => .ok l
  | t => reject .classRangeLiteral t.span

/-- An item, or a range if a dash and another end follow. -/
def readClassRange (stack : List ClassFrame) (cur : Cursor) : Reading (ClassSet × Cursor) := do
  let (first, cur) ← readClassItem cur
  let cur := cur.space
  if cur.atEnd then unclosedClass stack cur
  else if cur.peek? != some '-' || cur.peekSecond? == some ']' || cur.peekSecond? == some '-' then
    let item ← asItem first
    .ok (item, cur)
  else
    let cur := cur.bumpSpace
    if cur.atEnd then unclosedClass stack cur
    else
      let (last, cur) ← readClassItem cur
      let span : Span := ⟨first.span.start, last.span.stop⟩
      let low ← asEnd first
      let high ← asEnd last
      if low.char ≤ high.char then .ok (.range span low high, cur)
      else reject .classRangeInvalid span

/-- Completes a pending operator with its right operand. -/
def closeOperator (right : ClassSet) : List ClassFrame → ClassSet × List ClassFrame
  | .operator op left :: stack =>
    (.combine ⟨left.span.start, right.span.stop⟩ op left right, stack)
  | stack => (right, stack)

def operatorHere? (cur : Cursor) : Option (SetOperator × Cursor) :=
  match cur.bumpWord? "&&", cur.bumpWord? "--", cur.bumpWord? "~~" with
  | some cur, _, _ => some (.intersection, cur)
  | _, some cur, _ => some (.difference, cur)
  | _, _, some cur => some (.symmetricDifference, cur)
  | none, none, none => none

/-- Reads up to the bracket that closes the outermost one. The fuel bounds the number of items and
brackets. -/
def readClassFrom : Nat → List ClassFrame → Union → Cursor → Reading (Tree × Cursor)
  | 0, stack, _, cur => unclosedClass stack cur
  | fuel + 1, stack, u, cur =>
    let cur := cur.space
    match cur.peek?, operatorHere? cur with
    | none, _ => unclosedClass stack cur
    | some '[', _ =>
      match (if stack.isEmpty then none else readAsciiClass? cur) with
      | some (item, cur) => readClassFrom fuel stack (u.push item) cur
      | none => do
        let (frame, inner, cur) ← openBracket u cur
        readClassFrom fuel (frame :: stack) inner cur
    | some ']', _ =>
      match closeOperator u.toSet stack with
      | (set, .opened parent span negated :: stack) =>
        let cur := cur.bump
        let span := cur.since span.start
        if stack.isEmpty then .ok (.bracketed span negated set, cur)
        else readClassFrom fuel stack (parent.push (.bracketed span negated set)) cur
      | (_, stack) => unclosedClass stack cur
    | _, some (op, cur) =>
      let (left, stack) := closeOperator u.toSet stack
      readClassFrom fuel (.operator op left :: stack) ⟨cur.here, []⟩ cur
    | _, none => do
      let (item, cur) ← readClassRange stack cur
      readClassFrom fuel stack (u.push item) cur

def readClass (cur : Cursor) : Reading (Tree × Cursor) :=
  readClassFrom (2 * cur.rest.length + 2) [] ⟨cur.here, []⟩ cur

end FilterQuery.Regex
