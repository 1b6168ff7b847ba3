import FilterQuery.Json.Literal

/-!
# Reading JSON text

The strict grammar, with its faults. A fault is noticed at some byte of the text: behind the
offending byte where one was read, and at the end where the text stops too early. `Json.read` turns
that into a line and a column, counting lines by line feeds and columns in bytes.
-/

namespace FilterQuery.Json

inductive Fault where
  | endInValue
  | endInList
  | endInObject
  | endInString
  | expectedColon
  | expectedCommaOrBracket
  | expectedCommaOrBrace
  | expectedIdent
  | expectedValue
  | invalidEscape
  | invalidNumber
  | numberOutOfRange
  | loneSurrogate
  | unpairedEscape
  | controlCharacter
  | keyNotString
  | trailingComma
  | trailingCharacters
  | tooDeep
deriving DecidableEq, Repr

def Fault.message : Fault → String
  | endInValue => "EOF while parsing a value"
  | endInList => "EOF while parsing a list"
  | endInObject => "EOF while parsing an object"
  | endInString => "EOF while parsing a string"
  | expectedColon => "expected `:`"
  | expectedCommaOrBracket => "expected `,` or `]`"
  | expectedCommaOrBrace => "expected `,` or `\x7d`"
  | expectedIdent => "expected ident"
  | expectedValue => "expected value"
  | invalidEscape => "invalid escape"
  | invalidNumber => "invalid number"
  | numberOutOfRange => "number out of range"
  | loneSurrogate => "lone leading surrogate in hex escape"
  | unpairedEscape => "unexpected end of hex escape"
  | controlCharacter => "control character (\\u0000-\\u001F) found while parsing a string"
  | keyNotString => "key must be a string"
  | trailingComma => "trailing comma"
  | trailingCharacters => "trailing characters"
  | tooDeep => "recursion limit exceeded"

/-- The text that is left, and the number of bytes before it. -/
structure Cursor where
  rest : List Char
  offset : Nat

/-- What fails, fails with a fault and the number of bytes before the place where it is noticed. -/
abbrev Reading := Except (Fault × Nat)

namespace Cursor

def next (c : Cursor) : Cursor :=
  match c.rest with
  | [] => c
  | ch :: rest => ⟨rest, c.offset + ch.utf8Size⟩

/-- The place behind the first byte that is left, or the end. -/
def behind (c : Cursor) : Nat :=
  match c.rest with
  | [] => c.offset
  | _ :: _ => c.offset + 1

def bytesLeft (c : Cursor) : Nat := c.rest.foldl (fun n ch => n + ch.utf8Size) 0

/-- Past spaces, tabs, line feeds and carriage returns. -/
def skipBlanks : List Char → Nat → Cursor
  | ' ' :: rest, n => skipBlanks rest (n + 1)
  | '\t' :: rest, n => skipBlanks rest (n + 1)
  | '\n' :: rest, n => skipBlanks rest (n + 1)
  | '\r' :: rest, n => skipBlanks rest (n + 1)
  | rest, n => ⟨rest, n⟩

def blanks (c : Cursor) : Cursor := skipBlanks c.rest c.offset

/-- Fails at the first byte that is left, or with another fault at the end. -/
def fail {α : Type} (c : Cursor) (fault : Fault) (atEnd : Fault) : Reading α :=
  .error (if c.rest.isEmpty then atEnd else fault, c.behind)

end Cursor

/-! ### Numbers -/

def digit? (c : Char) : Option Nat := if c.isDigit then some (c.toNat - '0'.toNat) else none

def digits : List Char → Nat → List Nat × Cursor
  | [], n => ([], ⟨[], n⟩)
  | c :: rest, n =>
    match digit? c with
    | some d =>
      let (ds, cur) := digits rest (n + 1)
      (d :: ds, cur)
    | none => ([], ⟨c :: rest, n⟩)

/-- The whole part: a single zero, or digits without a zero in front. -/
def wholePart (cur : Cursor) : Reading (List Nat × Cursor) :=
  match digits cur.rest cur.offset with
  | ([], _) => cur.fail .invalidNumber .endInValue
  | (0 :: _ :: _, _) => .error (.invalidNumber, cur.offset + 2)
  | (ds, cur) => .ok (ds, cur)

/-- The digits behind a point, if there is one. -/
def fractionPart (cur : Cursor) : Reading (Option (List Nat) × Cursor) :=
  match cur.rest with
  | '.' :: rest =>
    match digits rest (cur.offset + 1) with
    | ([], cur) => cur.fail .invalidNumber .endInValue
    | (ds, cur) => .ok (some ds, cur)
  | _ => .ok (none, cur)

/-- The number of leading digits of an exponent that 32 bits hold, if they do not hold all. -/
def exponentOverflow? (value : Nat) (count : Nat) : List Nat → Option Nat
  | [] => none
  | d :: rest =>
    if value * 10 + d < 0x80000000 then exponentOverflow? (value * 10 + d) (count + 1) rest
    else some count

/-- The power of ten behind an `e`, if there is one. One that 32 bits do not hold is out of range if
it is positive and the digits before it are not all zero. -/
def exponentPart (zero : Bool) (cur : Cursor) : Reading (Option Int × Cursor) :=
  let signed (cur : Cursor) : Bool × Cursor :=
    match cur.rest with
    | '+' :: _ => (false, cur.next)
    | '-' :: _ => (true, cur.next)
    | _ => (false, cur)
  let read (cur : Cursor) : Reading (Option Int × Cursor) :=
    let (negative, cur) := signed cur
    match digits cur.rest cur.offset with
    | ([], cur) => cur.fail .invalidNumber .endInValue
    | (ds, after) =>
      let magnitude : Nat := ds.foldl (fun n d => n * 10 + d) 0
      match exponentOverflow? 0 0 ds with
      | some count =>
        if !zero && !negative then .error (.numberOutOfRange, cur.offset + count + 1)
        else .ok (some (-1000000), after)
      | none => .ok (some (if negative then -(magnitude : Int) else magnitude), after)
  match cur.rest with
  | 'e' :: _ => read cur.next
  | 'E' :: _ => read cur.next
  | _ => .ok (none, cur)

def readNumber (negative : Bool) (cur : Cursor) : Reading (Number × Cursor) := do
  let (whole, cur) ← wholePart cur
  let (fraction, cur) ← fractionPart cur
  let zero := whole.all (· == 0) && (fraction.getD []).all (· == 0)
  let (exponent, cur) ← exponentPart zero cur
  match (Literal.mk negative whole fraction exponent).number? with
  | some n => .ok (n, cur)
  | none => .error (.numberOutOfRange, cur.offset)

/-! ### Strings -/

def hexDigit? (c : Char) : Option Nat :=
  if c.isDigit then some (c.toNat - '0'.toNat)
  else if 'a' ≤ c ∧ c ≤ 'f' then some (c.toNat - 'a'.toNat + 10)
  else if 'A' ≤ c ∧ c ≤ 'F' then some (c.toNat - 'A'.toNat + 10)
  else none

def hexFour (cur : Cursor) : Reading (Nat × Cursor) :=
  let wrong : Reading (Nat × Cursor) :=
    if cur.bytesLeft < 4 then .error (.endInString, cur.offset + cur.bytesLeft)
    else .error (.invalidEscape, cur.offset + 4)
  match cur.rest with
  | a :: b :: c :: d :: rest =>
    match hexDigit? a, hexDigit? b, hexDigit? c, hexDigit? d with
    | some a, some b, some c, some d =>
      .ok (((a * 16 + b) * 16 + c) * 16 + d, ⟨rest, cur.offset + 4⟩)
    | _, _, _, _ => wrong
  | _ => wrong

/-- Skips one expected character of the second half of a surrogate pair. -/
def pairStep (expected : Char) (cur : Cursor) : Reading Cursor :=
  match cur.rest with
  | [] => .error (.endInString, cur.offset)
  | c :: _ => if c = expected then .ok cur.next else .error (.unpairedEscape, cur.behind)

/-- The character of an escape with hexadecimal digits, behind its `u`. Characters beyond the first
plane are a pair of surrogates. -/
def unicodeEscape (cur : Cursor) : Reading (Char × Cursor) := do
  let (high, cur) ← hexFour cur
  if 0xDC00 ≤ high ∧ high ≤ 0xDFFF then .error (.loneSurrogate, cur.offset)
  else if high < 0xD800 ∨ 0xDBFF < high then .ok (Char.ofNat high, cur)
  else
    let cur ← pairStep '\\' cur
    let cur ← pairStep 'u' cur
    let (low, cur) ← hexFour cur
    if low < 0xDC00 ∨ 0xDFFF < low then .error (.loneSurrogate, cur.offset)
    else .ok (Char.ofNat ((high - 0xD800) * 0x400 + (low - 0xDC00) + 0x10000), cur)

/-- The character of an escape, behind its backslash. -/
def readEscape (cur : Cursor) : Reading (Char × Cursor) :=
  match cur.rest with
  | [] => .error (.endInString, cur.offset)
  | '"' :: _ => .ok ('"', cur.next)
  | '\\' :: _ => .ok ('\\', cur.next)
  | '/' :: _ => .ok ('/', cur.next)
  | 'b' :: _ => .ok ('\x08', cur.next)
  | 'f' :: _ => .ok ('\x0c', cur.next)
  | 'n' :: _ => .ok ('\n', cur.next)
  | 'r' :: _ => .ok ('\r', cur.next)
  | 't' :: _ => .ok ('\t', cur.next)
  | 'u' :: _ => unicodeEscape cur.next
  | _ :: _ => .error (.invalidEscape, cur.behind)

/-- A string behind its opening quote. The fuel bounds the number of characters; what was read so
far stands in `done`, last first. -/
def readString : Nat → List Char → Cursor → Reading (String × Cursor)
  | 0, _, cur => .error (.endInString, cur.offset)
  | fuel + 1, done, cur =>
    match cur.rest with
    | [] => .error (.endInString, cur.offset)
    | '"' :: _ => .ok (String.ofList done.reverse, cur.next)
    | '\\' :: _ =>
      match readEscape cur.next with
      | .ok (c, cur) => readString fuel (c :: done) cur
      | .error e => .error e
    | c :: _ =>
      if c.toNat < 0x20 then .error (.controlCharacter, cur.behind)
      else readString fuel (c :: done) cur.next

/-! ### Values -/

/-- The rest of a word whose first letter was read. -/
def readWord (value : Json) : List Char → Cursor → Reading (Json × Cursor)
  | [], cur => .ok (value, cur)
  | c :: cs, cur =>
    match cur.rest with
    | [] => .error (.endInValue, cur.offset)
    | d :: _ => if d = c then readWord value cs cur.next else .error (.expectedIdent, cur.behind)

/-- Containers may be nested this deep, less one. -/
def depthLimit : Nat := 128

mutual

/-- A value, with blanks before it. `depth` counts the containers around it; the fuel bounds the
number of values, items and members. -/
def readValue : Nat → Nat → Cursor → Reading (Json × Cursor)
  | 0, _, cur => .error (.endInValue, cur.offset)
  | fuel + 1, depth, cur =>
    let cur := cur.blanks
    match cur.rest with
    | [] => .error (.endInValue, cur.offset)
    | 'n' :: _ => readWord .null ['u', 'l', 'l'] cur.next
    | 't' :: _ => readWord (.bool true) ['r', 'u', 'e'] cur.next
    | 'f' :: _ => readWord (.bool false) ['a', 'l', 's', 'e'] cur.next
    | '-' :: _ => do
      let (n, cur) ← readNumber true cur.next
      .ok (.number n, cur)
    | '"' :: _ => do
      let (s, cur) ← readString (cur.rest.length + 1) [] cur.next
      .ok (.string s, cur)
    | '[' :: _ =>
      if depthLimit ≤ depth + 1 then .error (.tooDeep, cur.behind)
      else do
        let (items, cur) ← readItems fuel (depth + 1) true cur.next
        .ok (.array items, cur)
    | '\x7b' :: _ =>
      if depthLimit ≤ depth + 1 then .error (.tooDeep, cur.behind)
      else do
        let (members, cur) ← readMembers fuel (depth + 1) true [] cur.next
        .ok (.object members, cur)
    | c :: _ =>
      if c.isDigit then do
        let (n, cur) ← readNumber false cur
        .ok (.number n, cur)
      else .error (.expectedValue, cur.behind)

def readItems : Nat → Nat → Bool → Cursor → Reading (List Json × Cursor)
  | 0, _, _, cur => .error (.endInList, cur.offset)
  | fuel + 1, depth, first, cur =>
    let cur := cur.blanks
    let more (cur : Cursor) : Reading (List Json × Cursor) := do
      let (item, cur) ← readValue fuel depth cur
      let (rest, cur) ← readItems fuel depth false cur
      .ok (item :: rest, cur)
    match cur.rest, first with
    | [], _ => .error (.endInList, cur.offset)
    | ']' :: _, _ => .ok ([], cur.next)
    | ',' :: _, false =>
      let cur := cur.next.blanks
      match cur.rest with
      | [] => .error (.endInValue, cur.offset)
      | ']' :: _ => .error (.trailingComma, cur.behind)
      | _ => more cur
    | _ :: _, true => more cur
    | _ :: _, false => .error (.expectedCommaOrBracket, cur.behind)

/-- The members up to the closing brace, added to those read before. A repeated name keeps its first
place and takes the last value. -/
def readMembers : Nat → Nat → Bool → List (String × Json) → Cursor →
    Reading (List (String × Json) × Cursor)
  | 0, _, _, _, cur => .error (.endInObject, cur.offset)
  | fuel + 1, depth, first, done, cur =>
    let cur := cur.blanks
    let more (cur : Cursor) : Reading (List (String × Json) × Cursor) := do
      let (name, cur) ← readString (cur.rest.length + 1) [] cur.next
      let cur := cur.blanks
      match cur.rest with
      | ':' :: _ =>
        let (value, cur) ← readValue fuel depth cur.next
        readMembers fuel depth false (setMember name value done) cur
      | _ => cur.fail .expectedColon .endInObject
    match cur.rest, first with
    | [], _ => .error (.endInObject, cur.offset)
    | '\x7d' :: _, _ => .ok (done, cur.next)
    | ',' :: _, false =>
      let cur := cur.next.blanks
      match cur.rest with
      | [] => .error (.endInValue, cur.offset)
      | '"' :: _ => more cur
      | '\x7d' :: _ => .error (.trailingComma, cur.behind)
      | _ => .error (.keyNotString, cur.behind)
    | '"' :: _, true => more cur
    | _ :: _, true => .error (.keyNotString, cur.behind)
    | _ :: _, false => .error (.expectedCommaOrBrace, cur.behind)

end

/-- A fault with the line and the column at which it is noticed. -/
structure TextError where
  fault : Fault
  line : Nat
  column : Nat
deriving DecidableEq, Repr

def TextError.message (e : TextError) : String :=
  e.fault.message ++ " at line " ++ toString e.line ++ " column " ++ toString e.column

/-- The line and the column behind a number of bytes. -/
def locate (line column : Nat) : List Char → Nat → Nat × Nat
  | [], _ => (line, column)
  | c :: rest, n =>
    if n = 0 then (line, column)
    else if n < c.utf8Size then (line, column + n)
    else if c = '\n' then locate (line + 1) 0 rest (n - 1)
    else locate line (column + c.utf8Size) rest (n - c.utf8Size)

/-- The value of a text that holds one value and nothing else but blanks. -/
def read (text : String) : Except TextError Json :=
  let chars := text.toList
  let result : Reading Json := do
    let (value, cur) ← readValue (3 * chars.length + 3) 0 ⟨chars, 0⟩
    let cur := cur.blanks
    if cur.rest.isEmpty then .ok value else .error (.trailingCharacters, cur.behind)
  result.mapError fun (fault, offset) =>
    let (line, column) := locate 1 0 chars offset
    ⟨fault, line, column⟩

end FilterQuery.Json
