import FilterQuery.Regex.Size
import FilterQuery.Unicode.Query

/-!
# What a syntax tree means

Syntax trees still depend on flags; expressions do not. `Tree.toExpr` resolves the flags: a class
becomes the test for its characters, a letter the test for its case variants, an anchor one of two
assertions. Outside Unicode mode classes are sets of bytes, and a byte above ASCII is no text, so
whatever could match one is rejected.
-/

namespace FilterQuery.Regex

/-- What holds at a place, seen from the characters on its two sides. -/
inductive Look where
  | start
  | stop
  | startLine
  | endLine
  /-- Like `startLine`, where a line may also end in a carriage return. -/
  | startLineCrlf
  | endLineCrlf
  | wordBoundary (word : Char → Bool)
  | notWordBoundary (word : Char → Bool)
  | wordStart (word : Char → Bool)
  | wordEnd (word : Char → Bool)
  | wordStartHalf (word : Char → Bool)
  | wordEndHalf (word : Char → Bool)

inductive Expr where
  | empty
  /-- A character of a class, and the size of the class. -/
  | one (accepts : Char → Bool) (size : Size)
  | look (kind : Look)
  | concat (parts : List Expr)
  | alternation (branches : List Expr)
  | repetition (least : Nat) (most : Option Nat) (body : Expr)

structure Modes where
  caseInsensitive : Bool := false
  multiLine : Bool := false
  dotMatchesNewLine : Bool := false
  unicode : Bool := true
  crlf : Bool := false
deriving DecidableEq, Repr

def Modes.set (m : Modes) (items : List FlagItem) : Modes where
  caseInsensitive := (flagState? .caseInsensitive false items).getD m.caseInsensitive
  multiLine := (flagState? .multiLine false items).getD m.multiLine
  dotMatchesNewLine := (flagState? .dotMatchesNewLine false items).getD m.dotMatchesNewLine
  unicode := (flagState? .unicode false items).getD m.unicode
  crlf := (flagState? .crlf false items).getD m.crlf

/-! ### Sets of characters -/

/-- The other letter of a pair that differs in case, within ASCII. -/
def asciiSwap (c : Char) : Char :=
  if c.isUpper then c.toLower else if c.isLower then c.toUpper else c

namespace Modes

/-- A set together with the case variants of its characters, if case is not to count. -/
def fold (m : Modes) (set : Char → Bool) : Char → Bool :=
  if !m.caseInsensitive then set
  else if m.unicode then fun c => set c || (Unicode.caseVariants c).any set
  else fun c => set c || set (asciiSwap c)

/-- The size of a character together with its case variants, if case is not to count. -/
def letterSize (m : Modes) (x : Char) : Size :=
  let others := if !m.caseInsensitive then []
    else if m.unicode then Unicode.caseVariants x
    else [asciiSwap x].filter (· != x)
  if others.isEmpty then .ofChar x else .ofChars (x :: others)

/-- The rest of a set. Outside Unicode mode it holds bytes that are no text. -/
def negate (m : Modes) (negated : Bool) (span : Span) (set : Char → Bool) :
    Except Rejection (Char → Bool) :=
  if !negated then .ok set
  else if m.unicode then .ok fun c => !set c
  else .error ⟨.invalidUtf8, span, none⟩

def word (m : Modes) : Char → Bool :=
  if m.unicode then Unicode.isWord else fun c => c.isAlphanum || c == '_'

end Modes

def AsciiClass.contains (name : AsciiClass) (c : Char) : Bool :=
  let n := c.toNat
  match name with
  | alnum => c.isAlphanum
  | alpha => c.isAlpha
  | ascii => n < 0x80
  | blank => c == '\t' || c == ' '
  | cntrl => n < 0x20 || n == 0x7F
  | digit => c.isDigit
  | graph => 0x21 ≤ n && n ≤ 0x7E
  | lower => c.isLower
  | print => 0x20 ≤ n && n ≤ 0x7E
  | punct => 0x21 ≤ n && n ≤ 0x7E && !c.isAlphanum
  | space => c == ' ' || (9 ≤ n && n ≤ 13)
  | upper => c.isUpper
  | word => c.isAlphanum || c == '_'
  | xdigit => c.isDigit || ('a' ≤ c && c ≤ 'f') || ('A' ≤ c && c ≤ 'F')

/-- A class with a letter of its own, in and outside Unicode mode. -/
def Shorthand.contains (name : Shorthand) (unicode : Bool) : Char → Bool :=
  match name, unicode with
  | .digit, true => Unicode.isDigit
  | .space, true => Text.isWhiteSpace
  | .word, true => Unicode.isWord
  | .digit, false => AsciiClass.digit.contains
  | .space, false => AsciiClass.space.contains
  | .word, false => AsciiClass.word.contains

/-- Whether a query asks for the characters that do not have a value. -/
def PropertyQuery.isNegated : PropertyQuery → Bool
  | .single _ => false
  | .valued negated _ _ => negated

/-- The characters with the property or the value that a query names. -/
def PropertyQuery.resolve (query : PropertyQuery) (span : Span) :
    Except Rejection (Char → Bool) :=
  match query with
  | .single name =>
    match Unicode.named? name with
    | some set => .ok set
    | none => .error ⟨.unicodePropertyNotFound, span, none⟩
  | .valued _ name value =>
    match Unicode.valued name value with
    | .found set => .ok set
    | .unknownProperty => .error ⟨.unicodePropertyNotFound, span, none⟩
    | .unknownValue => .error ⟨.unicodePropertyValueNotFound, span, none⟩

namespace Modes

variable (m : Modes)

def shorthandSet (span : Span) (negated : Bool) (name : Shorthand) :
    Except Rejection (Char → Bool) :=
  m.negate negated span (name.contains m.unicode)

/-- The characters that a property asks for. Case variants are added before the set is negated, be it
for the letter of the property or for the sign in its query. -/
def propertySet (span : Span) (negated : Bool) (query : PropertyQuery) :
    Except Rejection (Char → Bool) := do
  if !m.unicode then .error ⟨.unicodeNotAllowed, span, none⟩
  else
    let set ← query.resolve span
    m.negate (negated != query.isNegated) span (m.fold set)

/-- A character as text: outside Unicode mode an escaped byte above ASCII is none. -/
def textLiteral (l : Literal) : Except Rejection Char :=
  if !m.unicode && l.byteEscape && 0x7F < l.char.toNat then .error ⟨.invalidUtf8, l.span, none⟩
  else .ok l.char

/-- A character of a class: outside Unicode mode it has to be ASCII. -/
def classLiteral (l : Literal) : Except Rejection Char := do
  let c ← m.textLiteral l
  if !m.unicode && 0x7F < c.toNat then .error ⟨.unicodeNotAllowed, l.span, none⟩ else .ok c

def combine (op : SetOperator) (left right : Char → Bool) : Char → Bool :=
  match op with
  | .intersection => fun c => left c && right c
  | .difference => fun c => left c && !right c
  | .symmetricDifference => fun c => left c != right c

mutual

/-- The characters of what stands between brackets. Case variants are added before a set is negated
or combined. -/
def classSet : ClassSet → Except Rejection (Char → Bool)
  | .empty _ => .ok fun _ => false
  | .literal l => do
    let x ← m.classLiteral l
    .ok fun c => c == x
  | .range _ low high => do
    let low ← m.classLiteral low
    let high ← m.classLiteral high
    .ok fun c => low ≤ c && c ≤ high
  | .ascii span negated name => m.negate negated span (m.fold name.contains)
  | .property span negated query => m.propertySet span negated query
  | .shorthand span negated name => m.shorthandSet span negated name
  | .bracketed span negated set => do
    let set ← classSet set
    m.negate negated span (m.fold set)
  | .union _ items => classUnion items
  | .combine _ op left right => do
    let left ← classSet left
    let right ← classSet right
    .ok (combine op (m.fold left) (m.fold right))

def classUnion : List ClassSet → Except Rejection (Char → Bool)
  | [] => .ok fun _ => false
  | item :: rest => do
    let first ← classSet item
    let others ← classUnion rest
    .ok fun c => first c || others c

end

/-! ### Expressions -/

/-- Any character; without the flag `s` none that ends a line. -/
def dot (span : Span) : Except Rejection Expr :=
  if !m.unicode then .error ⟨.invalidUtf8, span, none⟩
  else if m.dotMatchesNewLine then .ok (.one (fun _ => true) (.allBut 0))
  else if m.crlf then .ok (.one (fun c => c != '\n' && c != '\r') (.allBut 2))
  else .ok (.one (fun c => c != '\n') (.allBut 1))

def look (kind : Assertion) : Look :=
  match kind with
  | .startText => .start
  | .endText => .stop
  | .startLine => if !m.multiLine then .start else if m.crlf then .startLineCrlf else .startLine
  | .endLine => if !m.multiLine then .stop else if m.crlf then .endLineCrlf else .endLine
  | .wordBoundary => .wordBoundary m.word
  | .notWordBoundary => .notWordBoundary m.word
  | .wordStart => .wordStart m.word
  | .wordEnd => .wordEnd m.word
  | .wordStartHalf => .wordStartHalf m.word
  | .wordEndHalf => .wordEndHalf m.word

end Modes

mutual

/-- The expression of a tree under some flags, and the flags behind it. Flags set inside a group end
with it; flags set in a branch hold in the branches after it. -/
def Tree.toExpr (m : Modes) : Tree → Except Rejection (Expr × Modes)
  | .empty _ => .ok (.empty, m)
  | .flags _ items => .ok (.empty, m.set items)
  | .literal l => do
    let x ← m.textLiteral l
    .ok (.one (m.fold fun c => c == x) (m.letterSize x), m)
  | .dot span => do
    let e ← m.dot span
    .ok (e, m)
  | .assertion _ kind => .ok (.look (m.look kind), m)
  | .property span negated query => do
    let set ← m.propertySet span negated query
    .ok (.one set (.asciiClass 1), m)
  | .shorthand span negated name => do
    let set ← m.shorthandSet span negated name
    .ok (.one set (name.size m.unicode negated), m)
  | .bracketed span negated set => do
    let inside ← m.classSet set
    let accepts ← m.negate negated span (m.fold inside)
    .ok (.one accepts ((ClassSet.bracketed span negated set).size m.unicode), m)
  | .repetition _ least most body => do
    let (e, m) ← body.toExpr m
    .ok (.repetition least most e, m)
  | .group _ items body => do
    let (e, _) ← body.toExpr (m.set items)
    .ok (e, m)
  | .alternation _ branches => do
    let (es, m) ← toExprs m [] branches
    .ok (.alternation es, m)
  | .concat _ parts => do
    let (es, m) ← toExprs m [] parts
    .ok (.concat es, m)

/-- The expressions of trees one behind the other, behind those of the trees before them. -/
def toExprs (m : Modes) (done : List Expr) : List Tree → Except Rejection (List Expr × Modes)
  | [] => .ok (done.reverse, m)
  | part :: rest => do
    let (e, m) ← part.toExpr m
    toExprs m (e :: done) rest

end

end FilterQuery.Regex
