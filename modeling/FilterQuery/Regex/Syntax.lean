/-!
# The syntax of regular expressions

Syntax trees, each node with the stretch of the pattern it was read from, and the causes for which a
pattern is rejected. A cause always comes with the stretch to point at, and with a second one where
something stands twice.
-/

namespace FilterQuery.Regex

/-- A place in a pattern, in characters. Lines and columns count from one. -/
structure Position where
  offset : Nat
  line : Nat
  column : Nat
deriving DecidableEq, Repr

def Position.first : Position := ⟨0, 1, 1⟩

def Position.after (p : Position) (c : Char) : Position :=
  if c = '\n' then ⟨p.offset + 1, p.line + 1, 1⟩ else ⟨p.offset + 1, p.line, p.column + 1⟩

structure Span where
  start : Position
  stop : Position
deriving DecidableEq, Repr

/-! ### Rejected patterns -/

inductive Cause where
  | classEscapeInvalid
  | classRangeInvalid
  | classRangeLiteral
  | classUnclosed
  | decimalEmpty
  | decimalInvalid
  | escapeHexEmpty
  | escapeHexInvalid
  | escapeHexInvalidDigit
  | escapeUnexpectedEnd
  | escapeUnrecognized
  | flagDanglingNegation
  | flagDuplicate
  | flagRepeatedNegation
  | flagUnexpectedEnd
  | flagUnrecognized
  | groupNameDuplicate
  | groupNameEmpty
  | groupNameInvalid
  | groupNameUnexpectedEnd
  | groupUnclosed
  | groupUnopened
  | nestLimitExceeded (limit : Nat)
  | repetitionCountInvalid
  | repetitionCountDecimalEmpty
  | repetitionCountUnclosed
  | repetitionMissing
  | specialWordBoundaryUnclosed
  | specialWordBoundaryUnrecognized
  | specialWordOrRepetitionUnexpectedEnd
  | unicodeClassInvalid
  | unsupportedBackreference
  | unsupportedLookAround
  | unicodeNotAllowed
  | invalidUtf8
  | unicodePropertyNotFound
  | unicodePropertyValueNotFound
deriving DecidableEq, Repr

def Cause.message : Cause → String
  | classEscapeInvalid => "invalid escape sequence found in character class"
  | classRangeInvalid => "invalid character class range, the start must be <= the end"
  | classRangeLiteral => "invalid range boundary, must be a literal"
  | classUnclosed => "unclosed character class"
  | decimalEmpty => "decimal literal empty"
  | decimalInvalid => "decimal literal invalid"
  | escapeHexEmpty => "hexadecimal literal empty"
  | escapeHexInvalid => "hexadecimal literal is not a Unicode scalar value"
  | escapeHexInvalidDigit => "invalid hexadecimal digit"
  | escapeUnexpectedEnd => "incomplete escape sequence, reached end of pattern prematurely"
  | escapeUnrecognized => "unrecognized escape sequence"
  | flagDanglingNegation => "dangling flag negation operator"
  | flagDuplicate => "duplicate flag"
  | flagRepeatedNegation => "flag negation operator repeated"
  | flagUnexpectedEnd => "expected flag but got end of regex"
  | flagUnrecognized => "unrecognized flag"
  | groupNameDuplicate => "duplicate capture group name"
  | groupNameEmpty => "empty capture group name"
  | groupNameInvalid => "invalid capture group character"
  | groupNameUnexpectedEnd => "unclosed capture group name"
  | groupUnclosed => "unclosed group"
  | groupUnopened => "unopened group"
  | nestLimitExceeded limit =>
    "exceed the maximum number of nested parentheses/brackets (" ++ toString limit ++ ")"
  | repetitionCountInvalid =>
    "invalid repetition count range, the start must be <= the end"
  | repetitionCountDecimalEmpty => "repetition quantifier expects a valid decimal"
  | repetitionCountUnclosed => "unclosed counted repetition"
  | repetitionMissing => "repetition operator missing expression"
  | specialWordBoundaryUnclosed =>
    "special word boundary assertion is either unclosed or contains an invalid character"
  | specialWordBoundaryUnrecognized =>
    "unrecognized special word boundary assertion, valid choices are: start, end, start-half "
      ++ "or end-half"
  | specialWordOrRepetitionUnexpectedEnd =>
    "found either the beginning of a special word boundary or a bounded repetition on a \\b with "
      ++ "an opening brace, but no closing brace"
  | unicodeClassInvalid => "invalid Unicode character class"
  | unsupportedBackreference => "backreferences are not supported"
  | unsupportedLookAround =>
    "look-around, including look-ahead and look-behind, is not supported"
  | unicodeNotAllowed => "Unicode not allowed here"
  | invalidUtf8 => "pattern can match invalid UTF-8"
  | unicodePropertyNotFound => "Unicode property not found"
  | unicodePropertyValueNotFound => "Unicode property value not found"

structure Rejection where
  cause : Cause
  span : Span
  /-- Where the thing that is repeated stood first. -/
  earlier : Option Span := none
deriving DecidableEq, Repr

/-! ### Syntax trees -/

/-- A switch that a group or a part of a pattern can turn on or off. -/
inductive Flag where
  | caseInsensitive
  | multiLine
  | dotMatchesNewLine
  | swapGreed
  | unicode
  | crlf
  | ignoreWhiteSpace
deriving DecidableEq, Repr

/-- One sign of a list of flags: a flag, or the minus that turns off those behind it. -/
structure FlagItem where
  span : Span
  flag : Option Flag
deriving DecidableEq, Repr

/-- Whether a list of flags turns a flag on or off. -/
def flagState? (flag : Flag) : Bool → List FlagItem → Option Bool
  | _, [] => none
  | off, item :: rest =>
    match item.flag with
    | none => flagState? flag true rest
    | some f => if f = flag then some (!off) else flagState? flag off rest

/-- A character of a pattern. `byteEscape` marks two hexadecimal digits behind `\x`, which outside
Unicode mode mean a byte. -/
structure Literal where
  span : Span
  char : Char
  byteEscape : Bool := false
deriving DecidableEq, Repr

inductive Assertion where
  | startLine
  | endLine
  | startText
  | endText
  | wordBoundary
  | notWordBoundary
  | wordStart
  | wordEnd
  | wordStartHalf
  | wordEndHalf
deriving DecidableEq, Repr

/-- The classes with a letter of their own: `\d`, `\s` and `\w`. -/
inductive Shorthand where
  | digit
  | space
  | word
deriving DecidableEq, Repr

inductive AsciiClass where
  | alnum | alpha | ascii | blank | cntrl | digit | graph
  | lower | print | punct | space | upper | word | xdigit
deriving DecidableEq, Repr

def AsciiClass.ofName? : String → Option AsciiClass
  | "alnum" => some alnum
  | "alpha" => some alpha
  | "ascii" => some ascii
  | "blank" => some blank
  | "cntrl" => some cntrl
  | "digit" => some digit
  | "graph" => some graph
  | "lower" => some lower
  | "print" => some print
  | "punct" => some punct
  | "space" => some space
  | "upper" => some upper
  | "word" => some word
  | "xdigit" => some xdigit
  | _ => none

/-- What stands behind `\p`: the name of a property, or a property and one of its values. -/
inductive PropertyQuery where
  | single (name : String)
  | valued (negated : Bool) (name value : String)
deriving DecidableEq, Repr

inductive SetOperator where
  | intersection
  | difference
  | symmetricDifference
deriving DecidableEq, Repr

inductive ClassSet where
  | empty (span : Span)
  | literal (l : Literal)
  | range (span : Span) (low high : Literal)
  | ascii (span : Span) (negated : Bool) (name : AsciiClass)
  | property (span : Span) (negated : Bool) (query : PropertyQuery)
  | shorthand (span : Span) (negated : Bool) (name : Shorthand)
  | bracketed (span : Span) (negated : Bool) (set : ClassSet)
  | union (span : Span) (items : List ClassSet)
  | combine (span : Span) (op : SetOperator) (left right : ClassSet)

def ClassSet.span : ClassSet → Span
  | empty s => s
  | literal l => l.span
  | range s _ _ => s
  | ascii s _ _ => s
  | property s _ _ => s
  | shorthand s _ _ => s
  | bracketed s _ _ => s
  | union s _ => s
  | combine s _ _ _ => s

/-- A syntax tree. Whether a repetition takes much or little first decides nothing about whether
there is a match, so trees do not record it. -/
inductive Tree where
  | empty (span : Span)
  | flags (span : Span) (items : List FlagItem)
  | literal (l : Literal)
  | dot (span : Span)
  | assertion (span : Span) (kind : Assertion)
  | property (span : Span) (negated : Bool) (query : PropertyQuery)
  | shorthand (span : Span) (negated : Bool) (name : Shorthand)
  | bracketed (span : Span) (negated : Bool) (set : ClassSet)
  | repetition (span : Span) (least : Nat) (most : Option Nat) (body : Tree)
  /-- A group with the flags that hold inside it. -/
  | group (span : Span) (items : List FlagItem) (body : Tree)
  | alternation (span : Span) (branches : List Tree)
  | concat (span : Span) (parts : List Tree)

def Tree.span : Tree → Span
  | empty s => s
  | flags s _ => s
  | literal l => l.span
  | dot s => s
  | assertion s _ => s
  | property s _ _ => s
  | shorthand s _ _ => s
  | bracketed s _ _ => s
  | repetition s _ _ _ => s
  | group s _ _ => s
  | alternation s _ => s
  | concat s _ => s

/-! ### Nesting -/

/-- Trees may be this deep. -/
def nestLimit : Nat := 250

def enter (depth : Nat) (span : Span) : Except Rejection Unit :=
  if nestLimit < depth + 1 then .error ⟨.nestLimitExceeded nestLimit, span, none⟩ else .ok ()

mutual

/-- Fails at the first node of a class that is nested too deep. -/
def ClassSet.checkNesting (depth : Nat) : ClassSet → Except Rejection Unit
  | .bracketed s _ set => do
    enter depth s
    set.checkNesting (depth + 1)
  | .union s items => do
    enter depth s
    checkNestingItems (depth + 1) items
  | .combine s _ left right => do
    enter depth s
    left.checkNesting (depth + 1)
    right.checkNesting (depth + 1)
  | _ => .ok ()

def checkNestingItems (depth : Nat) : List ClassSet → Except Rejection Unit
  | [] => .ok ()
  | item :: rest => do
    item.checkNesting depth
    checkNestingItems depth rest

end

mutual

/-- Fails at the first node of a tree that is nested too deep. -/
def Tree.checkNesting (depth : Nat) : Tree → Except Rejection Unit
  | .bracketed s _ set => do
    enter depth s
    set.checkNesting (depth + 1)
  | .repetition s _ _ body => do
    enter depth s
    body.checkNesting (depth + 1)
  | .group s _ body => do
    enter depth s
    body.checkNesting (depth + 1)
  | .alternation s branches => do
    enter depth s
    checkNestingParts (depth + 1) branches
  | .concat s parts => do
    enter depth s
    checkNestingParts (depth + 1) parts
  | _ => .ok ()

def checkNestingParts (depth : Nat) : List Tree → Except Rejection Unit
  | [] => .ok ()
  | part :: rest => do
    part.checkNesting depth
    checkNestingParts depth rest

end

end FilterQuery.Regex
