/-!
# Patterns

A pattern is the source of a regular expression with its option letters, as a query document carries
it. Two kinds are made from plain values: `exact` asks for a whole text, `containing` for a part of
one, both without regard to case. The value goes in as it is, so it may use the syntax of regular
expressions.

Whether a pattern is a regular expression, and which texts match it, is for a library to say. All that
depends on its word takes a `RegexLibrary`.
-/

namespace FilterQuery

/-- The switches with which a regular expression is built. -/
structure RegexFlags where
  ignoreCase : Bool := false
  multiLine : Bool := false
  dotMatchesNewLine : Bool := false
  ignoreWhiteSpace : Bool := false
deriving DecidableEq, Repr

/-- A library of regular expressions. It builds from a source the test whether a text has a match
anywhere, or says why it does not. -/
class RegexLibrary where
  build : String → RegexFlags → Except String (String → Bool)

namespace RegexLibrary

/-- So many bytes an expression may take when it is built. -/
def sizeLimit : Nat := 10 * 1024 * 1024

/-- What is said of an expression that would take more. -/
def tooBig : String :=
  "Compiled regex exceeds size limit of " ++ toString sizeLimit ++ " bytes."

end RegexLibrary

structure Pattern where
  source : String
  options : String
deriving DecidableEq, Repr

namespace Pattern

/-- The option letter for matching without regard to case. -/
def ignoreCase : String := "i"

/-- Matches the whole of a text. -/
def exact (value : String) : Pattern := ⟨"^" ++ value ++ "$", ignoreCase⟩

/-- Matches a part of a line. -/
def containing (value : String) : Pattern := ⟨".*" ++ value ++ ".*", ignoreCase⟩

/-- Whether an option letter is among the options. -/
def hasOption (p : Pattern) (letter : Char) : Bool := p.options.toList.contains letter

def isCaseInsensitive (p : Pattern) : Bool := p.hasOption 'i'

/-- The pattern between slashes, and its options. -/
def display (p : Pattern) : String := "/" ++ p.source ++ "/" ++ p.options

/-- The flags that the options turn on; other letters say nothing. -/
def flags (p : Pattern) : RegexFlags where
  ignoreCase := p.isCaseInsensitive
  multiLine := p.hasOption 'm'
  dotMatchesNewLine := p.hasOption 's'
  ignoreWhiteSpace := p.hasOption 'x'

variable [RegexLibrary]

/-- The test that the pattern stands for, or why it is no regular expression. -/
def toRegex (p : Pattern) : Except String (String → Bool) := RegexLibrary.build p.source p.flags

/-- Why the pattern is no regular expression, if it is none. -/
def fault? (p : Pattern) : Option String :=
  match p.toRegex with
  | .ok _ => none
  | .error message => some message

end Pattern

end FilterQuery
