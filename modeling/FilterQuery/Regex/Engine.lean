import FilterQuery.Pattern
import FilterQuery.Regex.Message
import FilterQuery.Regex.Parser
import FilterQuery.Regex.Search

/-!
# The engine

The library of regular expressions that the program uses. A source is read, its flags are resolved,
and the expression is refused if it would take too much memory; a text is then searched for a match.

The properties of characters it knows are those in `Unicode.named?` and `Unicode.valued`. A pattern
that asks for another one is rejected.
-/

namespace FilterQuery

namespace Regex

mutual

def Expr.size : Expr → Size
  | .empty => .state
  | .look _ => .state
  | .one _ size => size
  | .concat parts => sizeOfAll (.both 0) parts
  | .alternation branches => sizeOfAll (.both (64 + 4 * branches.length)) branches
  | .repetition least most body => body.size.repeated least most

/-- The size of expressions together with what was counted before them. -/
def sizeOfAll (counted : Size) : List Expr → Size
  | [] => counted
  | e :: es => sizeOfAll (counted + e.size) es

end

/-- How many bytes the larger automaton of an expression takes. Both have a state to start from and one
for a match, and the one that goes forwards has two more for where a match lies. -/
def Expr.bytes (e : Expr) : Nat := max (e.size.forward + 128) (e.size.backward + 64)

def modes (flags : RegexFlags) : Modes where
  caseInsensitive := flags.ignoreCase
  multiLine := flags.multiLine
  dotMatchesNewLine := flags.dotMatchesNewLine

/-- The expression that a source stands for. -/
def read (source : String) (flags : RegexFlags) : Except Rejection Expr := do
  let tree ← parse source flags.ignoreWhiteSpace
  let (e, _) ← tree.toExpr (modes flags)
  return e

/-- Why no expression is built from a source. -/
inductive Refusal where
  | rejected (rejection : Rejection)
  | tooBig
deriving DecidableEq, Repr

def Refusal.message (refusal : Refusal) (source : String) : String :=
  match refusal with
  | rejected rejection => rejection.message source
  | tooBig => RegexLibrary.tooBig

/-- The expression of a source, if it is not too big. -/
def compile (source : String) (flags : RegexFlags) : Except Refusal Expr :=
  match read source flags with
  | .error rejection => .error (.rejected rejection)
  | .ok e => if RegexLibrary.sizeLimit < e.bytes then .error .tooBig else .ok e

end Regex

def Pattern.toExpr (p : Pattern) : Except Regex.Refusal Regex.Expr := Regex.compile p.source p.flags

instance Regex.engine : RegexLibrary where
  build source flags :=
    match Regex.compile source flags with
    | .ok e => .ok e.matchesIn
    | .error refusal => .error (refusal.message source)

end FilterQuery
