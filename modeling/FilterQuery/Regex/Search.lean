import FilterQuery.Regex.Expr

/-!
# Searching a text

An expression takes a place in a text to the places where a match from there may end. `run` does this
for a whole set of places at once, kept in the order of the text and without repetition, so its work
stays bounded however ambiguous the expression is.
-/

namespace FilterQuery.Regex

/-- A place in a text: how far it lies from the start, the character before it, and what follows. -/
structure Place where
  index : Nat
  before : Option Char
  rest : List Char

namespace Place

/-- The place behind the next character, if that is accepted. -/
def advance? (p : Place) (accepts : Char → Bool) : Option Place :=
  match p.rest with
  | [] => none
  | c :: rest => if accepts c then some ⟨p.index + 1, some c, rest⟩ else none

/-- The places of a text from one on, in order. -/
def onwards (index : Nat) (before : Option Char) : List Char → List Place
  | [] => [⟨index, before, []⟩]
  | c :: rest => ⟨index, before, c :: rest⟩ :: onwards (index + 1) (some c) rest

def all (text : String) : List Place := onwards 0 none text.toList

end Place

def Look.holds (look : Look) (p : Place) : Bool :=
  let next := p.rest.head?
  match look with
  | .start => p.before.isNone
  | .stop => next.isNone
  | .startLine => p.before.isNone || p.before == some '\n'
  | .endLine => next.isNone || next == some '\n'
  | .startLineCrlf =>
    p.before.isNone || p.before == some '\n' || (p.before == some '\r' && next != some '\n')
  | .endLineCrlf =>
    next.isNone || next == some '\r' || (next == some '\n' && p.before != some '\r')
  | .wordBoundary word => p.before.any word != next.any word
  | .notWordBoundary word => p.before.any word == next.any word
  | .wordStart word => !p.before.any word && next.any word
  | .wordEnd word => p.before.any word && !next.any word
  | .wordStartHalf word => !p.before.any word
  | .wordEndHalf word => !next.any word

def merge : List Place → List Place → List Place
  | [], qs => qs
  | ps, [] => ps
  | p :: ps, q :: qs =>
    if p.index < q.index then p :: merge ps (q :: qs)
    else if q.index < p.index then q :: merge (p :: ps) qs
    else p :: merge ps qs
termination_by ps qs => ps.length + qs.length

/-- The places of the first set that are not in the second. -/
def without (ps qs : List Place) : List Place :=
  ps.filter fun p => !qs.any (·.index == p.index)

/-- Takes `step` any number of times up to `fuel`, starting from the places in `frontier`; gathers all
places reached. A place seen before leads nowhere new. -/
def spread (step : List Place → List Place) : Nat → List Place → List Place → List Place
  | 0, _, seen => seen
  | fuel + 1, frontier, seen =>
    match without (step frontier) seen with
    | [] => seen
    | fresh => spread step fuel fresh (merge seen fresh)

def iterate (step : List Place → List Place) : Nat → List Place → List Place
  | 0, ps => ps
  | n + 1, ps => if ps.isEmpty then ps else iterate step n (step ps)

/-- How many places there can be behind the first of a set. -/
def reach (ps : List Place) : Nat :=
  match ps with
  | [] => 0
  | p :: _ => p.rest.length + 1

mutual

/-- The places where a match that starts in the set may end. -/
def Expr.run : Expr → List Place → List Place
  | .empty, ps => ps
  | .one accepts _, ps => ps.filterMap (·.advance? accepts)
  | .look kind, ps => ps.filter kind.holds
  | .concat parts, ps => runAll parts ps
  | .alternation branches, ps => runAny branches ps
  | .repetition least most body, ps =>
    let ps := iterate body.run least ps
    let fuel := match most with
      | none => reach ps
      | some most => min (most - least) (reach ps)
    spread body.run fuel ps ps

def runAll : List Expr → List Place → List Place
  | [], ps => ps
  | e :: es, ps => runAll es (e.run ps)

def runAny : List Expr → List Place → List Place
  | [], _ => []
  | e :: es, ps => merge (e.run ps) (runAny es ps)

end

/-- Whether there is a match anywhere in a text. -/
def Expr.matchesIn (e : Expr) (text : String) : Bool := !(e.run (Place.all text)).isEmpty

end FilterQuery.Regex
