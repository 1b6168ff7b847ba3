import FilterQuery.Regex.Syntax
import FilterQuery.Text.Blank

/-!
# Moving through a pattern

The part of a pattern that is still to be read, and the small steps over it. In the verbose mode
white space and comments, which run from `#` to the end of the line, stand for nothing.
-/

namespace FilterQuery.Regex

structure Cursor where
  rest : List Char
  pos : Position
  /-- White space and comments stand for nothing. -/
  verbose : Bool
  /-- The names of the groups read so far. -/
  names : List (String × Span)

namespace Cursor

def atEnd (cur : Cursor) : Bool := cur.rest.isEmpty

def peek? (cur : Cursor) : Option Char := cur.rest.head?

def bump (cur : Cursor) : Cursor :=
  match cur.rest with
  | [] => cur
  | c :: rest => { cur with rest, pos := cur.pos.after c }

/-- What is left behind white space and comments; the flag says whether a comment is open. -/
def skipVerbose : Bool → List Char → Position → List Char × Position
  | _, [], p => ([], p)
  | false, c :: rest, p =>
    if Text.isWhiteSpace c then skipVerbose false rest (p.after c)
    else if c = '#' then skipVerbose true rest (p.after c)
    else (c :: rest, p)
  | true, c :: rest, p => skipVerbose (c != '\n') rest (p.after c)

/-- Past white space and comments in the verbose mode. -/
def space (cur : Cursor) : Cursor :=
  if cur.verbose then
    let (rest, pos) := skipVerbose false cur.rest cur.pos
    { cur with rest, pos }
  else cur

/-- Past one character and the space behind it. -/
def bumpSpace (cur : Cursor) : Cursor := cur.bump.space

def bumpWord? (cur : Cursor) (word : String) : Option Cursor :=
  if word.toList.isPrefixOf cur.rest then some (word.toList.foldl (fun cur _ => cur.bump) cur)
  else none

def here (cur : Cursor) : Span := ⟨cur.pos, cur.pos⟩

def charSpan (cur : Cursor) : Span := ⟨cur.pos, cur.bump.pos⟩

/-- The stretch from an earlier place to here. -/
def since (cur : Cursor) (start : Position) : Span := ⟨start, cur.pos⟩

/-- The first character behind white space; behind a `#` the first one of the comment. -/
def pastBlanks : Bool → List Char → Option Char
  | _, [] => none
  | comment, c :: rest =>
    if Text.isWhiteSpace c then pastBlanks comment rest
    else if c = '#' && !comment then pastBlanks true rest
    else some c

/-- The character after the next one; in the verbose mode white space before it does not count. -/
def peekSecond? (cur : Cursor) : Option Char :=
  let rest := cur.rest.tail
  if cur.verbose then (pastBlanks false rest).or rest.head? else rest.head?

/-- Reads the characters of a kind, at most `fuel` of them. Space behind each is skipped if `spaced`
and the mode allows it. -/
def takeWhile (kind : Char → Bool) (spaced : Bool) : Nat → Cursor → List Char × Cursor
  | 0, cur => ([], cur)
  | fuel + 1, cur =>
    match cur.peek? with
    | some c =>
      if kind c then
        let (cs, cur) := takeWhile kind spaced fuel (if spaced then cur.bumpSpace else cur.bump)
        (c :: cs, cur)
      else ([], cur)
    | none => ([], cur)

def span (cur : Cursor) (kind : Char → Bool) (spaced : Bool) : List Char × Cursor :=
  takeWhile kind spaced cur.rest.length cur

end Cursor

/-- What fails, fails with a reason to reject the pattern. -/
abbrev Reading := Except Rejection

def reject {α : Type} (cause : Cause) (span : Span) : Reading α := .error ⟨cause, span, none⟩

end FilterQuery.Regex
