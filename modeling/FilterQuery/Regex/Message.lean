import FilterQuery.Regex.Syntax

/-!
# Telling why a pattern is rejected

The message repeats the pattern, each line of it followed by carets under what is wrong there, and
ends in the cause. A pattern of several lines is framed and its lines are numbered.
-/

namespace FilterQuery.Regex

/-- The lines of a text. A carriage return before the line feed belongs to the line end, and nothing
behind the last line feed is no line. -/
def lines (text : String) : List (List Char) :=
  let parts := text.toList.splitOn '\n'
  let parts := if parts.getLast? == some [] then parts.dropLast else parts
  let ended := parts.length - (if text.toList.getLast? == some '\n' then 0 else 1)
  parts.mapIdx fun i line =>
    if i < ended && line.getLast? == some '\r' then line.dropLast else line

namespace Span

def onOneLine (s : Span) : Bool := s.start.line == s.stop.line

def before (a b : Span) : Bool :=
  a.start.offset < b.start.offset
    || (a.start.offset == b.start.offset && a.stop.offset ≤ b.stop.offset)

end Span

/-- Carets under some stretches of one line. The first argument counts the columns written. -/
def carets : Nat → List Span → List Char
  | _, [] => []
  | column, s :: rest =>
    let gap := s.start.column - 1 - column
    let width := max 1 (s.stop.column - s.start.column)
    List.replicate gap ' ' ++ List.replicate width '^' ++ carets (column + gap + width) rest

def padLeft (width : Nat) (cs : List Char) : List Char :=
  List.replicate (width - cs.length) ' ' ++ cs

namespace Rejection

/-- The stretches to point at, in the order of the pattern. -/
def spans (r : Rejection) : List Span :=
  match r.earlier with
  | none => [r.span]
  | some e => if e.before r.span then [e, r.span] else [r.span, e]

/-- The lines of the pattern with carets, where `width` is that of the line numbers. -/
def notated (r : Rejection) (pattern : String) (width : Nat) : String :=
  let margin := if width = 0 then 4 else width + 2
  String.ofList <| List.flatten <| (lines pattern).mapIdx fun i line =>
    let head := if width = 0 then List.replicate 4 ' '
      else padLeft width (Nat.toDigits 10 (i + 1)) ++ [':', ' ']
    let here := r.spans.filter fun s => s.onOneLine && s.start.line == i + 1
    let marks := if here.isEmpty then []
      else List.replicate margin ' ' ++ carets 0 here ++ ['\n']
    head ++ line ++ ['\n'] ++ marks

def runs (s : Span) : String :=
  "on line " ++ toString s.start.line ++ " (column " ++ toString s.start.column
    ++ ") through line " ++ toString s.stop.line ++ " (column " ++ toString (s.stop.column - 1)
    ++ ")"

def message (r : Rejection) (pattern : String) : String :=
  let cause := "error: " ++ r.cause.message
  if pattern.contains '\n' then
    let count := (lines pattern).length
      + (if pattern.toList.getLast? == some '\n' then 1 else 0)
    let width := if count ≤ 1 then 0 else (Nat.toDigits 10 count).length
    let rule := String.ofList (List.replicate 79 '~' ++ ['\n'])
    let long := r.spans.filter (!·.onOneLine)
    let notes := if long.isEmpty then "" else "\n".intercalate (long.map runs) ++ "\n"
    "regex parse error:\n" ++ rule ++ r.notated pattern width ++ rule ++ notes ++ cause
  else "regex parse error:\n" ++ r.notated pattern 0 ++ cause

end Rejection

end FilterQuery.Regex
