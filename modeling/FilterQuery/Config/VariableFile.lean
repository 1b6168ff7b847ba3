import FilterQuery.Config.Variables

/-!
# Files of variables

A file of variables has a line for each of them, with the value bare or between quotes; a text between
quotes may go over several lines, and what stands behind a dollar sign is another variable. A variable
that is set already keeps its value, and a malformed line ends the file.
-/

namespace FilterQuery.Config

namespace VariableFile

/-! ### Lines -/

/-- Where in a line a reader is, as far as it decides whether the line goes on behind its end. -/
inductive LineMode where
  | plain
  | blank
  | escape
  | quoted (quote : Char)
  | quotedEscape (quote : Char)
deriving DecidableEq, Repr

/-- The mode behind a character outside of quotes. -/
def LineMode.opened (c : Char) : LineMode :=
  if c == '\\' then escape
  else if c == '"' || c == '\'' then quoted c
  else plain

/-- The mode behind a character; none if the character starts a comment. -/
def LineMode.next? : LineMode → Char → Option LineMode
  | plain, c =>
    some (if Text.isWhiteSpace c && c != '\n' && c != '\r' then blank else .opened c)
  | blank, c => if c == '#' then none else some (.opened c)
  | escape, _ => some plain
  | quoted quote, c =>
    some (if c == '\\' then quotedEscape quote else if c == quote then plain else quoted quote)
  | quotedEscape quote, _ => some (quoted quote)

/-- The characters up to a comment, and the mode behind them; none behind a comment. -/
def scan (mode : LineMode) : List Char → List Char × Option LineMode
  | [] => ([], some mode)
  | c :: rest =>
    match mode.next? c with
    | none => ([], none)
    | some mode =>
      let (kept, mode) := scan mode rest
      (c :: kept, mode)

def endedLines : List Char → List (List Char)
  | [] => []
  | '\n' :: rest => ['\n'] :: endedLines rest
  | c :: rest =>
    match endedLines rest with
    | line :: lines => (c :: line) :: lines
    | [] => [[c]]

def withoutEnd (line : List Char) : List Char :=
  match line.reverse with
  | '\n' :: '\r' :: before => before.reverse
  | '\n' :: before => before.reverse
  | _ => line

/-- Lines put together where quotes are open at their ends; none for the last one if its quotes are never
closed. -/
def gather (mode : LineMode) (before : List Char) : List (List Char) → List (Option (List Char))
  | [] => if mode = .plain then [] else [none]
  | line :: rest =>
    let whole := before ++ line
    if (whole.dropWhile Text.isWhiteSpace).head? == some '#' then some [] :: gather .plain [] rest
    else
      match scan mode line with
      | (kept, none) => some (before ++ kept) :: gather .plain [] rest
      | (_, some .plain) => some (withoutEnd whole) :: gather .plain [] rest
      | (_, some mode) => gather mode whole rest

/-! ### Values -/

structure Value where
  /-- The characters of the value, from the last to the first. -/
  read : List Char := []
  quote : Option Char := none
  escaped : Bool := false
  /-- Whether only a comment can follow. -/
  ended : Bool := false
  /-- Whether the name of a variable is being read between braces, and the name from its last character
  to its first. -/
  reference : Option (Bool × List Char) := none

namespace Value

def push (v : Value) (cs : List Char) : Value := { v with read := cs.reverse ++ v.read }

/-- The value with the value of a variable added, whose name has been read from its last character to its
first. -/
def refer (vars : Variables) (v : Value) (name : List Char) : Value :=
  { v.push ((vars.lookup (String.ofList name.reverse)).getD "").toList with reference := none }

/-- Reads a character of the name of a variable. -/
def stepReference (vars : Variables) (v : Value) (braced : Bool) (name : List Char) (c : Char) :
    Value :=
  if Unicode.isAlphabetic c || Unicode.isNumeric c then { v with reference := some (braced, c :: name) }
  else if braced then
    if c == '\x7d' then v.refer vars name else { v with reference := some (braced, c :: name) }
  else if c == '\x7b' && name.isEmpty then { v with reference := some (true, []) }
  else
    let v := v.refer vars name
    if c == '$' then { v with reference := some (false, []) } else v.push [c]

/-- Reads a character that is not part of the name of a variable. -/
def stepPlain (v : Value) (c : Char) : Value :=
  if c == '$' then { v with reference := some (false, []) }
  else if c == '\\' then { v with escaped := true }
  else if v.quote == some '"' then if c == '"' then { v with quote := none } else v.push [c]
  else if c == '"' || c == '\'' then { v with quote := some c }
  else if isBlank c then { v with ended := true }
  else v.push [c]

/-- Reads a character; none if it cannot stand there. -/
def step? (vars : Variables) (v : Value) (c : Char) : Option Value :=
  if v.ended then if isBlank c then some v else none
  else if v.escaped then
    let v := { v with escaped := false }
    if c ∈ ['\\', '\'', '"', '$', ' '] then some (v.push [c])
    else if c == 'n' then some (v.push ['\n'])
    else none
  else if v.quote == some '\'' then
    some (if c == '\'' then { v with quote := none } else v.push [c])
  else
    match v.reference with
    | some (braced, name) => some (v.stepReference vars braced name c)
    | none => some (v.stepPlain c)

/-- The whole value; none if quotes or braces are open. -/
def finish? (vars : Variables) (v : Value) : Option String :=
  match v.quote, v.reference with
  | none, none => some (String.ofList v.read.reverse)
  | none, some (false, name) => some (String.ofList (v.refer vars name).read.reverse)
  | _, _ => none

def readRest (vars : Variables) (v : Value) : List Char → Option String
  | [] => v.finish? vars
  | c :: rest =>
    if v.ended && c == '#' then v.finish? vars
    else (v.step? vars c).bind fun v => readRest vars v rest

end Value

/-! ### Variables -/

/-- The name of a variable at the front of a text. -/
def name? : Reader String := fun cs =>
  match cs with
  | c :: _ =>
    if c.isAlpha || c == '_' then
      let name := cs.takeWhile fun c => c.isAlphanum || c == '_' || c == '.'
      some (String.ofList name, cs.drop name.length)
    else none
  | [] => none

/-- The text behind an equals sign and white space. -/
def behindSign? (cs : List Char) : Option (List Char) :=
  match cs.dropWhile Text.isWhiteSpace with
  | '=' :: rest => some (rest.dropWhile Text.isWhiteSpace)
  | _ => none

/-- The name at the front of a line and the text of its value. The word that marks a variable for export
may stand in front, or be the name itself. -/
def nameAndValue? : Reader String := fun cs => do
  let (name, rest) ← name? cs
  match behindSign? rest with
  | some rest => return (name, rest)
  | none =>
    if name != "export" then none
    let (name, rest) ← name? (rest.dropWhile Text.isWhiteSpace)
    let rest ← behindSign? rest
    return (name, rest)

/-- The variable of a line: none inside if the line sets nothing, and none outside if it is
malformed. -/
def ofLine? (vars : Variables) (line : List Char) : Option (Option (String × String)) :=
  let cs := (dropTrailing Text.isWhiteSpace line).dropWhile Text.isWhiteSpace
  match cs with
  | [] | '#' :: _ => some none
  | cs => do
    let (name, rest) ← nameAndValue? cs
    match rest with
    | [] | '#' :: _ => return some (name, "")
    | rest => (Value.readRest vars {} rest).map fun value => some (name, value)

/-- The variables with those of some lines added, up to the first malformed line. -/
def addLines (vars : Variables) : List (Option (List Char)) → Variables
  | [] => vars
  | none :: _ => vars
  | some line :: rest =>
    match ofLine? vars line with
    | none => vars
    | some none => addLines vars rest
    | some (some (name, value)) =>
      addLines (if (vars.lookup name).isSome then vars else vars ++ [(name, value)]) rest

end VariableFile

def Variables.withFile (vars : Variables) (text : String) : Variables :=
  VariableFile.addLines vars
    (VariableFile.gather .plain [] (VariableFile.endedLines (withoutMark text.toList)))

end FilterQuery.Config
