import FilterQuery.Config.Lexeme

/-!
# Configuration in INI

Lines with a key and a value, under the names of sections. All values are texts; parts of a value may
stand between quotes, and a backslash takes the meaning from the character behind it or gives it one.
-/

namespace FilterQuery.Config.Ini

/-- The text that is left of a line: neither blank at its ends nor a comment. -/
def content (line : List Char) : List Char :=
  match dropTrailing Text.isWhiteSpace (line.dropWhile Text.isWhiteSpace) with
  | ';' :: _ | '#' :: _ => []
  | cs => cs

def escape : Reader Char
  | '0' :: rest => some ('\x00', rest)
  | 'a' :: rest => some ('\x07', rest)
  | 'b' :: rest => some ('\x08', rest)
  | 't' :: rest => some ('\t', rest)
  | 'r' :: rest => some ('\r', rest)
  | 'n' :: rest => some ('\n', rest)
  | 'x' :: rest => codeEscape 4 rest
  | c :: rest => some (c, rest)
  | [] => none

/-- The characters of a text up to a closing character or to the end, and what follows. -/
def plain (closing : Option Char) : Nat → List Char → Reader (List Char)
  | 0, _, _ => none
  | _, read, [] => if closing.isNone then some (read.reverse, []) else none
  | fuel + 1, read, c :: rest =>
    if closing == some c then some (read.reverse, rest)
    else if c == '\\' then
      (escape rest).bind fun (c, rest) => plain closing fuel (c :: read) rest
    else plain closing fuel (c :: read) rest

/-- A value: parts between quotes, and the rest of the line. -/
def value : Nat → Bool → List Char → Option (List Char)
  | 0, _, _ => none
  | fuel + 1, first, c :: rest =>
    if c == '"' || c == '\'' then do
      let (part, rest) ← plain (some c) (rest.length + 1) [] rest
      let others ← value fuel false rest
      return part ++ others
    else do
      let (cs, _) ← plain none (rest.length + 2) [] (c :: rest)
      return dropTrailing Text.isWhiteSpace (if first then cs.dropWhile Text.isWhiteSpace else cs)
  | _, _, [] => some []

inductive Line where
  | nothing
  | heading (name : String)
  | entry (key value : String)

def readLine (line : List Char) : Option Line :=
  match content line with
  | [] => some .nothing
  | '[' :: rest =>
    let name := rest.takeWhile (· != ']')
    if (rest.drop name.length).isEmpty then none
    else some (.heading (Text.trim (String.ofList name)))
  | cs => do
    let key := cs.takeWhile fun c => c != '=' && c != ':'
    match cs.drop key.length with
    | _ :: rest =>
      let rest := rest.dropWhile Text.isWhiteSpace
      let v ← value (rest.length + 1) true rest
      return .entry (Text.trim (String.ofList key)) (String.ofList v)
    | [] => none

/-- The table with an entry set, within a section if one is open. -/
def setIn (name : Option String) (key : String) (value : Datum) (table : List (String × Datum)) :
    List (String × Datum) :=
  match name with
  | none => Datum.setEntry key value table
  | some name =>
    let entries := match table.lookup name with
      | some (.table es) => es
      | _ => []
    Datum.setEntry name (.table (Datum.setEntry key value entries)) table

/-- The entries of the lines of a file; those behind the name of a section make up a table. A section
that is opened again starts anew. -/
def readLines (name : Option String) (table : List (String × Datum)) :
    List (List Char) → Option (List (String × Datum))
  | [] => some table
  | line :: rest => do
    match ← readLine line with
    | .nothing => readLines name table rest
    | .heading name => readLines (some name) (Datum.setEntry name (.table []) table) rest
    | .entry key v => readLines name (setIn name key (.text v) table) rest

/-- What a text says; none if it is malformed. -/
def read (text : String) : Option Datum :=
  (readLines none [] (splitAt '\n' (unixLines text.toList))).map .table

end FilterQuery.Config.Ini
