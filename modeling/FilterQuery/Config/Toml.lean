import FilterQuery.Config.Lexeme

/-!
# Configuration in TOML

Lines with keys and values, gathered under the headers of tables. Keys may lead through tables, tables may
be repeated as the items of a list, and a list may go over several lines. A point in time is a text, in
one spelling.
-/

namespace FilterQuery.Config.Toml

/-- The text behind a line, if nothing but a comment is left of it. -/
def lineEnd? (cs : List Char) : Option (List Char) :=
  match skipBlanks cs with
  | [] => some []
  | '\n' :: rest => some rest
  | '#' :: rest => some ((rest.dropWhile (· != '\n')).drop 1)
  | _ => none

/-- The text without blanks, line ends and comments in front. -/
def skipLayout (comment : Bool) : List Char → List Char
  | [] => []
  | '\n' :: rest => skipLayout false rest
  | c :: rest =>
    if comment || c == '#' then skipLayout true rest
    else if isBlank c then skipLayout false rest
    else c :: rest

/-! ### Texts -/

def escape : Reader Char
  | 'b' :: rest => some ('\x08', rest)
  | 't' :: rest => some ('\t', rest)
  | 'n' :: rest => some ('\n', rest)
  | 'f' :: rest => some ('\x0c', rest)
  | 'r' :: rest => some ('\r', rest)
  | '"' :: rest => some ('"', rest)
  | '\\' :: rest => some ('\\', rest)
  | 'u' :: rest => codeEscape 4 rest
  | 'U' :: rest => codeEscape 8 rest
  | _ => none

/-- The rest of a text on one line, up to its closing quote. -/
def lineText (quote : Char) : Nat → List Char → Reader String
  | 0, _, _ => none
  | _, _, [] => none
  | fuel + 1, read, c :: rest =>
    if c == quote then some (String.ofList read.reverse, rest)
    else if c == '\n' then none
    else if c == '\\' && quote == '"' then
      (escape rest).bind fun (c, rest) => lineText quote fuel (c :: read) rest
    else lineText quote fuel (c :: read) rest

/-- The rest of a text between threefold quotes. Up to two quotes may stand before the closing ones. -/
def longText (quote : Char) : Nat → List Char → Reader String
  | 0, _, _ => none
  | _, _, [] => none
  | fuel + 1, read, c :: rest =>
    if c == quote then
      let more := rest.takeWhile (· == quote)
      let behind := rest.drop more.length
      if more.length < 2 then longText quote fuel (c :: more ++ read) behind
      else if more.length ≤ 4 then some (String.ofList (more.drop 2 ++ read).reverse, behind)
      else none
    else if c == '\\' && quote == '"' then
      match skipBlanks rest with
      | '\n' :: next => longText quote fuel read (next.dropWhile fun c => isBlank c || c == '\n')
      | _ => (escape rest).bind fun (c, rest) => longText quote fuel (c :: read) rest
    else longText quote fuel (c :: read) rest

def text? : Reader String := fun cs =>
  let withoutFirstEnd (cs : List Char) : List Char :=
    match cs with
    | '\n' :: rest => rest
    | cs => cs
  match cs with
  | '"' :: '"' :: '"' :: rest => longText '"' (rest.length + 1) [] (withoutFirstEnd rest)
  | '\'' :: '\'' :: '\'' :: rest => longText '\'' (rest.length + 1) [] (withoutFirstEnd rest)
  | '"' :: rest => lineText '"' (rest.length + 1) [] rest
  | '\'' :: rest => lineText '\'' (rest.length + 1) [] rest
  | _ => none

/-! ### Keys -/

def keyPart : Reader String := fun cs =>
  let bare := fun c : Char => c.isAlphanum || c == '_' || c == '-'
  match cs.takeWhile bare with
  | [] => text? cs
  | name => some (String.ofList name, cs.drop name.length)

/-- A key of one or several parts; `fuel` bounds their number. -/
def keyPath : Nat → Reader (List String)
  | 0, _ => none
  | fuel + 1, cs => do
    let (part, cs) ← keyPart (skipBlanks cs)
    match skipBlanks cs with
    | '.' :: rest =>
      let (parts, rest) ← keyPath fuel rest
      return (part :: parts, rest)
    | rest => return ([part], rest)

/-! ### Points in time -/

/-- Whether a text has digits where a pattern has zeros, and is the same otherwise. -/
def fits (pattern : String) (cs : List Char) : Bool :=
  let ps := pattern.toList
  ps.length == cs.length && (ps.zip cs).all fun (p, c) => if p == '0' then c.isDigit else p == c

def fraction (digits : List Char) : List Char :=
  match dropTrailing (· == '0') (digits.take 9) with
  | [] => []
  | ds => '.' :: ds

/-- The distance from the zero meridian's time. -/
def offset? : List Char → Option (List Char)
  | [] => some []
  | ['Z'] | ['z'] => some ['Z']
  | sign :: rest =>
    if (sign == '+' || sign == '-') && fits "00:00" rest then
      some ((if rest.all fun c => c == '0' || c == ':' then '+' else sign) :: rest)
    else none

def clock? : Reader (List Char) := fun cs =>
  if fits "00:00:00" (cs.take 8) then
    match cs.drop 8 with
    | '.' :: rest =>
      let digits := rest.takeWhile Char.isDigit
      some (cs.take 8 ++ fraction digits, rest.drop digits.length)
    | rest => some (cs.take 8, rest)
  else none

def startsDate (cs : List Char) : Bool := fits "0000-00-00" (cs.take 10)

def time? (cs : List Char) : Option String :=
  if startsDate cs then
    match cs.drop 10 with
    | [] => some (String.ofList cs)
    | mark :: rest => do
      if mark ∉ ['T', 't', ' '] then none
      let (clock, rest) ← clock? rest
      let offset ← offset? rest
      return String.ofList (cs.take 10 ++ 'T' :: clock ++ offset)
  else
    match clock? cs with
    | some (clock, []) => some (String.ofList clock)
    | _ => none

/-! ### Values -/

/-- A number. Underscores between its digits say nothing. -/
def number? (cs : List Char) : Option Datum :=
  let cs := cs.filter (· != '_')
  let name := String.ofList cs
  if name ∈ ["inf", "+inf", "-inf", "nan", "+nan", "-nan"] then (namedFloat? name).map .float
  else
    match prefixedValue? cs, Decimal.integerOf? cs with
    | some n, _ => Datum.int? n
    | none, some n => Datum.int? n
    | none, none => (Decimal.floatOf? cs).map .float

/-- The characters of a value without quotes or brackets. A date goes on behind a space if digits
follow. -/
def plainWord (cs : List Char) : List Char × List Char :=
  let plain := fun c : Char => c.isAlphanum || c ∈ ['+', '-', '.', '_', ':']
  let word := cs.takeWhile plain
  let rest := cs.drop word.length
  match rest with
  | ' ' :: d :: _ =>
    if word.length == 10 && startsDate word && d.isDigit then
      let clock := (rest.drop 1).takeWhile plain
      (word ++ ' ' :: clock, rest.drop (clock.length + 1))
    else (word, rest)
  | _ => (word, rest)

def plain? : Reader Datum := fun cs =>
  let (word, rest) := plainWord cs
  let value := match String.ofList word with
    | "true" => some (Datum.bool true)
    | "false" => some (Datum.bool false)
    | _ => ((time? word).map Datum.text).or (number? word)
  value.map fun v => (v, rest)

/-- A piece of data with what a path leads to changed. Tables are made on the way, and a list of tables is
entered at its last one. -/
def extend (f : Option Datum → Option Datum) : List String → Option Datum → Option Datum
  | [], d => f d
  | key :: rest, d => do
    let (entries, rebuilt) ← match d with
      | none => some ([], Datum.table)
      | some (.table es) => some (es, Datum.table)
      | some (.list items) =>
        match items.getLast? with
        | some (.table es) => some (es, fun es => Datum.list (items.dropLast ++ [.table es]))
        | _ => none
      | some (.scalar _) => none
    let value ← extend f rest (entries.lookup key)
    return rebuilt (Datum.setEntry key value entries)

def fresh (value : Datum) : Option Datum → Option Datum
  | none => some value
  | some _ => none

mutual

def value : Nat → Reader Datum
  | 0, _ => none
  | fuel + 1, cs =>
    match skipBlanks cs with
    | '[' :: rest => (items fuel rest).map fun (xs, rest) => (.list xs, rest)
    | '\x7b' :: rest => entries fuel (.table []) rest
    | cs =>
      match text? cs with
      | some (s, rest) => some (.text s, rest)
      | none => plain? cs

def items : Nat → Reader (List Datum)
  | 0, _ => none
  | fuel + 1, cs =>
    match skipLayout false cs with
    | ']' :: rest => some ([], rest)
    | cs => do
      let (v, rest) ← value fuel cs
      match skipLayout false rest with
      | ',' :: rest =>
        let (vs, rest) ← items fuel rest
        return (v :: vs, rest)
      | ']' :: rest => return ([v], rest)
      | _ => none

def entries : Nat → Datum → Reader Datum
  | 0, _, _ => none
  | fuel + 1, table, cs =>
    match skipLayout false cs with
    | '\x7d' :: rest => some (table, rest)
    | cs => do
      let (path, rest) ← keyPath fuel cs
      match rest with
      | '=' :: rest =>
        let (v, rest) ← value fuel rest
        let table ← extend (fresh v) path (some table)
        match skipLayout false rest with
        | ',' :: rest => entries fuel table rest
        | '\x7d' :: rest => return (table, rest)
        | _ => none
      | _ => none

end

/-! ### Tables -/

def opened : Option Datum → Option Datum
  | none => some (.table [])
  | some (.table es) => some (.table es)
  | some _ => none

/-- The list of tables to which a header adds one. -/
def lengthened : Option Datum → Option Datum
  | none => some (.list [.table []])
  | some (.list items) => some (.list (items ++ [.table []]))
  | some _ => none

/-- The header of a table: whether it is an item of a list, its path, and the text behind the line. -/
def header (fuel : Nat) : Reader (Bool × List String) := fun cs =>
  match cs with
  | '[' :: rest => do
    let (path, rest) ← keyPath fuel rest
    match rest with
    | ']' :: ']' :: rest => (lineEnd? rest).map fun rest => ((true, path), rest)
    | _ => none
  | cs => do
    let (path, rest) ← keyPath fuel cs
    match rest with
    | ']' :: rest => (lineEnd? rest).map fun rest => ((false, path), rest)
    | _ => none

/-- Reads lines into the table at the path `under` of a root. -/
def lines : Nat → List String → Datum → List Char → Option Datum
  | 0, _, _, _ => none
  | fuel + 1, under, root, cs =>
    match skipLayout false cs with
    | [] => some root
    | '[' :: rest => do
      let ((repeated, path), rest) ← header fuel rest
      let root ← extend (if repeated then lengthened else opened) path (some root)
      lines fuel path root rest
    | cs => do
      let (path, rest) ← keyPath fuel cs
      match rest with
      | '=' :: rest =>
        let (v, rest) ← value fuel rest
        let rest ← lineEnd? rest
        let root ← extend (fresh v) (under ++ path) (some root)
        lines fuel under root rest
      | _ => none

/-- What a text says; none if it is malformed. -/
def read (text : String) : Option Datum :=
  let cs := unixLines text.toList
  lines (cs.length + 2) [] (.table []) cs

end FilterQuery.Config.Toml
