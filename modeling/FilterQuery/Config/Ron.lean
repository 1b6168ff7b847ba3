import FilterQuery.Config.Lexeme

/-!
# Configuration in RON

Records between parentheses with named fields, maps between braces, lists between brackets, and values
that may be wrapped to say that they are there.
-/

namespace FilterQuery.Config.Ron

/-- The text without white space and comments in front; `depth` counts open block comments. -/
def skipSpace (depth : Nat) (inLine : Bool) : List Char → List Char
  | [] => []
  | '/' :: '*' :: rest =>
    if inLine then skipSpace depth true rest else skipSpace (depth + 1) false rest
  | '*' :: '/' :: rest =>
    if inLine then skipSpace depth true rest
    else if depth == 0 then '*' :: '/' :: rest
    else skipSpace (depth - 1) false rest
  | c :: rest =>
    if inLine then skipSpace depth (c != '\n') rest
    else if depth != 0 then skipSpace depth false rest
    else if Text.isWhiteSpace c then skipSpace 0 false rest
    else if c == '/' && rest.head? == some '/' then skipSpace 0 true rest
    else c :: rest

def skip (cs : List Char) : List Char := skipSpace 0 false cs

def escape : Reader Char
  | 'n' :: rest => some ('\n', rest)
  | 't' :: rest => some ('\t', rest)
  | 'r' :: rest => some ('\r', rest)
  | '0' :: rest => some ('\x00', rest)
  | '\'' :: rest => some ('\'', rest)
  | '"' :: rest => some ('"', rest)
  | '\\' :: rest => some ('\\', rest)
  | 'x' :: rest => codeEscape 2 rest
  | 'u' :: '\x7b' :: rest =>
    let digits := rest.takeWhile (· != '\x7d')
    ((radixValue? 16 digits).bind charOf?).map fun c => (c, rest.drop (digits.length + 1))
  | _ => none

/-- The rest of a text up to its closing quote. -/
def textRest : Nat → List Char → Reader String
  | 0, _, _ => none
  | _, _, [] => none
  | fuel + 1, read, c :: rest =>
    if c == '"' then some (String.ofList read.reverse, rest)
    else if c == '\\' then (escape rest).bind fun (c, rest) => textRest fuel (c :: read) rest
    else textRest fuel (c :: read) rest

/-- The rest of a text without escapes, which ends at a quote and as many hashes as it started with. -/
def rawRest (closing : List Char) : List Char → Reader String
  | _, [] => none
  | read, c :: rest =>
    if c == '"' && closing.isPrefixOf rest then
      some (String.ofList read.reverse, rest.drop closing.length)
    else rawRest closing (c :: read) rest

def text? : Reader String := fun cs =>
  match cs with
  | '"' :: rest => textRest (rest.length + 1) [] rest
  | '\'' :: '\\' :: rest =>
    match escape rest with
    | some (c, '\'' :: rest) => some (String.singleton c, rest)
    | _ => none
  | '\'' :: c :: '\'' :: rest => some (String.singleton c, rest)
  | 'r' :: rest =>
    let hashes := rest.takeWhile (· == '#')
    match rest.drop hashes.length with
    | '"' :: rest => rawRest hashes [] rest
    | _ => none
  | _ => none

def isWordChar (c : Char) : Bool := c.isAlphanum || c == '_'

def number? (cs : List Char) : Option Datum :=
  let (negative, digits) := Decimal.signOf (cs.filter (· != '_'))
  let signed (n : Int) : Int := if negative then -n else n
  match prefixedValue? digits, Decimal.digitsOf? digits with
  | some n, _ => Datum.int? (signed n)
  | none, some ds => Datum.int? (signed (Decimal.natural ds))
  | none, none =>
    let size := match String.ofList digits with
      | "inf" => some (1.0 / 0.0)
      | "NaN" => some (0.0 / 0.0)
      | _ => Decimal.floatOf? digits
    size.map fun x => .float (if negative then -x else x)

/-- The name of a field, and what follows its colon. -/
def field? : Reader String := fun cs =>
  match cs.takeWhile isWordChar with
  | [] => none
  | name =>
    match skip (cs.drop name.length) with
    | ':' :: rest => some (String.ofList name, rest)
    | _ => none

mutual

def value : Nat → Reader Datum
  | 0, _ => none
  | fuel + 1, cs =>
    let cs := skip cs
    match cs with
    | '[' :: rest => (items ']' fuel rest).map fun (xs, rest) => (.list xs, rest)
    | '\x7b' :: rest => (entries fuel rest).map fun (es, rest) => (Datum.ofEntries es, rest)
    | '(' :: rest => group fuel rest
    | _ =>
      match text? cs with
      | some (s, rest) => some (.text s, rest)
      | none =>
        let word := cs.takeWhile fun c => isWordChar c || c ∈ ['+', '-', '.']
        let rest := cs.drop word.length
        match String.ofList word, skip rest with
        | "true", _ => some (.bool true, rest)
        | "false", _ => some (.bool false, rest)
        | "None", _ => some (.unit, rest)
        | "Some", '(' :: inner =>
          match items ')' fuel inner with
          | some ([v], rest) => some (v, rest)
          | _ => none
        | name, behind =>
          match number? word, behind with
          | some n, _ => some (n, rest)
          | none, '(' :: inner => if name == "" then none else group fuel inner
          | none, _ => if name == "" then none else some (.unit, rest)

def group : Nat → Reader Datum
  | 0, _ => none
  | fuel + 1, cs =>
    match skip cs with
    | ')' :: rest => some (.unit, rest)
    | cs =>
      if (field? cs).isSome then
        (fields fuel cs).map fun (es, rest) => (Datum.ofEntries es, rest)
      else (items ')' fuel cs).map fun (xs, rest) => (.list xs, rest)

def items (closing : Char) : Nat → Reader (List Datum)
  | 0, _ => none
  | fuel + 1, cs =>
    match skip cs with
    | [] => none
    | c :: rest =>
      if c == closing then some ([], rest)
      else do
        let (v, rest) ← value fuel (c :: rest)
        match skip rest with
        | ',' :: rest =>
          let (vs, rest) ← items closing fuel rest
          return (v :: vs, rest)
        | d :: rest => if d == closing then return ([v], rest) else none
        | [] => none

def fields : Nat → Reader (List (String × Datum))
  | 0, _ => none
  | fuel + 1, cs =>
    match skip cs with
    | ')' :: rest => some ([], rest)
    | cs => do
      let (name, rest) ← field? cs
      let (v, rest) ← value fuel rest
      match skip rest with
      | ',' :: rest =>
        let (es, rest) ← fields fuel rest
        return ((name, v) :: es, rest)
      | ')' :: rest => return ([(name, v)], rest)
      | _ => none

def entries : Nat → Reader (List (String × Datum))
  | 0, _ => none
  | fuel + 1, cs =>
    match skip cs with
    | '\x7d' :: rest => some ([], rest)
    | cs => do
      let (key, rest) ← text? cs
      match skip rest with
      | ':' :: rest =>
        let (v, rest) ← value fuel rest
        match skip rest with
        | ',' :: rest =>
          let (es, rest) ← entries fuel rest
          return ((key, v) :: es, rest)
        | '\x7d' :: rest => return ([(key, v)], rest)
        | _ => none
      | _ => none

end

/-- The text behind the switches that a file may start with. -/
def skipSwitches (cs : List Char) : List Char :=
  match skip cs with
  | '#' :: '!' :: rest => (rest.dropWhile (· != ']')).drop 1
  | cs => cs

/-- What a text says; none if it is malformed. -/
def read (text : String) : Option Datum := do
  let cs := skipSwitches text.toList
  let (v, rest) ← value (2 * cs.length + 2) cs
  if (skip rest).isEmpty then some v else none

end FilterQuery.Config.Ron
