import FilterQuery.Config.Lexeme
import FilterQuery.Unicode.Property

/-!
# Configuration in JSON5

JSON with comments, with names in place of quoted keys, with either kind of quotes, with a comma behind the
last member, and with more ways to write a number.
-/

namespace FilterQuery.Config.JsonFive

/-- Where in the blank part of a text a reader is. -/
inductive BlankMode where
  | plain
  | lineComment
  | blockComment

def endsLine (c : Char) : Bool := c ∈ ['\n', '\r', '\u2028', '\u2029']

def isSpace (c : Char) : Bool := Text.isWhiteSpace c && c != '\u0085' || c == '\ufeff'

/-- The text without white space and comments in front. -/
def skipSpace : BlankMode → List Char → List Char
  | _, [] => []
  | .plain, '/' :: '/' :: rest => skipSpace .lineComment rest
  | .plain, '/' :: '*' :: rest => skipSpace .blockComment rest
  | .blockComment, '*' :: '/' :: rest => skipSpace .plain rest
  | .plain, c :: rest => if isSpace c then skipSpace .plain rest else c :: rest
  | .lineComment, c :: rest => skipSpace (if endsLine c then .plain else .lineComment) rest
  | .blockComment, _ :: rest => skipSpace .blockComment rest

def skip (cs : List Char) : List Char := skipSpace .plain cs

/-! ### Texts -/

/-- The character that an escape stands for; none inside if it stands for nothing. -/
def escape : Reader (Option Char)
  | 'b' :: rest => some (some '\x08', rest)
  | 'f' :: rest => some (some '\x0c', rest)
  | 'n' :: rest => some (some '\n', rest)
  | 'r' :: rest => some (some '\r', rest)
  | 't' :: rest => some (some '\t', rest)
  | 'v' :: rest => some (some '\x0b', rest)
  | '0' :: rest => some (some '\x00', rest)
  | 'x' :: rest => (codeEscape 2 rest).map fun (c, rest) => (some c, rest)
  | 'u' :: rest =>
    match codeEscape 4 rest with
    | some (c, rest) => some (some c, rest)
    | none =>
      match radixValue? 16 (rest.take 4), rest.drop 4 with
      | some high, '\\' :: 'u' :: low =>
        (radixValue? 16 (low.take 4)).bind fun n =>
          if 0xD800 ≤ high && high < 0xDC00 && 0xDC00 ≤ n && n < 0xE000 then
            (charOf? (0x10000 + (high - 0xD800) * 0x400 + (n - 0xDC00))).map fun c =>
              (some c, low.drop 4)
          else none
      | _, _ => none
  | '\r' :: '\n' :: rest => some (none, rest)
  | c :: rest => some (if endsLine c then none else some c, rest)
  | [] => none

/-- The rest of a text up to its closing quote. -/
def textRest (quote : Char) : Nat → List Char → Reader String
  | 0, _, _ => none
  | _, _, [] => none
  | fuel + 1, read, c :: rest =>
    if c == quote then some (String.ofList read.reverse, rest)
    else if c == '\\' then
      (escape rest).bind fun (c, rest) => textRest quote fuel (c.toList ++ read) rest
    else if c == '\n' || c == '\r' then none
    else textRest quote fuel (c :: read) rest

def text? : Reader String := fun cs =>
  match cs with
  | '"' :: rest => textRest '"' (rest.length + 1) [] rest
  | '\'' :: rest => textRest '\'' (rest.length + 1) [] rest
  | _ => none

/-- The name of a member: between quotes, or a word. -/
def name? : Reader String := fun cs =>
  match text? cs with
  | some read => some read
  | none =>
    let word := cs.takeWhile fun c => Unicode.isWord c || c == '$'
    match word with
    | [] => none
    | c :: _ => if Unicode.isDigit c then none else some (String.ofList word, cs.drop word.length)

/-! ### Values -/

def unsigned? (cs : List Char) : Option (Int ⊕ Float) :=
  match cs with
  | '0' :: x :: digits =>
    if x == 'x' || x == 'X' then (radixValue? 16 digits).map fun n => .inl n
    else if x.isDigit then none
    else (Decimal.floatOf? cs).map .inr
  | cs =>
    match String.ofList cs with
    | "Infinity" => some (.inr (1.0 / 0.0))
    | "NaN" => some (.inr (0.0 / 0.0))
    | _ =>
      match Decimal.digitsOf? cs with
      | some ds => some (.inl (Decimal.natural ds))
      | none => (Decimal.floatOf? cs).map .inr

def number? (cs : List Char) : Option Datum :=
  let (negative, cs) := Decimal.signOf cs
  match unsigned? cs with
  | some (.inl n) => Datum.int? (if negative then -n else n)
  | some (.inr x) => some (.float (if negative then -x else x))
  | none => none

def word? : Reader Datum := fun cs =>
  let word := cs.takeWhile fun c => c.isAlphanum || c == '+' || c == '-' || c == '.'
  let value := match String.ofList word with
    | "null" => some Datum.unit
    | "true" => some (.bool true)
    | "false" => some (.bool false)
    | _ => number? word
  value.map fun v => (v, cs.drop word.length)

mutual

def value : Nat → Reader Datum
  | 0, _ => none
  | fuel + 1, cs =>
    match skip cs with
    | '[' :: rest => (items fuel rest).map fun (xs, rest) => (.list xs, rest)
    | '\x7b' :: rest => (members fuel rest).map fun (es, rest) => (Datum.ofEntries es, rest)
    | cs =>
      match text? cs with
      | some (s, rest) => some (.text s, rest)
      | none => word? cs

def items : Nat → Reader (List Datum)
  | 0, _ => none
  | fuel + 1, cs =>
    match skip cs with
    | ']' :: rest => some ([], rest)
    | cs => do
      let (v, rest) ← value fuel cs
      match skip rest with
      | ',' :: rest =>
        let (vs, rest) ← items fuel rest
        return (v :: vs, rest)
      | ']' :: rest => return ([v], rest)
      | _ => none

def members : Nat → Reader (List (String × Datum))
  | 0, _ => none
  | fuel + 1, cs =>
    match skip cs with
    | '\x7d' :: rest => some ([], rest)
    | cs => do
      let (name, rest) ← name? cs
      match skip rest with
      | ':' :: rest =>
        let (v, rest) ← value fuel rest
        match skip rest with
        | ',' :: rest =>
          let (es, rest) ← members fuel rest
          return ((name, v) :: es, rest)
        | '\x7d' :: rest => return ([(name, v)], rest)
        | _ => none
      | _ => none

end

/-- What a text says; none if it is malformed. -/
def read (text : String) : Option Datum := do
  let cs := text.toList
  let (v, rest) ← value (cs.length + 2) cs
  if (skip rest).isEmpty then some v else none

end FilterQuery.Config.JsonFive
