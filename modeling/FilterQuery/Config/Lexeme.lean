import FilterQuery.Config.Datum
import FilterQuery.Decimal.Numeral
import FilterQuery.Text.Blank

/-!
# What the notations share

Line ends, blanks, numbers in other bases and characters by their numbers. A reader takes characters off
the front of a text and returns what is left.
-/

namespace FilterQuery.Config

abbrev Reader (α : Type) := List Char → Option (α × List Char)

/-- The text without a byte order mark in front. -/
def withoutMark (cs : List Char) : List Char :=
  match cs with
  | '\ufeff' :: rest => rest
  | cs => cs

/-- The text with every line ended by a line feed alone. -/
def unixLines : List Char → List Char
  | [] => []
  | '\r' :: '\n' :: rest => '\n' :: unixLines rest
  | c :: rest => c :: unixLines rest

def isBlank (c : Char) : Bool := c == ' ' || c == '\t'

def skipBlanks (cs : List Char) : List Char := cs.dropWhile isBlank

def dropTrailing (p : Char → Bool) (cs : List Char) : List Char := (cs.reverse.dropWhile p).reverse

/-- The value of a digit in the bases up to sixteen. -/
def digitValue? (c : Char) : Option Nat :=
  if c.isDigit then some (c.toNat - '0'.toNat)
  else if 'a' ≤ c && c ≤ 'f' then some (c.toNat - 'a'.toNat + 10)
  else if 'A' ≤ c && c ≤ 'F' then some (c.toNat - 'A'.toNat + 10)
  else none

def radixValue? (base : Nat) (cs : List Char) : Option Nat :=
  if cs.isEmpty then none
  else cs.foldlM (fun n c => (digitValue? c).bind fun d =>
    if d < base then some (base * n + d) else none) 0

/-- The number behind a prefix that names its base. -/
def prefixedValue? : List Char → Option Nat
  | '0' :: 'x' :: ds => radixValue? 16 ds
  | '0' :: 'o' :: ds => radixValue? 8 ds
  | '0' :: 'b' :: ds => radixValue? 2 ds
  | _ => none

def charOf? (n : Nat) : Option Char := if h : n.isValidChar then some (Char.ofNatAux n h) else none

/-- A character by a number of hexadecimal digits at the front of a text. -/
def codeEscape (digits : Nat) : Reader Char := fun cs =>
  if cs.length < digits then none
  else ((radixValue? 16 (cs.take digits)).bind charOf?).map fun c => (c, cs.drop digits)

def splitAt (separator : Char) (cs : List Char) : List (List Char) := cs.splitOn separator

/-- What a float may be called that has no digits, in lower case. -/
def namedFloat? (s : String) : Option Float :=
  match s with
  | "nan" | "+nan" | "-nan" => some (0.0 / 0.0)
  | "inf" | "+inf" | "infinity" | "+infinity" => some (1.0 / 0.0)
  | "-inf" | "-infinity" => some (-1.0 / 0.0)
  | _ => none

def float? (cs : List Char) : Option Float :=
  (Decimal.floatOf? cs).or (namedFloat? (Text.asciiLower (String.ofList cs)))

def integer? (cs : List Char) : Option Int := (Decimal.integerOf? cs).filter fun n => Datum.isStorable n

end FilterQuery.Config
