import FilterQuery.Json.Basic
import FilterQuery.Decimal.Layout

/-!
# The text of JSON values

Two printers: `compact` writes no white space at all, `pretty` a line for each item and member with
two blanks for each level. Members come in the order in which the value holds them.
-/

namespace FilterQuery

/-- Floats are written positionally from `0.00001` to fifteen zeros, and always with a point or an
exponent, so that no float reads as a whole number. -/
def Number.layout : Decimal.Layout := ⟨-5, 15, true⟩

def Number.text : Number → String
  | .int n => toString n.toInt
  | .large n _ => toString n.toNat
  | .float x _ => Number.layout.write x

namespace Json

/-- The two lower hexadecimal digits of a number below 256. -/
def hexByte (n : Nat) : List Char := [Nat.digitChar (n / 16 % 16), Nat.digitChar (n % 16)]

/-- A character inside a string: only quotes, backslashes and control characters are escaped. -/
def escape (c : Char) : List Char :=
  match c with
  | '"' => ['\\', '"']
  | '\\' => ['\\', '\\']
  | '\n' => ['\\', 'n']
  | '\r' => ['\\', 'r']
  | '\t' => ['\\', 't']
  | '\x08' => ['\\', 'b']
  | '\x0c' => ['\\', 'f']
  | c => if c.toNat < 0x20 then '\\' :: 'u' :: '0' :: '0' :: hexByte c.toNat else [c]

def quoted (s : String) : String := String.ofList ('"' :: s.toList.flatMap escape ++ ['"'])

mutual

def compact : Json → String
  | .null => "null"
  | .bool true => "true"
  | .bool false => "false"
  | .number n => n.text
  | .string s => quoted s
  | .array items => "[" ++ compactItems items ++ "]"
  | .object members => "\x7b" ++ compactMembers members ++ "\x7d"

def compactItems : List Json → String
  | [] => ""
  | [item] => compact item
  | item :: rest => compact item ++ "," ++ compactItems rest

def compactMembers : List (String × Json) → String
  | [] => ""
  | [(k, v)] => quoted k ++ ":" ++ compact v
  | (k, v) :: rest => quoted k ++ ":" ++ compact v ++ "," ++ compactMembers rest

end

def newLine (level : Nat) : String := String.ofList ('\n' :: List.replicate (2 * level) ' ')

mutual

/-- The text with one line for each item and member, at a level of nesting. -/
def prettyAt (level : Nat) : Json → String
  | .array (item :: rest) =>
    "[" ++ prettyItems (level + 1) (item :: rest) ++ newLine level ++ "]"
  | .object (member :: rest) =>
    "\x7b" ++ prettyMembers (level + 1) (member :: rest) ++ newLine level ++ "\x7d"
  | .null => "null"
  | .bool true => "true"
  | .bool false => "false"
  | .number n => n.text
  | .string s => quoted s
  | .array [] => "[]"
  | .object [] => "\x7b\x7d"

def prettyItems (level : Nat) : List Json → String
  | [] => ""
  | [item] => newLine level ++ prettyAt level item
  | item :: rest => newLine level ++ prettyAt level item ++ "," ++ prettyItems level rest

def prettyMembers (level : Nat) : List (String × Json) → String
  | [] => ""
  | [(k, v)] => newLine level ++ quoted k ++ ": " ++ prettyAt level v
  | (k, v) :: rest =>
    newLine level ++ quoted k ++ ": " ++ prettyAt level v ++ "," ++ prettyMembers level rest

end

def pretty (v : Json) : String := prettyAt 0 v

end Json

end FilterQuery
