import FilterQuery.Unicode.Property

/-!
# Text between quotes

A text as messages show it: between double quotes, and with an escape for every character that would
not show, or would change the look of its neighbour.
-/

namespace FilterQuery.Text

def numericEscape (c : Char) : List Char :=
  '\\' :: 'u' :: '\x7b' :: Nat.toDigits 16 c.toNat ++ ['\x7d']

def quotedChar (c : Char) : List Char :=
  match c with
  | '\x00' => ['\\', '0']
  | '\t' => ['\\', 't']
  | '\r' => ['\\', 'r']
  | '\n' => ['\\', 'n']
  | '\\' => ['\\', '\\']
  | '"' => ['\\', '"']
  | c => if Unicode.isExtending c || !Unicode.isPrintable c then numericEscape c else [c]

def quoted (s : String) : String := String.ofList ('"' :: s.toList.flatMap quotedChar ++ ['"'])

end FilterQuery.Text
