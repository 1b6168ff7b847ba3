import FilterQuery.Regex.Syntax
import FilterQuery.Unicode.CaseFold

/-!
# Sizes

Two automata are built for an expression, one that goes through a text forwards and one that goes
through it backwards. A state takes 32 bytes, a way out of a state that has several ones 8 more, and a
branch 4 more. Characters beyond ASCII are several bytes, and those of a class share states where they
can, forwards more than backwards.

The sizes of classes are those of the classes that have a letter of their own, and of the dot. A class
in brackets counts with the largest of its parts, and a property with the least that a class takes.
-/

namespace FilterQuery.Regex

/-- How many bytes something takes in each of the two automata. -/
structure Size where
  forward : Nat
  backward : Nat
deriving DecidableEq, Repr

namespace Size

/-- The same size in both. -/
def both (n : Nat) : Size := ⟨n, n⟩

instance : Add Size := ⟨fun a b => ⟨a.forward + b.forward, a.backward + b.backward⟩⟩

instance : Max Size := ⟨fun a b => ⟨max a.forward b.forward, max a.backward b.backward⟩⟩

def scale (n : Nat) (s : Size) : Size := ⟨n * s.forward, n * s.backward⟩

def state : Size := both 32

/-- A state that has two branches. -/
def fork : Size := both 40

/-- A class of ASCII characters, by the number of stretches in it. -/
def asciiClass (stretches : Nat) : Size := both (64 + 8 * stretches)

/-- A class of all characters but some stretches of ASCII. -/
def allBut (stretches : Nat) : Size := ⟨416 + 8 * stretches, 964 + 36 * stretches⟩

/-- A character that is looked for as it is. -/
def ofChar (c : Char) : Size := scale c.utf8Size state

/-- A class of single characters. -/
def ofChars (cs : List Char) : Size :=
  let bytes := cs.foldl (fun n c => n + c.utf8Size) 0
  if bytes = cs.length then asciiClass cs.length
  else ⟨64 + 8 * cs.length + 40 * (bytes - cs.length), 64 + 4 * cs.length + 32 * bytes⟩

/-- So many copies of a part one behind the other. -/
def copies (n : Nat) (part : Size) : Size := if n = 0 then state else scale n part

/-- A repeated part. Each copy beyond the least number of them may be left out. -/
def repeated (least : Nat) (most : Option Nat) (part : Size) : Size :=
  match most with
  | none => scale (max least 1) part + fork
  | some most =>
    if most = least then copies least part
    else if least = 0 ∧ most = 1 then part + fork + state
    else copies least part + state + scale (most - least) (part + fork)

end Size

/-- The size of a class with a letter of its own. -/
def Shorthand.size (name : Shorthand) (unicode negated : Bool) : Size :=
  match name, unicode, negated with
  | .digit, true, false => ⟨1592, 5184⟩
  | .digit, true, true => ⟨2472, 12824⟩
  | .space, true, false => ⟨424, 680⟩
  | .space, true, true => ⟨824, 1924⟩
  | .word, true, false => ⟨20808, 50316⟩
  | .word, true, true => ⟨20232, 46900⟩
  | .digit, false, _ => .asciiClass 1
  | .space, false, _ => .asciiClass 2
  | .word, false, _ => .asciiClass 4

mutual

def ClassSet.size (unicode : Bool) : ClassSet → Size
  | .shorthand _ negated name => name.size unicode negated
  | .bracketed _ negated set => if negated then max (.allBut 1) (set.size unicode) else set.size unicode
  | .union _ items => sizeOfItems unicode items
  | _ => .asciiClass 1

/-- The size of the largest item. -/
def sizeOfItems (unicode : Bool) : List ClassSet → Size
  | [] => .asciiClass 1
  | item :: rest => max (item.size unicode) (sizeOfItems unicode rest)

end

end FilterQuery.Regex
