import FilterQuery.Config.Setting
import FilterQuery.Decimal.Numeral

/-!
# Paths to settings

The name of a setting may lead through tables and lists: names with dots between them, and the numbers
of items in brackets. A name that is no such path stands for itself.
-/

namespace FilterQuery.Config

inductive PathStep where
  | entry (name : String)
  | item (i : Int)
deriving DecidableEq, Repr

structure Path where
  first : String
  steps : List PathStep := []
deriving DecidableEq, Repr

namespace Path

def isNameChar (c : Char) : Bool := c.isAlphanum || c == ' ' || c == '_' || c == '-'

/-- The steps that a text spells out; `fuel` bounds their number. -/
def steps? : Nat → List Char → Option (List PathStep)
  | _, [] => some []
  | 0, _ => none
  | fuel + 1, '.' :: rest =>
    match rest.takeWhile isNameChar with
    | [] => none
    | name => (steps? fuel (rest.drop name.length)).map (.entry (String.ofList name) :: ·)
  | fuel + 1, '[' :: rest => do
    let digits := rest.takeWhile (· != ']')
    let i ← Decimal.integerOf? digits
    match rest.drop digits.length with
    | ']' :: rest => (steps? fuel rest).map (.item i :: ·)
    | _ => none
  | _, _ => none

def ofText? (s : String) : Option Path :=
  let cs := s.toList
  match cs.takeWhile isNameChar with
  | [] => none
  | name =>
    (steps? cs.length (cs.drop name.length)).map fun steps => ⟨String.ofList name, steps⟩

def ofText (s : String) : Path := (ofText? s).getD ⟨s, []⟩

/-- The setting with a value put at the end of some steps. -/
def follow (value : Setting) : List PathStep → Setting → Setting
  | [], _ => value
  | [.entry name], s => s.put name value
  | .entry name :: rest, s => s.modifyEntry name (follow value rest)
  | .item i :: rest, s => s.modifyItem i (follow value rest)

/-- The root with a value put at the end of a path. What is on the way becomes a table or a list where
it has to. -/
def assign (p : Path) (value : Setting) (root : Setting) : Setting :=
  follow value (.entry p.first :: p.steps) root

end Path

/-- The root with the entries of a table put at the ends of the paths that their names stand for. -/
def Setting.assignAll (root : Setting) (entries : List (String × Setting)) : Setting :=
  entries.foldl (fun root (name, value) => (Path.ofText name).assign value root) root

end FilterQuery.Config
