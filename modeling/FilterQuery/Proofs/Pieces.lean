import FilterQuery.Pattern

/-!
# Patterns put together from pieces

What a library of regular expressions does is its own affair. What can be relied on is its documentation,
and here is what that says of the simplest patterns: those of letters, digits, blanks and underscores, of
the anchors `^` and `$`, and of `.*`. They are regular expressions whatever the order of the pieces, so
nothing but their size can keep them from being built; and a text matches one of them if it has a part
that can be cut into what the pieces stand for, one behind the other.

The laws are about ASCII only. Beyond it, which characters are the same but for case is a matter of tables
that come with the library.
-/

namespace FilterQuery

/-- The ASCII letters and digits, the blank and the underscore. -/
def Text.IsPlain (c : Char) : Prop := c.isAlphanum = true ∨ c = ' ' ∨ c = '_'

/-- A piece of a pattern. -/
inductive Piece where
  /-- A character that stands for itself. -/
  | char (x : Char) (plain : Text.IsPlain x)
  | start
  | stop
  /-- A repeated dot. -/
  | anything

namespace Piece

def chars : Piece → List Char
  | char x _ => [x]
  | start => ['^']
  | stop => ['$']
  | anything => ['.', '*']

/-- The source of the pattern of some pieces. -/
def source (pieces : List Piece) : String := .ofList (pieces.flatMap chars)

/-- What the piece stands for: a part of a text, which may depend on what lies before and behind it. -/
def Fits (flags : RegexFlags) (before part after : List Char) : Piece → Prop
  | char x _ => ∃ c, part = [c] ∧ if flags.ignoreCase then c.toLower = x.toLower else c = x
  | start => part = [] ∧ (before = [] ∨ flags.multiLine = true ∧ before.getLast? = some '\n')
  | stop => part = [] ∧ (after = [] ∨ flags.multiLine = true ∧ after.head? = some '\n')
  | anything => '\n' ∈ part → flags.dotMatchesNewLine = true

/-- A part of a text can be cut into what the pieces stand for, one behind the other. -/
def AllFit (flags : RegexFlags) : List Piece → List Char → List Char → List Char → Prop
  | [], _, part, _ => part = []
  | piece :: rest, before, part, after =>
    ∃ first others, first ++ others = part ∧ piece.Fits flags before first (others ++ after) ∧
      AllFit flags rest (before ++ first) others after

end Piece

/-- What the documentation of a library says of the patterns of pieces, where `size` is the number of
bytes that a source takes when it is built with some flags. -/
structure RegexLibrary.PieceLaws [RegexLibrary] (size : String → RegexFlags → Nat) : Prop where
  /-- What is not too big is built. -/
  build_of_le : ∀ {flags : RegexFlags} (pieces : List Piece), flags.ignoreWhiteSpace = false →
    size (Piece.source pieces) flags ≤ sizeLimit →
      ∃ test, build (Piece.source pieces) flags = .ok test
  /-- What is too big is refused, and nothing else is said of it. -/
  build_of_lt : ∀ {flags : RegexFlags} (pieces : List Piece), flags.ignoreWhiteSpace = false →
    sizeLimit < size (Piece.source pieces) flags →
      build (Piece.source pieces) flags = .error tooBig
  /-- A text matches if the pieces fit a part of it. -/
  test_iff : ∀ {flags : RegexFlags} (pieces : List Piece) {test : String → Bool},
    flags.ignoreWhiteSpace = false → build (Piece.source pieces) flags = .ok test →
      ∀ t : String, (∀ c ∈ t.toList, c.toNat < 0x80) →
        (test t = true ↔ ∃ before part after, before ++ (part ++ after) = t.toList ∧
          Piece.AllFit flags pieces before part after)

end FilterQuery
