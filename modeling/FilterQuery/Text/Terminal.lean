/-!
# Text without terminal control

What a terminal shows of a text if it takes no orders from it: control sequences leave nothing behind,
and of the control characters only white space stays.
-/

namespace FilterQuery.Text

/-- Where in a control sequence a terminal is. -/
inductive TerminalMode where
  /-- In none. -/
  | text
  /-- Behind the escape character. -/
  | escape
  /-- In an escape sequence of several characters. -/
  | intermediate
  /-- In a sequence that starts with a bracket. -/
  | control
  /-- In an order to the terminal's surroundings, such as a title. -/
  | command
  /-- In a string for a device. -/
  | device
deriving DecidableEq, Repr

namespace TerminalMode

/-- White space that is shown wherever control characters are obeyed. -/
def isLayout (c : Char) : Bool := c ∈ ['\t', '\n', '\x0c', '\r']

/-- The mode behind the second character of a sequence. -/
def ofSecond (c : Char) : TerminalMode :=
  if c == '[' then control
  else if c == ']' then command
  else if c ∈ ['P', 'X', '^', '_'] then device
  else if '0' ≤ c then text
  else intermediate

/-- The mode behind a character that can stand in the sequence. -/
def next : TerminalMode → Char → TerminalMode
  | text, _ => text
  | escape, c => ofSecond c
  | intermediate, c => if '0' ≤ c then text else intermediate
  | control, c => if '@' ≤ c then text else control
  | command, _ => command
  | device, _ => device

/-- Reads a character: the mode behind it, and what is shown of it. A character that takes several bytes
breaks a sequence off after its first byte, which leaves the others without meaning. -/
def step (mode : TerminalMode) (c : Char) : TerminalMode × List Char :=
  if c == '\x1b' then (escape, [])
  else if c == '\x18' || c == '\x1a' then (text, [])
  else if c.toNat ≥ 0x80 then
    (text, if mode = text then [c] else List.replicate (c.utf8Size - 1) '\ufffd')
  else if c.toNat < 0x20 then
    match mode with
    | command => (if c == '\x07' then text else command, [])
    | device => (device, [])
    | mode => if isLayout c then (text, [c]) else (mode, [])
  else if c == '\x7f' then (mode, [])
  else (mode.next c, if mode = text then [c] else [])

def shown (mode : TerminalMode) : List Char → List Char
  | [] => []
  | c :: rest =>
    let (mode, visible) := mode.step c
    visible ++ shown mode rest

end TerminalMode

/-- What a terminal shows of a text if it takes no orders from it. -/
def withoutControl (s : String) : String := String.ofList (TerminalMode.text.shown s.toList)

end FilterQuery.Text
