import FilterQuery.Config.Lexeme

/-!
# Configuration in YAML

Mappings and sequences by indentation, mappings and sequences between brackets, and scalars: plain, between
quotes, or as blocks of lines. References between parts of a document and types given by tags are not
part of what a configuration needs, and are not read.
-/

namespace FilterQuery.Config.Yaml

/-- A line: how far it is set in, and what stands there. -/
structure Line where
  indent : Nat
  content : List Char

namespace Line

def ofChars (cs : List Char) : Line :=
  let content := cs.dropWhile (· == ' ')
  ⟨cs.length - content.length, dropTrailing isBlank content⟩

def isEmpty (l : Line) : Bool := (skipBlanks l.content).isEmpty

/-- Whether the line says nothing: it is empty or a comment. -/
def isVoid (l : Line) : Bool :=
  match skipBlanks l.content with
  | [] => true
  | c :: _ => c == '#'

/-- Whether the line starts an item of a sequence. -/
def startsItem (l : Line) : Bool :=
  match l.content with
  | ['-'] => true
  | '-' :: c :: _ => isBlank c
  | _ => false

/-- The line as it was written, for lines that are set in at least so far. -/
def behind (indent : Nat) (l : Line) : List Char :=
  if l.isEmpty then [] else List.replicate (l.indent - indent) ' ' ++ l.content

end Line

/-! ### Scalars -/

/-- A plain scalar by what it looks like. A special float that has no digits cannot be held. -/
def plain? (cs : List Char) : Option Datum :=
  let text := String.ofList cs
  let radix := match cs with
    | '0' :: 'x' :: ds => radixValue? 16 ds
    | '0' :: 'o' :: ds => radixValue? 8 ds
    | _ => none
  if text ∈ [".inf", ".Inf", ".INF", "+.inf", "+.Inf", "+.INF", "-.inf", "-.Inf", "-.INF", ".nan",
      ".NAN"] then none
  else if text ∈ ["", "~", "null"] then some .unit
  else if text == "true" then some (.bool true)
  else if text == "false" then some (.bool false)
  else
    match radix.filter fun n => Datum.isStorable n, integer? cs, float? cs with
    | some n, _, _ => some (.int n)
    | none, some n, _ => some (.int n)
    | none, none, some x => some (.float x)
    | none, none, none => some (.text text)

def keyText? : Datum → Option String
  | .scalar (.text s) => some s
  | .scalar (.int n) => some (toString n)
  | _ => none

def cutComment (blank : Bool) : List Char → List Char
  | [] => []
  | c :: rest => if blank && c == '#' then [] else c :: cutComment (isBlank c || c == '\n') rest

/-- Lines as one text: a line end between two lines is a blank, and each empty line between them a line
end. -/
def folded : List (List Char) → List Char
  | [] => []
  | [line] => line
  | line :: [] :: rest =>
    let ends := 1 + (rest.takeWhile (·.isEmpty)).length
    line ++ List.replicate ends '\n' ++ folded (rest.dropWhile (·.isEmpty))
  | line :: rest => line ++ ' ' :: folded rest
termination_by lines => lines.length
decreasing_by
  · have := (List.dropWhile_sublist (fun l : List Char => l.isEmpty) (l := rest)).length_le
    simp only [List.length_cons]
    omega
  · simp

/-- The lines of a scalar without blanks at their ends, up to the last that says something. -/
def trimmedLines (cs : List Char) : List (List Char) :=
  let lines := (splitAt '\n' cs).map fun line => dropTrailing isBlank (skipBlanks line)
  (lines.reverse.dropWhile (·.isEmpty)).reverse

/-- What line ends stand for between quotes, where the first has been read; and the text behind them. -/
def lineEnds (cs : List Char) : List Char × List Char :=
  let rest := cs.dropWhile fun c => isBlank c || c == '\n'
  let more := ((cs.take (cs.length - rest.length)).filter (· == '\n')).length
  (if more == 0 then [' '] else List.replicate more '\n', rest)

def escape : Reader Char
  | '0' :: rest => some ('\x00', rest)
  | 'a' :: rest => some ('\x07', rest)
  | 'b' :: rest => some ('\x08', rest)
  | 't' :: rest | '\t' :: rest => some ('\t', rest)
  | 'n' :: rest => some ('\n', rest)
  | 'v' :: rest => some ('\x0b', rest)
  | 'f' :: rest => some ('\x0c', rest)
  | 'r' :: rest => some ('\r', rest)
  | 'e' :: rest => some ('\x1b', rest)
  | ' ' :: rest => some (' ', rest)
  | '"' :: rest => some ('"', rest)
  | '\'' :: rest => some ('\'', rest)
  | '/' :: rest => some ('/', rest)
  | '\\' :: rest => some ('\\', rest)
  | 'N' :: rest => some ('\u0085', rest)
  | '_' :: rest => some ('\u00a0', rest)
  | 'L' :: rest => some ('\u2028', rest)
  | 'P' :: rest => some ('\u2029', rest)
  | 'x' :: rest => codeEscape 2 rest
  | 'u' :: rest => codeEscape 4 rest
  | 'U' :: rest => codeEscape 8 rest
  | _ => none

/-- The rest of a text up to its closing quote. What has been read is kept from the last character to the
first. -/
def textRest (quote : Char) : Nat → List Char → Reader String
  | 0, _, _ => none
  | _, _, [] => none
  | fuel + 1, read, c :: rest =>
    if c == quote then
      match quote, rest with
      | '\'', '\'' :: rest => textRest quote fuel ('\'' :: read) rest
      | _, _ => some (String.ofList read.reverse, rest)
    else if c == '\n' then
      let (ends, rest) := lineEnds rest
      textRest quote fuel (ends ++ read.dropWhile isBlank) rest
    else if c == '\\' && quote == '"' then
      match rest with
      | '\n' :: rest => textRest quote fuel read (skipBlanks rest)
      | rest => (escape rest).bind fun (c, rest) => textRest quote fuel (c :: read) rest
    else textRest quote fuel (c :: read) rest

def text? : Reader String := fun cs =>
  match cs with
  | '"' :: rest => textRest '"' (rest.length + 1) [] rest
  | '\'' :: rest => textRest '\'' (rest.length + 1) [] rest
  | _ => none

/-! ### Between brackets -/

/-- The text without blanks, line ends and comments in front. -/
def skipLayout (comment : Bool) : List Char → List Char
  | [] => []
  | '\n' :: rest => skipLayout false rest
  | c :: rest =>
    if comment || c == '#' then skipLayout true rest
    else if isBlank c then skipLayout false rest
    else c :: rest

/-- Whether a character has a meaning between brackets. -/
def isFlowMark (c : Char) : Bool := c ∈ [',', '[', ']', '\x7b', '\x7d']

/-- A plain scalar between brackets, and what follows it. -/
def flowPlain : List Char → List Char × List Char
  | [] => ([], [])
  | c :: rest =>
    let ends := isFlowMark c || c == ':' && (match rest with
      | [] => true
      | d :: _ => isBlank d || d == '\n' || isFlowMark d)
    if ends then ([], c :: rest)
    else
      let (cs, behind) := flowPlain rest
      (c :: cs, behind)

mutual

def flowValue : Nat → Reader Datum
  | 0, _ => none
  | fuel + 1, cs =>
    match skipLayout false cs with
    | '[' :: rest => (flowItems fuel rest).map fun (xs, rest) => (.list xs, rest)
    | '\x7b' :: rest => (flowEntries fuel rest).map fun (es, rest) => (Datum.ofEntries es, rest)
    | cs =>
      match text? cs with
      | some (s, rest) => some (.text s, rest)
      | none =>
        let (word, rest) := flowPlain cs
        (plain? (folded (trimmedLines (cutComment true word)))).map fun v => (v, rest)

def flowItems : Nat → Reader (List Datum)
  | 0, _ => none
  | fuel + 1, cs =>
    match skipLayout false cs with
    | ']' :: rest => some ([], rest)
    | cs => do
      let (v, rest) ← flowValue fuel cs
      match skipLayout false rest with
      | ',' :: rest =>
        let (vs, rest) ← flowItems fuel rest
        return (v :: vs, rest)
      | ']' :: rest => return ([v], rest)
      | _ => none

def flowEntries : Nat → Reader (List (String × Datum))
  | 0, _ => none
  | fuel + 1, cs =>
    match skipLayout false cs with
    | '\x7d' :: rest => some ([], rest)
    | cs => do
      let (k, rest) ← flowValue fuel cs
      let key ← keyText? k
      let (v, rest) ← match skipLayout false rest with
        | ':' :: rest => flowValue fuel rest
        | rest => some (.unit, rest)
      match skipLayout false rest with
      | ',' :: rest =>
        let (es, rest) ← flowEntries fuel rest
        return ((key, v) :: es, rest)
      | '\x7d' :: rest => return ([(key, v)], rest)
      | _ => none

end

/-! ### Blocks of lines -/

/-- The lines of a block as one text, where line ends between lines that are not set in become blanks.
`before` is the line before, and `empty` the number of empty lines behind it. -/
def foldBlock (before : List Char) (empty : Nat) : List (List Char) → List Char
  | [] => []
  | [] :: rest => foldBlock before (empty + 1) rest
  | line :: rest =>
    let further (line : List Char) : Bool := line.head?.any isBlank
    let between :=
      if further before || further line then List.replicate (empty + 1) '\n'
      else if empty == 0 then [' ']
      else List.replicate empty '\n'
    between ++ line ++ foldBlock line 0 rest

/-- A scalar that is a block of lines, with the marks behind the sign that opens it. -/
def block? (keepsEnds : Bool) (marks : List Char) (own : List Line) : Option Datum :=
  let indent := ((own.find? fun l => !l.isEmpty).map Line.indent).getD 0
  let body := own.takeWhile fun l => l.isEmpty || indent ≤ l.indent
  if !(own.drop body.length).all Line.isVoid then none
  else
    let lines := body.map (Line.behind indent)
    let said := (lines.reverse.dropWhile (·.isEmpty)).reverse
    let text := match said with
      | [] => []
      | first :: rest =>
        if keepsEnds then ['\n'].intercalate said else first ++ foldBlock first 0 rest
    let ends :=
      if '-' ∈ marks then 0
      else if '+' ∈ marks then lines.length - said.length + (if said.isEmpty then 0 else 1)
      else if said.isEmpty then 0 else 1
    some (.text (String.ofList (text ++ List.replicate ends '\n')))

/-! ### Nodes -/

/-- A key at the front of a line, and what stands behind its colon. -/
def keyOf? (cs : List Char) : Option (String × List Char) :=
  let behindColon (cs : List Char) : Option (List Char) :=
    match cs with
    | [':'] => some []
    | ':' :: c :: rest => if isBlank c then some rest else none
    | _ => none
  match text? cs with
  | some (key, rest) => (behindColon (skipBlanks rest)).map fun rest => (key, rest)
  | none =>
    match cs with
    | [] => none
    | c :: _ =>
      if isFlowMark c || c ∈ ['|', '>', '&', '*', '!', '#', '%', '@', '"', '\''] then none
      else
        let rec plainKey (read : List Char) : List Char → Option (String × List Char)
          | [] => none
          | c :: rest =>
            match behindColon (c :: rest) with
            | some behind =>
              ((plain? (dropTrailing isBlank read.reverse)).bind keyText?).map fun key =>
                (key, behind)
            | none =>
              if c == '#' && read.head?.any isBlank then none else plainKey (c :: read) rest
        plainKey [] cs

/-- Lines cut into pieces, each with the line it starts with; none if the first line starts none. -/
def pieces (starts : Line → Bool) (lines : List Line) : Option (List (Line × List Line)) :=
  let (before, found) := lines.foldr (fun l (own, found) =>
    if starts l then ([], (l, own) :: found) else (l :: own, found)) ([], [])
  if before.all Line.isVoid then some found else none

/-- A scalar, or a value between brackets, that starts at some characters and may go on over lines. -/
def inline? (cs : List Char) (own : List Line) : Option Datum :=
  let whole := ['\n'].intercalate (cs :: own.map (Line.behind 0))
  match cs with
  | '|' :: marks => block? true (cutComment false marks) own
  | '>' :: marks => block? false (cutComment false marks) own
  | '&' :: _ | '*' :: _ | '!' :: _ => none
  | c :: _ =>
    if c ∈ ['"', '\'', '[', '\x7b'] then
      match flowValue (2 * whole.length + 2) whole with
      | some (v, rest) => if (skipLayout false rest).isEmpty then some v else none
      | none => none
    else plain? (folded (trimmedLines (cutComment true whole)))
  | [] => some .unit

/-- What some lines say, all of them together; `fuel` bounds the depth. -/
def node : Nat → List Line → Option Datum
  | 0, _ => none
  | fuel + 1, lines =>
    match lines.dropWhile Line.isVoid with
    | [] => some .unit
    | first :: rest =>
      if first.startsItem then do
        let found ← pieces (fun l => l.indent == first.indent && l.startsItem) (first :: rest)
        let items ← found.mapM fun (l, own) =>
          let content := skipBlanks (l.content.drop 1)
          node fuel (Line.mk (l.indent + l.content.length - content.length) content :: own)
        return .list items
      else if (keyOf? first.content).isSome then do
        let found ← pieces (fun l => l.indent == first.indent && !l.isVoid && !l.startsItem)
          (first :: rest)
        let entries ← found.mapM fun (l, own) => do
          let (key, behind) ← keyOf? l.content
          let behind := skipBlanks behind
          let v ← if (Line.mk 0 behind).isVoid then node fuel own else inline? behind own
          return (key, v)
        return Datum.ofEntries entries
      else inline? first.content rest

/-- The lines of the document in a file; none if there are several documents. -/
def document? (lines : List Line) : Option (List Line) :=
  let isMark (mark : List Char) (l : Line) : Bool :=
    l.indent == 0 && mark.isPrefixOf l.content
      && ((l.content.drop 3).head?.all fun c => isBlank c)
  let isStart := isMark ['-', '-', '-']
  let isEnd := isMark ['.', '.', '.']
  let body := lines.dropWhile fun l => l.isVoid || l.content.head? == some '%'
  let body := match body with
    | l :: rest => if isStart l then Line.mk 4 (skipBlanks (l.content.drop 3)) :: rest else l :: rest
    | [] => []
  let own := body.takeWhile fun l => !isEnd l
  if own.any isStart || !((body.drop own.length).drop 1).all Line.isVoid then none else some own

/-- What a text says; none if it is malformed. A text without a document is an empty mapping. -/
def read (text : String) : Option Datum := do
  let lines := (splitAt '\n' (unixLines text.toList)).map Line.ofChars
  let own ← document? lines
  if own.isEmpty then return .table []
  node (text.length + 2) own

end FilterQuery.Config.Yaml
