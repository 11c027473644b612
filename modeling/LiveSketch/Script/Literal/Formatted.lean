import LiveSketch.Script.Literal.Escape
import LiveSketch.Script.Grammar.Basic

/-!
# Strings with values in them

A formatted string holds values between braces, each an expression with perhaps a conversion and a
format, which may hold values in turn. A brace that stands for itself is written twice.
-/

namespace LiveSketch.Script

/-- Reads the text of an expression in brackets that begins on a line, its columns there shifted. -/
abbrev InnerReader := List Char → Nat → Nat → Reading

/-- Why a string is wrong: at what was read last, or inside one of its expressions. -/
inductive StringFault where
  | lastRead (message : String)
  | inside (e : Malformed)

/-- Reading strings, with warnings on the way. -/
abbrev StringM (α : Type) := ExceptT StringFault (StateM (List Warning)) α

/-- Breaks off with these words. -/
def wrongString {α : Type} (message : String) : StringM α := throw (.lastRead message)

def warnOfEscape (line : Nat) (odd : String) : StringM Unit :=
  modify fun ws => ws ++ [⟨"DeprecationWarning", oddEscapeWords odd, line, unitFile⟩]

/-- A part of a formatted string. -/
inductive Piece where
  | text (cs : List Char)
  | value (n : Node)
deriving Inhabited

/-- Pieces with adjacent texts as one and without empty ones. -/
def mergePieces : List Piece → List Piece
  | [] => []
  | .text a :: rest =>
    match mergePieces rest with
    | .text b :: more => .text (a ++ b) :: more
    | merged => if a.isEmpty then merged else .text a :: merged
  | .value n :: rest => .value n :: mergePieces rest

def joinedNode (span : Span) (pieces : List Piece) : Node :=
  .mk span (.joinedText ((mergePieces pieces).map fun
    | .text cs => .mk span (.constant (.text (String.ofList cs)))
    | .value n => n))

/-! ## Texts between values -/

/-- A text between values: its characters, what comes after it, and whether a doubled brace ended
it, after which it goes on. -/
structure Stretch where
  text : List Char
  rest : List Char
  goesOn : Bool
  /-- The number of braces after a backslash in it. -/
  odd : Nat

namespace Stretch

def prepend (cs : List Char) (s : Stretch) : Stretch := { s with text := cs ++ s.text }

end Stretch

def isBrace (c : Char) : Bool := c == '\x7b' || c == '\x7d'

/-- What stands at a brace: a doubled one, the end of the text, or a fault. -/
def atBrace (isInner : Bool) (c : Char) (rest : List Char) : Except String Stretch :=
  if isInner then .ok ⟨[], c :: rest, false, 0⟩
  else match rest with
    | d :: after =>
      if d == c then .ok ⟨[c], after, true, 0⟩
      else if c == '\x7d' then .error "f-string: single '\x7d' is not allowed"
      else .ok ⟨[], c :: rest, false, 0⟩
    | [] =>
      if c == '\x7d' then .error "f-string: single '\x7d' is not allowed"
      else .ok ⟨[], [c], false, 0⟩

/-- The text up to the next value. With `inName` it is inside of the braces of a character's name. -/
def stretch (isRaw isInner : Bool) : Bool → List Char → Except String Stretch
  | _, [] => .ok ⟨[], [], false, 0⟩
  | true, c :: rest => (stretch isRaw isInner (c != '\x7d') rest).map (Stretch.prepend [c])
  | false, '\\' :: c :: rest =>
    if isRaw then
      if isBrace c then (atBrace isInner c rest).map (Stretch.prepend ['\\'])
      else (stretch isRaw isInner false (c :: rest)).map (Stretch.prepend ['\\'])
    else if c == 'N' then
      match rest with
      | '\x7b' :: after =>
        (stretch isRaw isInner true after).map (Stretch.prepend ['\\', c, '\x7b'])
      | d :: after => (stretch isRaw isInner false after).map (Stretch.prepend ['\\', c, d])
      | [] => .ok ⟨['\\', c], [], false, 0⟩
    else if isBrace c then
      (atBrace isInner c rest).map fun s =>
        let s := s.prepend ['\\']
        if c == '\x7b' then { s with odd := s.odd + 1 } else s
    else (stretch isRaw isInner false rest).map (Stretch.prepend ['\\', c])
  | false, c :: rest =>
    if isBrace c then atBrace isInner c rest
    else (stretch isRaw isInner false rest).map (Stretch.prepend [c])

/-! ## Expressions -/

/-- Where an expression ends: how many characters it has, and what comes after it. -/
structure ExpressionEnd where
  length : Nat
  rest : List Char

/-- Looks for the end of an expression. `quote` is the open string in it, with three quotes or one,
and `brackets` are the open brackets, innermost first. -/
def expressionEnd : List Char → Option (Char × Bool) → List Char → Nat →
    Except String ExpressionEnd
  | [], some _, _, _ => .error "f-string: unterminated string"
  | [], none, b :: _, _ => .error ("f-string: unmatched '" ++ b.toString ++ "'")
  | [], none, [], n => .ok ⟨n, []⟩
  | '\\' :: _, _, _, _ => .error "f-string expression part cannot include a backslash"
  | c :: rest, some (q, triple), brackets, n =>
    if c != q then expressionEnd rest (some (q, triple)) brackets (n + 1)
    else if !triple then expressionEnd rest none brackets (n + 1)
    else match rest with
      | d :: e :: after =>
        if d == q && e == q then expressionEnd after none brackets (n + 3)
        else expressionEnd (d :: e :: after) (some (q, triple)) brackets (n + 1)
      | rest => expressionEnd rest (some (q, triple)) brackets (n + 1)
  | c :: rest, none, brackets, n =>
    if c == '\x27' || c == '\x22' then
      match rest with
      | d :: e :: after =>
        if d == c && e == c then expressionEnd after (some (c, true)) brackets (n + 3)
        else expressionEnd (d :: e :: after) (some (c, false)) brackets (n + 1)
      | rest => expressionEnd rest (some (c, false)) brackets (n + 1)
    else if c == '[' || c == '\x7b' || c == '(' then
      if Lexer.maxBrackets ≤ brackets.length then .error "f-string: too many nested parenthesis"
      else expressionEnd rest none (c :: brackets) (n + 1)
    else if c == '#' then .error "f-string expression part cannot include '#'"
    else if brackets.isEmpty && ['!', ':', '\x7d', '=', '<', '>'].contains c then
      let paired := c == '!' || c == '=' || c == '<' || c == '>'
      match rest with
      | '=' :: after =>
        if paired then expressionEnd after none brackets (n + 2) else .ok ⟨n, c :: '=' :: after⟩
      | rest =>
        if c == '<' || c == '>' then expressionEnd rest none brackets (n + 1)
        else .ok ⟨n, c :: rest⟩
    else if c == ']' || c == '\x7d' || c == ')' then
      match brackets with
      | [] => .error ("f-string: unmatched '" ++ c.toString ++ "'")
      | b :: outer =>
        if Lexer.closes b c then expressionEnd rest none outer (n + 1)
        else .error ("f-string: closing parenthesis '" ++ c.toString ++
          "' does not match opening parenthesis '" ++ b.toString ++ "'")
    else expressionEnd rest none brackets (n + 1)

/-- What surrounds a formatted string while it is read. -/
structure FormattedSite where
  token : Token
  /-- Where its node stands: from the first string of a row to the last. -/
  span : Span
  isRaw : Bool
  /-- The number of quotes that close it. -/
  quotes : Nat
  reader : InnerReader

namespace FormattedSite

/-- The characters that the language's expressions pass over. -/
def isSkipped (c : Char) : Bool := c == ' ' || c == '\t' || c == '\n' || c == '\x0c'

/-- The line of an expression and the column to which its opening brace shifts it. `rest` begins at
the brace. -/
def place (s : FormattedSite) (rest : List Char) : Nat × Nat :=
  let whole := s.token.text.toList
  let before := whole.take (whole.length - s.quotes - rest.length)
  let lines := (before.filter (· == '\n')).length
  let first := (rest.drop 1).find? fun c => !(c == ' ' || c == '\t' || c == '\x0c')
  let column := if first.all fun c => c == '\n' || c == '\x7d' then 0
    else ((before.reverse.takeWhile (· != '\n')).map Char.utf8Size).sum
  (s.token.line + lines, if lines = 0 then s.token.column.getD 0 + column else column)

/-- The node of an expression. `rest` begins at its opening brace and `after` after it. -/
def expression (s : FormattedSite) (rest text after : List Char) : StringM Node := do
  if text.all isSkipped then
    match after with
    | c :: _ =>
      if c == '!' || c == ':' || c == '=' then
        wrongString ("f-string: expression required before '" ++ c.toString ++ "'")
      else wrongString "f-string: empty expression not allowed"
    | [] => wrongString "f-string: empty expression not allowed"
  else
    let (line, shift) := s.place rest
    let found := s.reader ('(' :: text ++ [')']) line shift
    modify fun ws => ws ++ found.warnings
    match found.ended with
    | .ok n => pure n
    | .error e => throw (.inside e)

/-- The words for a value that is not closed. -/
def unclosed : String := "f-string: expecting '\x7d'"

/-- A conversion after its mark, and what comes after it. -/
def conversion (cs : List Char) : StringM (Int × List Char) := do
  let word := cs.takeWhile fun c => !(c == '\x7d' || c == ':')
  if word.length = cs.length then wrongString unclosed
  else match word with
    | [] => wrongString "f-string: invalid conversion character: expected 's', 'r', or 'a'"
    | [c] =>
      if c == 's' || c == 'r' || c == 'a' then pure (c.toNat, cs.drop 1)
      else wrongString (bad word)
    | _ => wrongString (bad word)
where
  /-- The words for a conversion that there is not. -/
  bad (word : List Char) : String :=
    "f-string: invalid conversion character " ++ quoted (String.ofList word) ++
      ": expected 's', 'r', or 'a'"

/-- A value from its opening brace on: its pieces, and what comes after its closing brace. `format`
reads a format. -/
def value (s : FormattedSite) (format : List Char → StringM (Node × List Char)) (rest : List Char) :
    StringM (List Piece × List Char) := do
  let body := rest.drop 1
  match expressionEnd body none [] 0 with
  | .error message => wrongString message
  | .ok ⟨length, after⟩ =>
    if after.isEmpty then wrongString unclosed
    let n ← s.expression rest (body.take length) after
    let (shown, after) := match after with
      | '=' :: more =>
        let gap := more.takeWhile fun c => c == ' ' || ('\t' ≤ c && c ≤ '\r')
        (body.take (length + 1 + gap.length), more.drop gap.length)
      | other => ([], other)
    if after.isEmpty then wrongString unclosed
    let (conv, after) ← match after with
      | '!' :: more => conversion more
      | other => pure (-1, other)
    let (spec, after) ← match after with
      | ':' :: more =>
        if more.isEmpty then wrongString unclosed
        let (spec, after) ← format more
        pure (some spec, after)
      | other => pure (none, other)
    match after with
    | '\x7d' :: more =>
      let conv := if !shown.isEmpty && spec.isNone && conv = -1 then ('r'.toNat : Int) else conv
      pure ([.text shown, .value (.mk s.span (.formattedValue n conv spec))], more)
    | _ => wrongString unclosed

def decode (s : FormattedSite) (text : List Char) : StringM (List Char) := do
  if s.isRaw then pure text
  else match decodeText text with
    | .error message => wrongString message
    | .ok d =>
      d.odd.forM (warnOfEscape s.token.line)
      pure d.units

/-- The pieces of a string, or of a format inside of it, and what comes after them. Each step
consumes a character or goes into a format. -/
def pieces (s : FormattedSite) : Nat → Nat → List Char → StringM (List Piece × List Char)
  | 0, _, _ => wrongString unclosed
  | fuel + 1, level, rest => do
    match stretch s.isRaw (level != 0) false rest with
    | .error message => wrongString message
    | .ok found =>
      if 0 < found.odd then warnOfEscape s.token.line "\x7b"
      let text ← s.decode found.text
      if found.goesOn then
        let (more, rest) ← pieces s fuel level found.rest
        pure (.text text :: more, rest)
      else match found.rest with
        | '\x7b' :: _ =>
          if 2 ≤ level then wrongString "f-string: expressions nested too deeply"
          let here : Span := (Part.token s.token).span
          let format (cs : List Char) : StringM (Node × List Char) := do
            let (found, rest) ← pieces s fuel (level + 1) cs
            if rest.head? = some '\x7d' then pure (joinedNode here found, rest)
            else wrongString unclosed
          let (first, rest) ← s.value format found.rest
          let (more, rest) ← pieces s fuel level rest
          pure (.text text :: first ++ more, rest)
        | rest => pure ([.text text], rest)

end FormattedSite

end LiveSketch.Script
