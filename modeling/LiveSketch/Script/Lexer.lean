import LiveSketch.Diagnostic.Basic
import LiveSketch.Script.Number
import LiveSketch.Script.Token
import LiveSketch.Text.Identifier

/-!
# Reading tokens

A script is read line by line. The blanks that open a line are its depth: a deeper line opens a
block with one token and a less deep one closes blocks with one token each. Inside brackets line
breaks and depth mean nothing. Reading ends with the last token or with the first fault.
-/

namespace LiveSketch.Script

/-- A bracket that was opened. -/
structure Bracket where
  mark : Char
  line : Nat
  chars : Nat
deriving DecidableEq, Repr, Inhabited

/-- Where and why reading stopped. A `refused` character stops reading wherever it stands; a text
that breaks off matters only to a reader who gets there. -/
structure LexStop where
  error : Malformed
  refused : Bool
  bracket : Option Bracket
deriving DecidableEq, Repr, Inhabited

/-- The state of reading. -/
structure Lexer where
  rest : List Char
  spot : Spot
  /-- The open blocks, innermost first: their depth with tabs of eight and with tabs of one. -/
  blocks : List (Nat × Nat)
  /-- Block tokens that are due: openings when positive, closings when negative. -/
  due : Int
  lineStart : Bool
  brackets : List Bracket
  warnings : List Warning

/-- What one step of reading gives. -/
inductive LexStep where
  | token (token : Token) (next : Lexer)
  | skip (next : Lexer)
  | finish (token : Token)
  | stop (reason : LexStop)

namespace Lexer

/-- The state at the start of a text whose first line has this number. -/
def start (text : List Char) (line : Nat) : Lexer :=
  ⟨text, .before line, [(0, 0)], 0, true, [], []⟩

/-! ## Faults -/

/-- A fault at 1-based columns of a line, of a kind. -/
def stopAt (s : Lexer) (refused : Bool) (message : String) (line column : Nat)
    (endColumn : Option Nat) : LexStop where
  error := ⟨message, some line, some column, endColumn.map fun _ => line, endColumn.map Int.ofNat,
    none⟩
  refused := refused
  bracket := s.brackets.head?

/-- The fault of reading these characters. -/
def refuse (s : Lexer) (read : List Char) (message : String) : LexStep :=
  let spot := s.spot.readAll read
  .stop (s.stopAt true message spot.line spot.chars none)

def neverClosed (b : Bracket) : Malformed :=
  ⟨"'" ++ b.mark.toString ++ "' was never closed", some b.line, some (b.chars + 1), none, none, none⟩

/-- The text ends where it may not. -/
def breakOff (s : Lexer) (spot : Spot) : LexStep :=
  match s.brackets.head? with
  | some b => .stop ⟨neverClosed b, false, some b⟩
  | none => .stop (s.stopAt false "unexpected EOF while parsing" spot.line spot.chars none)

/-! ## Tokens -/

def tokenOf (s : Lexer) (kind : TokenKind) (text : List Char) : Token × Lexer :=
  let start := s.spot.ahead s.rest
  let stop := s.spot.readAll text
  ({ kind := kind, text := String.ofList text, line := start.line, column := some start.bytes
     endLine := stop.line, endColumn := some stop.bytes, reached := stop.chars
     depth := s.brackets.length },
    { s with rest := s.rest.drop text.length, spot := stop })

/-- The step that gives a token of these characters. -/
def give (s : Lexer) (kind : TokenKind) (text : List Char) : LexStep :=
  let (t, next) := s.tokenOf kind text
  .token t next

def layoutToken (s : Lexer) (kind : TokenKind) : Token :=
  let spot := s.spot.ahead s.rest
  ⟨kind, "", spot.line, none, spot.line, none, spot.chars, s.brackets.length⟩

/-! ## The depth of a line -/

/-- What the opening of a line measures: depth with tabs of eight, with tabs of one, and the depth
before the first line continuation. -/
structure Depth where
  wide : Nat
  narrow : Nat
  continued : Nat
deriving DecidableEq, Repr, Inhabited

/-- Measures the blanks that open a line. Fails where a continuation has no line to go on with. -/
def measure : List Char → Spot → Depth → Except (Spot × Bool) (List Char × Spot × Depth)
  | ' ' :: rest, p, d => measure rest (p.read ' ') { d with wide := d.wide + 1, narrow := d.narrow + 1 }
  | '\t' :: rest, p, d =>
    measure rest (p.read '\t') { d with wide := (d.wide / 8 + 1) * 8, narrow := d.narrow + 1 }
  | '\x0c' :: rest, p, d => measure rest (p.read '\x0c') { d with wide := 0, narrow := 0 }
  | '\\' :: '\n' :: rest, p, d =>
    let p := (p.read '\\').read '\n'
    if rest.isEmpty then .error (p, true)
    else measure rest (p.ahead rest) { d with continued := if d.continued = 0 then d.wide else d.continued }
  | '\\' :: c :: _, p, _ => .error ((p.read '\\').read c, false)
  | rest, p, d => .ok (rest, p.ahead rest, d)

/-- A line continuation that is followed by something. -/
def strayContinuation (s : Lexer) (spot : Spot) : LexStep :=
  .stop (s.stopAt false "unexpected character after line continuation character" spot.line spot.chars
    none)

/-- Tabs and spaces that do not compare. -/
def tabFault (s : Lexer) (spot : Spot) : LexStep :=
  .stop (s.stopAt false "inconsistent use of tabs and spaces in indentation" spot.line 1 none)

def maxBlocks : Nat := 100

/-- The bytes and characters up to the end of the current line, its break included. -/
def lineReached (spot : Spot) (rest : List Char) : Spot :=
  (spot.readAll (rest.takeWhile (· != '\n'))).read '\n'

/-- Opens or closes blocks for a line of this depth. -/
def nest (s : Lexer) (wide narrow : Nat) : LexStep :=
  match s.blocks with
  | [] => .skip s
  | (w, n) :: _ =>
    if wide = w then
      if narrow = n then .skip s else s.tabFault s.spot
    else if w < wide then
      if maxBlocks ≤ s.blocks.length then
        .stop (s.stopAt false "too many levels of indentation" s.spot.line 1 none)
      else if narrow ≤ n then s.tabFault s.spot
      else .skip { s with blocks := (wide, narrow) :: s.blocks, due := s.due + 1 }
    else
      let kept := s.blocks.dropWhile fun b => wide < b.1
      let closed := s.blocks.length - kept.length
      match kept with
      | (w, n) :: _ =>
        if wide ≠ w then
          let reached := lineReached s.spot s.rest
          .stop (s.stopAt false "unindent does not match any outer indentation level"
            s.spot.line reached.chars none)
        else if narrow ≠ n then s.tabFault s.spot
        else .skip { s with blocks := kept, due := s.due - closed }
      | [] => .skip s

/-- Skips what cannot end a line: to the line break or to the end of the text. -/
def toBreak (s : Lexer) (rest : List Char) (spot : Spot) : Lexer :=
  let passed := rest.takeWhile (· != '\n')
  { s with rest := rest.drop passed.length, spot := spot.readAll passed }

/-- Reads the opening of a line. A line of blanks and a comment alone is passed over whole. -/
def openLine (s : Lexer) : LexStep :=
  match measure s.rest s.spot ⟨0, 0, 0⟩ with
  | .error (spot, true) => s.breakOff spot
  | .error (spot, false) => s.strayContinuation spot
  | .ok (rest, spot, d) =>
    match rest with
    | '#' :: _ | '\n' :: _ =>
      let s := s.toBreak rest spot
      .skip { s with rest := s.rest.drop 1, spot := s.spot.read '\n', lineStart := true }
    | _ =>
      let s := { s with rest := rest, spot := spot, lineStart := false }
      if !s.brackets.isEmpty then .skip s
      else if d.continued = 0 then s.nest d.wide d.narrow
      else s.nest d.continued d.continued

/-! ## Strings -/

/-- The characters that may stand before a string, in any of their allowed orders. -/
def stringPrefixes : List String :=
  ["", "b", "r", "u", "f", "br", "rb", "fr", "rf"]

/-- The length of a prefix, if the characters open a string after it. -/
def prefixLength? (cs : List Char) : Option Nat :=
  let before := cs.takeWhile fun c => c.isAlpha
  let after := (cs.drop before.length).head?
  if (after = some '\x27' ∨ after = some '\x22') ∧
      stringPrefixes.contains (String.ofList (before.map Char.toLower)) then some before.length
  else none

/-- The length of a string's body and closing quotes, if it is closed. `run` quotes stand before. -/
def closing (quote : Char) (size : Nat) : List Char → Nat → Nat → Option Nat
  | [], _, _ => none
  | '\\' :: _ :: rest, _, n => closing quote size rest 0 (n + 2)
  | c :: rest, run, n =>
    if size = 1 && c == '\n' then none
    else if c == quote then
      if run + 1 = size then some (n + 1) else closing quote size rest (run + 1) (n + 1)
    else closing quote size rest 0 (n + 1)

/-- Where reading of a string that is not closed gives up: the line it notices on. -/
def noticed (size : Nat) (spot : Spot) : List Char → Spot
  | [] => spot
  | '\\' :: c :: rest => noticed size ((spot.read '\\').read c) rest
  | c :: rest => if size = 1 && c == '\n' then spot else noticed size (spot.read c) rest

/-- Reads a string whose quotes open after `before` characters. -/
def readString (s : Lexer) (before : Nat) : LexStep :=
  match s.rest.drop before with
  | quote :: body =>
    let size := if body.take 2 = [quote, quote] then 3 else 1
    let opening := before + size
    match closing quote size (s.rest.drop opening) 0 0 with
    | some n => s.give .string (s.rest.take (opening + n))
    | none =>
      let spot := noticed size (s.spot.readAll (s.rest.take opening)) (s.rest.drop opening)
      let kind := if size = 3 then "triple-quoted string" else "string"
      s.refuse (s.rest.take 1) ("unterminated " ++ kind ++ " literal (detected at line " ++
        toString spot.line ++ ")")
  | [] => s.breakOff s.spot

/-! ## Words, numbers and marks -/

/-- The words that refuse a character in a name. -/
def badCharacter (c : Char) : String :=
  let number := (hexText 4 c.toNat).map Char.toUpper
  if isPrintable c then "invalid character '" ++ c.toString ++ "' (U+" ++ number ++ ")"
  else "invalid non-printable character U+" ++ number

/-- The length of the longest start that is a name. -/
def nameLength : List Char → Nat
  | [] => 0
  | c :: rest => if isNameStart c then 1 + (rest.takeWhile isNameRest).length else 0

def readWord (s : Lexer) : LexStep :=
  let word := s.rest.takeWhile isWordChar
  let good := nameLength word
  match (word.drop good).head? with
  | some c => s.refuse (word.take (good + 1)) (badCharacter c)
  | none => s.give (if keywords.contains (String.ofList word) then .keyword else .name) word

def readNumber (s : Lexer) : LexStep :=
  match scanNumber s.rest with
  | .found n warned =>
    let (t, next) := s.tokenOf .number (s.rest.take n)
    let more := warned.toList.map fun text => ⟨"DeprecationWarning", text, t.line, unitFile⟩
    .token t { next with warnings := next.warnings ++ more }
  | .wrong n message => s.refuse (s.rest.take n) message
  | .leadingZeros _ zerosEnd =>
    let spot := s.spot.ahead s.rest
    .stop (s.stopAt true ("leading zeros in decimal integer literals are not permitted; " ++
      "use an 0o prefix for octal integers") spot.line (spot.bytes + 1) (some (spot.bytes + zerosEnd)))

def longMarks : List String := ["**=", "//=", ">>=", "<<=", "..."]

def shortMarks : List String :=
  ["!=", "%=", "&=", "**", "*=", "+=", "-=", "->", "//", "/=", ":=", "<<", "<=", "<>", "==", ">=",
    ">>", "@=", "^=", "|="]

def maxBrackets : Nat := 200

def closes (opening closing : Char) : Bool :=
  (opening == '(' && closing == ')') || (opening == '[' && closing == ']') ||
    (opening == '\x7b' && closing == '\x7d')

/-- The words for a bracket that closes another kind. -/
def mismatch (b : Bracket) (line : Nat) (c : Char) : String :=
  "closing parenthesis '" ++ c.toString ++ "' does not match opening parenthesis '" ++
    b.mark.toString ++ "'" ++ (if b.line = line then "" else " on line " ++ toString b.line)

def readOpening (s : Lexer) (c : Char) : LexStep :=
  if maxBrackets ≤ s.brackets.length then s.refuse [c] "too many nested parentheses"
  else
    let spot := s.spot.ahead s.rest
    { s with brackets := ⟨c, spot.line, spot.chars⟩ :: s.brackets }.give .mark [c]

def readClosing (s : Lexer) (c : Char) : LexStep :=
  match s.brackets with
  | [] => s.refuse [c] ("unmatched '" ++ c.toString ++ "'")
  | b :: outer =>
    let s := { s with brackets := outer }
    if closes b.mark c then s.give .mark [c]
    else s.refuse [c] (mismatch b (s.spot.ahead s.rest).line c)

def readMark (s : Lexer) (c : Char) : LexStep :=
  if longMarks.contains (String.ofList (s.rest.take 3)) then s.give .mark (s.rest.take 3)
  else if shortMarks.contains (String.ofList (s.rest.take 2)) then s.give .mark (s.rest.take 2)
  else if c == '(' || c == '[' || c == '\x7b' then s.readOpening c
  else if c == ')' || c == ']' || c == '\x7d' then s.readClosing c
  else if isPrintable c then s.give .mark [c]
  else s.refuse [c] (badCharacter c)

/-! ## Steps -/

/-- A character that is skipped between tokens. -/
def isGap (c : Char) : Bool := c == ' ' || c == '\t' || c == '\x0c'

/-- Reads the token that begins with the next character. -/
def readToken (s : Lexer) : LexStep :=
  match s.rest with
  | [] => if s.brackets.isEmpty then .finish (s.layoutToken .finish) else s.breakOff s.spot
  | '#' :: _ => .skip (s.toBreak s.rest s.spot)
  | '\n' :: rest =>
    if s.brackets.isEmpty then
      let (t, next) := s.tokenOf .newline []
      .token { t with reached := t.reached + 1 }
        { next with rest := rest, spot := next.spot.read '\n', lineStart := true }
    else .skip { s with rest := rest, spot := s.spot.read '\n' }
  | '\\' :: '\n' :: rest =>
    let spot := (s.spot.read '\\').read '\n'
    if rest.isEmpty then s.breakOff spot else .skip { s with rest := rest, spot := spot.ahead rest }
  | '\\' :: c :: _ => s.strayContinuation ((s.spot.read '\\').read c)
  | c :: _ => match prefixLength? s.rest with
    | some n => s.readString n
    | none =>
      if isDigit c then s.readNumber
      else if isWordChar c then s.readWord
      else if c == '.' && (s.rest.drop 1).head?.any isDigit then s.readNumber
      else s.readMark c

def step (s : Lexer) : LexStep :=
  if s.due < 0 then .token (s.layoutToken .dedent) { s with due := s.due + 1 }
  else if 0 < s.due then .token (s.layoutToken .indent) { s with due := s.due - 1 }
  else if s.lineStart then s.openLine
  else
    let gaps := s.rest.takeWhile isGap
    readToken { s with rest := s.rest.drop gaps.length, spot := s.spot.readAll gaps }

end Lexer

/-- A text read to its end: its tokens, the warnings on the way with the number of tokens before
each, and the reason if reading stopped early. -/
structure Lexed where
  tokens : List Token
  warnings : List (Nat × Warning)
  stop : Option LexStop

/-- Reads on for a number of steps. -/
def lexFrom : Nat → Lexer → Nat → Lexed
  | 0, s, count => ⟨[s.layoutToken .finish], s.warnings.map fun w => (count, w), none⟩
  | n + 1, s, count =>
    let found := s.warnings.map fun w => (count, w)
    let s := { s with warnings := [] }
    let after : Lexed := match s.step with
      | .token t next =>
        let later := lexFrom n next (count + 1)
        { later with tokens := t :: later.tokens }
      | .skip next => lexFrom n next count
      | .finish t => ⟨[t], [], none⟩
      | .stop reason => ⟨[], [], some reason⟩
    { after with warnings := found ++ after.warnings }

/-- Reads a text whose first line has this number. Every step reads a character, opens a line or
gives a block token that was due, so the bound is never met. -/
def lex (text : List Char) (line : Nat) : Lexed :=
  let text := readable text
  lexFrom (4 * text.length + 8) (.start text line) 0

end LiveSketch.Script
