import LiveSketch.Compile.Program

/-!
# Tokens

A script is read as a row of tokens. Each knows the line it starts on, its byte columns, and how far
its line had been read when it was complete. Layout tokens have no text and no columns.
-/

namespace LiveSketch.Script

/-- What a token is. Marks are operators, brackets and other signs. -/
inductive TokenKind where
  | name | number | string | keyword | mark | newline | indent | dedent | finish
deriving DecidableEq, Repr, Inhabited

/-- A token. -/
structure Token where
  kind : TokenKind
  text : String
  line : Nat
  column : Option Nat
  endLine : Nat
  endColumn : Option Nat
  /-- The characters of the last line read so far. -/
  reached : Nat
  /-- The number of brackets open after the token. -/
  depth : Nat
deriving DecidableEq, Repr, Inhabited

/-- The words that are no names. -/
def keywords : List String :=
  ["False", "None", "True", "and", "as", "assert", "async", "await", "break", "class", "continue",
    "def", "del", "elif", "else", "except", "finally", "for", "from", "global", "if", "import",
    "in", "is", "lambda", "nonlocal", "not", "or", "pass", "raise", "return", "try", "while",
    "with", "yield"]

/-- The words that are keywords only in some places. -/
def softKeywords : List String := ["_", "case", "match"]

namespace Token

def isKeyword (t : Token) (word : String) : Bool := t.kind == .keyword && t.text == word

def isMark (t : Token) (text : String) : Bool := t.kind == .mark && t.text == text

end Token

/-! ## Places in a text being read -/

/-- How far a text has been read: the line, and the bytes and characters of it. A line that has been
read to its end counts as the current one until a character of the next is read. -/
structure Spot where
  line : Nat
  bytes : Nat
  chars : Nat
  fresh : Bool
deriving DecidableEq, Repr, Inhabited

namespace Spot

/-- Before the first character of a text whose first line has this number. -/
def before (line : Nat) : Spot := ⟨line - 1, 0, 0, true⟩

/-- Where the next character stands, if there is one. -/
def ahead (p : Spot) (rest : List Char) : Spot :=
  if p.fresh && !rest.isEmpty then ⟨p.line + 1, 0, 0, false⟩ else p

def read (p : Spot) (c : Char) : Spot :=
  let p := if p.fresh then ⟨p.line + 1, 0, 0, false⟩ else p
  ⟨p.line, p.bytes + c.utf8Size, p.chars + 1, c == '\n'⟩

def readAll (p : Spot) (cs : List Char) : Spot := cs.foldl read p

end Spot

/-! ## Line breaks -/

/-- The text with every kind of line break written as a line feed. -/
def unifyBreaks : List Char → List Char
  | [] => []
  | '\r' :: '\n' :: rest => '\n' :: unifyBreaks rest
  | '\r' :: rest => '\n' :: unifyBreaks rest
  | c :: rest => c :: unifyBreaks rest

/-- The text as it is read: line feeds alone break lines, and the last line has one. -/
def readable (text : List Char) : List Char :=
  let text := unifyBreaks text
  if text.getLast? = some '\n' then text else text ++ ['\n']

end LiveSketch.Script
