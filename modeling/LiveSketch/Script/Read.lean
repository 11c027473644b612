import LiveSketch.Script.Grammar.Pattern
import LiveSketch.Script.Grammar.Statement
import LiveSketch.Script.Grammar.Target
import LiveSketch.Script.Literal.Joined

/-!
# Reading a script

The whole grammar, and the tree of a text by it. Expressions inside of strings are read by the same
grammar; as every string in such an expression needs other quotes than the string around it, they
are never many levels deep.
-/

namespace LiveSketch.Script

/-- The grammar, with a reader for the expressions inside of strings. -/
def grammarWith (reader : InnerReader) : Rule → RuleBody Rule
  | .statement r => statementRule r
  | .parameter r isLambda => parameterRule isLambda r
  | .expression r => expressionRule (buildStrings reader) r
  | .target r => targetRule r
  | .pattern r => patternRule r

def linesOf (text : List Char) : Array (List Char) :=
  let (others, first) := text.foldr (fun c (lines, line) =>
    if c == '\n' then (line :: lines, []) else (lines, c :: line)) (([], []) : List (List Char) × _)
  -- the fold meets the end first, so what it holds last is the first line
  (first :: others).toArray

/-- A token of an expression inside of a string, with its columns on the first line shifted. -/
def shiftToken (line shift : Nat) (t : Token) : Token :=
  if t.endLine = line then
    { t with column := t.column.map (· + shift), endColumn := t.endColumn.map (· + shift) }
  else t

def textToRead (text : List Char) (line shift : Nat) (inside : Bool) : Passage :=
  let lexed := lex text line
  { tokens := (lexed.tokens.map fun t => if inside then shiftToken line shift t else t).toArray
    warnings := lexed.warnings
    stop := lexed.stop
    lines := linesOf (unifyBreaks text)
    firstLine := line
    shift := shift
    inside := inside }

/-- Reads an expression inside of a string, so many strings deep. -/
def readInner : Nat → InnerReader
  | 0, _, _, _ => ⟨.error default, []⟩
  | depth + 1, text, line, shift =>
    readBy (textToRead text line shift true) (grammarWith (readInner depth)) (.expression .starRow)

/-- How deep strings can be inside of each other: there are four kinds of quotes, and each string may
have a value in the format of a value. -/
def maxStringDepth : Nat := 16

def readScript (text : String) : Reading :=
  readBy (textToRead text.toList 1 0 false) (grammarWith (readInner maxStringDepth))
    (.statement .file)

end LiveSketch.Script
