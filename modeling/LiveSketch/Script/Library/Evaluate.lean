import LiveSketch.Script.Code.Statement
import LiveSketch.Script.Library.Core
import LiveSketch.Script.Read

/-!
# Texts as code

A running script can have a text read and carried out, as an expression or as a row of statements.
-/

namespace LiveSketch.Script

namespace Library

open Run

/-- The file that such a text is said to come from. -/
def evaluatedFile : String := "<string>"

/-- The name under which the value of an expression is kept: no script can write it. -/
def resultName : String := ".result"

/-- Raises the fault of a text of a file that is not in the language. -/
def raiseMalformed {α : Type} (file : String) (e : Malformed) (line : String) : Run α := do
  let number (n : Option Int) : Value := match n with
    | some n => .int n
    | none => .none
  let place := Value.tuple [.text file, number e.line, number e.column, .text line,
    number e.endLine, number e.endColumn]
  raiseWith (malformedType e.message) [.text e.message, place]
where
  /-- The type of fault for words about a text. -/
  malformedType (words : String) : String :=
    if words.startsWith "inconsistent use of tabs" then "TabError"
    else if words.startsWith "unexpected indent" || words.startsWith "expected an indented" ||
        words.startsWith "unindent" || words.startsWith "unexpected unindent" then "IndentationError"
    else "SyntaxError"

def treeOf (file text : String) : Run Node := do
  if text.toList.contains '\x00' then wrongValue "source code string cannot contain null bytes"
  match (readScript text).ended with
  | .ok tree => match (checkTree tree).ended with
    | .ok () => pure tree
    | .error (.malformed e) => raiseMalformed file e text
    | .error _ => pure tree
  | .error e => raiseMalformed file e text

/-- Carries out a tree with tables of names. -/
def carryOut (file : String) (tree : Node) (globals locals : Nat) : Run Unit := do
  match scopesOf tree with
  | .error e => raiseMalformed file e ""
  | .ok scope =>
    let codes := codesAfter (← getThe World).codes scope tree file
    modifyThe World fun w => { w with codes := codes }
    let number := codes.size - 1
    let a ← activationOf number (codes.getD number default) [] [] (some locals) globals
    discard (perform a)

/-- The tables of names that are given to such a text. -/
def tablesOf (args : List Value) : Run (Nat × Nat) := do
  match args with
  | [.ref g, .ref l] => pure (g, l)
  | [.ref g, .none] => pure (g, g)
  | [.none, .ref l] => return ((← getThe World).globals, l)
  | [.ref g] => pure (g, g)
  | _ => do
    let g := (← getThe World).globals
    pure (g, g)

/-- The tree of a text that is one expression: it keeps the value under a name. -/
def expressionTree (file text : String) : Run Node := do
  let text := String.ofList (text.toList.dropWhile fun c => c == ' ' || c == '\t')
  if text.isEmpty then
    raiseMalformed file ⟨"invalid syntax", some 0, some 0, some 0, some 0, none⟩ text
  let tree ← treeOf file text
  match tree.form with
  | .module [.mk span (.expression v)] =>
    let target := Node.mk v.span (.name resultName .store)
    pure (.mk tree.span (.module [.mk span (.assign [target] v)]))
  | _ => raiseMalformed file ⟨"invalid syntax", some 1, some 1, some 1, some 1, none⟩ text

def evaluate (file text : String) (globals locals : Nat) : Run Value := do
  carryOut file (← expressionTree file text) globals locals
  let result := (← tableAt locals).name? resultName
  changeTable locals (·.erase (.text resultName))
  pure (result.getD .none)

/-! ## Texts kept for later -/

def textModes : List String := ["exec", "eval", "single"]

/-- A text that has been found to be in the language, its file, and how it is to be carried out. -/
def keptText? (v : Value) : Run (Option (String × String × Bool)) := do
  match ← isOfType v "code", ← dataOf v with
  | true, .parts [.text text, .text file, .bool isValue] => pure (some (text, file, isValue))
  | _, _ => pure none

def keepText (text file mode : String) : Run Value := do
  if !textModes.contains mode then wrongValue "compile() mode must be 'exec', 'eval' or 'single'"
  let isValue := mode == "eval"
  discard (if isValue then expressionTree file text else treeOf file text)
  new "code" (.parts [.text text, .text file, .bool isValue])

/-- Carries out a text, or one that was kept; gives the value of an expression. -/
def carryOutValue (name : String) (isValue : Bool) (args : List Value) : Run Value := do
  let source := args.getD 0 .none
  let (text, file, isValue) ← match ← keptText? source with
    | some kept => pure kept
    | none => do
      let text ← textArgument source (name ++ "() arg 1 must be a string, bytes or code object, not ")
      pure (text, evaluatedFile, isValue)
  let (g, l) ← tablesOf (args.drop 1)
  if isValue then
    let value ← evaluate file text g l
    pure (if name == "eval" then value else .none)
  else
    carryOut file (← treeOf file text) g l
    nothing

def evaluateShelf : Shelf :=
  [some_ "eval" 1 3 (carryOutValue "eval" true), some_ "exec" 1 3 (carryOutValue "exec" false),
    withNames "compile" ["source", "filename", "mode", "flags", "dont_inherit", "optimize"] 3 []
      fun args => do
        let text (k : Nat) (words : String) : Run String := textArgument (Value.ofOption (args[k]?).join) words
        keepText (← text 0 "compile() arg 1 must be a string, bytes or AST object, not ")
          (← text 1 "expected str, bytes or os.PathLike object, not ")
          (← text 2 "compile() argument 'mode' must be str, not ")]

end Library

end LiveSketch.Script
