import LiveSketch.Script.Lexer
import Std.Data.HashMap

/-!
# Parsing expressions

A grammar gives each rule a list of alternatives, tried in order until one matches. What a rule came
to at a place is remembered. A text that does not match is read a second time with the alternatives
that only describe faults, so that the fault can be named; a text that none of them describes is
wrong at the last token that the first reading looked at.
-/

namespace LiveSketch.Script

/-- What a match gives: nothing, a token, a node of the tree, or a row. -/
inductive Part where
  | nothing
  | token (t : Token)
  | node (n : Node)
  | row (parts : List Part)
deriving Inhabited

/-- What the patterns in a row gave. -/
abbrev Parts := List Part

/-- What to match over rules `R`. -/
inductive Pattern (R : Type) where
  /-- A token of a kind, with this text if one is given. -/
  | token (kind : TokenKind) (text : Option String)
  | rule (r : R)
  | optional (p : Pattern R)
  /-- As often as it matches, but at least so often. -/
  | many (least : Nat) (p : Pattern R)
  /-- Once or more, with a separator between. -/
  | separated (separator p : Pattern R)
  /-- Matches here, but takes nothing. -/
  | ahead (p : Pattern R)
  /-- Does not match here, and takes nothing. -/
  | notAhead (p : Pattern R)
  /-- From here on no other alternative is tried. -/
  | commit
  /-- A mark that has to follow. -/
  | forced (text : String)
  /-- All in a row; gives the part at a place. -/
  | pick (place : Nat) (ps : List (Pattern R))
  /-- All in a row; gives the row of parts. -/
  | all (ps : List (Pattern R))
  /-- The first that matches. -/
  | either (ps : List (Pattern R))
deriving Inhabited

/-! ## Blame -/

/-- Where a fault lies: at the last token read, on a stretch of bytes, or from bytes to the last
token read. -/
inductive Blame where
  | lastRead (message : String)
  | stretch (message : String) (line column endLine : Int) (endColumn : Option Int)
  | onward (message : String) (line column : Int)
deriving DecidableEq, Repr, Inhabited

/-- Where a match stands: its first token, the last token taken and the last one read. -/
structure Site where
  first : Token
  last : Token
  deriving Inhabited

/-- What an alternative makes of its parts: a part and warnings, a failure of the whole rule, or a
fault. -/
inductive Built where
  | part (p : Part) (warnings : List Warning)
  | none
  | blame (b : Blame) (warnings : List Warning)
  | fault (e : Malformed) (warnings : List Warning)
deriving Inhabited

/-- One way to match a rule. -/
structure Alternative (R : Type) where
  patterns : List (Pattern R)
  build : Site → Parts → Built
  /-- Describes a fault: tried in the second reading only. -/
  hunts : Bool

/-- A rule: its alternatives; and, for a rule that may begin with itself, what may follow such a
beginning, whose part stands in front of the others. -/
structure RuleBody (R : Type) where
  alternatives : List (Alternative R)
  tails : List (Alternative R)
  /-- What was remembered in one mode of reading counts in the other too. -/
  shared : Bool
  /-- Never describes faults, nor do the rules below. -/
  plain : Bool

/-! ## Matching -/

/-- The state of matching. -/
structure ParseState (R : Type) [BEq R] [Hashable R] where
  pos : Nat
  read : Nat
  memo : Std.HashMap (R × Nat × Bool) (Option Part × Nat)
  /-- The warnings so far, each with the number of tokens read before it. -/
  warnings : List (Nat × Warning)

/-- Why matching stopped. After a commitment no other alternative is tried. -/
inductive Mismatch where
  | here (committed : Bool)
  | fault (e : Malformed) (isLexical : Bool)

section Matching

variable {R : Type} [BEq R] [Hashable R]

/-- What is read: the tokens, their warnings and why they end, and the lines from the first one on.
A text inside a string is `inside`: its faults say so, their columns count bytes, and the columns of
its first line are shifted. -/
structure Passage where
  tokens : Array Token
  warnings : List (Nat × Warning)
  stop : Option LexStop
  lines : Array (List Char)
  firstLine : Nat
  shift : Nat
  inside : Bool

abbrev Match (R : Type) [BEq R] [Hashable R] (α : Type) :=
  ExceptT Mismatch (StateM (ParseState R)) α

def mismatch {α : Type} : Match R α := throw (.here false)

/-- The token at a place. Reading past the last token meets the reason why reading stopped. -/
def tokenAt (t : Passage) (k : Nat) : Match R Token := do
  modify fun s => { s with read := max s.read (min (k + 1) (t.tokens.size + 1)) }
  match t.tokens[k]? with
  | some token => pure token
  | none => match t.stop with
    | some stop => throw (.fault stop.error true)
    | none => mismatch

/-- The characters of a line up to a byte, the one the byte lies in included. -/
def charsUpTo (line : List Char) (bytes : Int) : Int :=
  let rec go : List Char → Int → Int → Int
    | [], left, n => if 0 < left then n + 1 else n
    | c :: rest, left, n => if 0 < left then go rest (left - c.utf8Size) (n + 1) else n
  go line bytes 0

/-- The 1-based column of a byte. -/
def Passage.column (t : Passage) (line bytes : Int) : Int :=
  if t.inside then bytes + 1 - t.shift
  else charsUpTo ((t.lines[(line - t.firstLine).toNat]?).getD []) (bytes + 1)

/-- The words of a fault in the text. -/
def Passage.worded (t : Passage) (message : String) : String :=
  if t.inside then "f-string: " ++ message else message

def Passage.faultOf (t : Passage) (read : Nat) (b : Blame) : Malformed :=
  let last : Token := (t.tokens[read - 1]?).getD default
  match b with
  | .lastRead message => match last.column, last.endColumn with
    | some column, some endColumn =>
      ⟨t.worded message, some last.line, some (t.column last.line column), some last.endLine,
        some (t.column last.endLine endColumn), none⟩
    | _, _ => ⟨t.worded message, some last.line, some (last.reached - t.shift : Int), none, none,
        none⟩
  | .stretch message line column endLine endColumn =>
    -- both columns are counted in the first line
    ⟨t.worded message, some line, some (t.column line column), some endLine,
      endColumn.map (t.column line), none⟩
  | .onward message line column =>
    ⟨t.worded message, some line, some (t.column line column), some last.endLine,
      some last.reached, none⟩

/-- The last token before a place that is no layout. -/
def Passage.lastBefore (t : Passage) (place : Nat) : Token :=
  let isText (k : Token) : Bool :=
    !(k.kind == .newline || k.kind == .indent || k.kind == .dedent || k.kind == .finish)
  let rec go : Nat → Token
    | 0 => (t.tokens[0]?).getD default
    | n + 1 => match t.tokens[n]? with
      | some k => if isText k then k else go n
      | none => go n
  go place

/-- Tries a match and goes back when it does not. -/
def attempt {α : Type} (x : Match R α) : Match R (Option α) := fun s =>
  match x s with
  | (.ok a, after) => (.ok (some a), after)
  | (.error (.here _), after) => (.ok none, { after with pos := s.pos })
  | (.error e, after) => (.error e, after)

def takeToken (t : Passage) (fits : Token → Bool) : Match R Token := do
  let pos := (← get).pos
  let token ← tokenAt t pos
  if fits token then
    modify fun s => { s with pos := pos + 1 }
    pure token
  else mismatch

/-- Notes warnings, unless they have been given in the first reading. -/
def noteWarnings (hunting : Bool) (warnings : List Warning) : Match R Unit :=
  if hunting then pure ()
  else modify fun s => { s with warnings := s.warnings ++ warnings.map fun w => (s.read, w) }

def finishBuild (t : Passage) (hunting : Bool) (start : Nat) (build : Site → Parts → Built)
    (parts : List Part) : Match R (Option Part) := do
  let s ← get
  let site : Site := ⟨(t.tokens[start]?).getD default, t.lastBefore s.pos⟩
  match build site parts with
  | .part p warnings =>
    noteWarnings hunting warnings
    pure (some p)
  | .none => pure none
  | .blame b warnings =>
    noteWarnings hunting warnings
    throw (.fault (t.faultOf s.read b) false)
  | .fault e warnings =>
    noteWarnings hunting warnings
    throw (.fault e false)

mutual

/-- Matches a rule, or recalls what it came to here. -/
def matchRule (t : Passage) (g : R → RuleBody R) : Nat → Bool → R → Match R Part
  | 0, _, _ => mismatch
  | fuel + 1, hunting, r => do
    let body := g r
    let hunting := hunting && !body.plain
    let pos := (← get).pos
    let key := (r, pos, hunting && !body.shared)
    match (← get).memo[key]? with
    | some (some part, stop) =>
      modify fun s => { s with pos := stop }
      pure part
    | some (none, _) => mismatch
    | none =>
      let found ← attempt do
        let first ← matchAlternatives t g fuel hunting pos [] body.alternatives
        matchTails t g fuel hunting pos first body.tails
      let stop := (← get).pos
      modify fun s => { s with memo := s.memo.insert key (found, stop) }
      match found with
      | some part => pure part
      | none => mismatch

/-- Matches the first alternative that fits. `front` are the parts in front of its own. -/
def matchAlternatives (t : Passage) (g : R → RuleBody R) :
    Nat → Bool → Nat → List Part → List (Alternative R) → Match R Part
  | 0, _, _, _, _ => mismatch
  | _, _, _, _, [] => mismatch
  | fuel + 1, hunting, start, front, a :: rest => do
    if a.hunts && !hunting then matchAlternatives t g fuel hunting start front rest
    else
      let pos := (← get).pos
      let found : Option (Option Part) ← fun s =>
        match (do
          let parts ← matchRow t g fuel hunting a.patterns
          finishBuild t hunting start a.build (front ++ parts) : Match R (Option Part)) s with
        | (.ok p, after) => (.ok (some p), after)
        | (.error (.here true), after) => (.ok (some none), after)
        | (.error (.here false), after) => (.ok none, { after with pos := pos })
        | (.error e, after) => (.error e, after)
      match found with
      | some (some part) => pure part
      | some none => mismatch
      | none => matchAlternatives t g fuel hunting start front rest

/-- Goes on with a rule that began with itself. -/
def matchTails (t : Passage) (g : R → RuleBody R) :
    Nat → Bool → Nat → Part → List (Alternative R) → Match R Part
  | 0, _, _, _, _ => mismatch
  | _, _, _, left, [] => pure left
  | fuel + 1, hunting, start, left, tails => do
    match ← attempt (matchAlternatives t g fuel hunting start [left] tails) with
    | some part => matchTails t g fuel hunting start part tails
    | none => pure left

def matchRow (t : Passage) (g : R → RuleBody R) :
    Nat → Bool → List (Pattern R) → Match R (List Part)
  | 0, _, _ => mismatch
  | _, _, [] => pure []
  | fuel + 1, hunting, .commit :: rest => fun s =>
    match matchRow t g fuel hunting rest s with
    | (.error (.here _), after) => (.error (.here true), after)
    | other => other
  | fuel + 1, hunting, p :: rest => do
    let part ← matchOne t g fuel hunting p
    pure (part :: (← matchRow t g fuel hunting rest))

def matchOne (t : Passage) (g : R → RuleBody R) : Nat → Bool → Pattern R → Match R Part
  | 0, _, _ => mismatch
  | fuel + 1, hunting, p =>
    match p with
    | .token kind text =>
      Part.token <$> takeToken t fun k => k.kind == kind && text.all (k.text == ·)
    | .rule r => matchRule t g fuel hunting r
    | .optional p => do
      match ← attempt (matchOne t g fuel hunting p) with
      | some part => pure part
      | none => pure .nothing
    | .many least p => do
      let parts ← matchMany t g fuel hunting p
      if parts.length < least then mismatch else pure (.row parts)
    | .separated separator p => do
      let first ← matchOne t g fuel hunting p
      let more ← matchMany t g fuel hunting (.pick 1 [separator, p])
      pure (.row (first :: more))
    | .ahead p => do
      let pos := (← get).pos
      let part ← matchOne t g fuel hunting p
      modify fun s => { s with pos := pos }
      pure part
    | .notAhead p => do
      let pos := (← get).pos
      match ← attempt (matchOne t g fuel hunting p) with
      | some _ =>
        modify fun s => { s with pos := pos }
        mismatch
      | none => pure .nothing
    | .commit => pure .nothing
    | .forced text => do
      let s ← get
      let token ← tokenAt t s.pos
      if token.isMark text then
        modify fun s => { s with pos := s.pos + 1 }
        pure (.token token)
      else
        let blame := match token.column, token.endColumn with
          | some column, some endColumn =>
            Blame.stretch ("expected '" ++ text ++ "'") token.line column token.endLine
              (some endColumn)
          | _, _ => .stretch ("expected '" ++ text ++ "'") token.line (-1) token.endLine none
        throw (.fault (t.faultOf (← get).read blame) false)
    | .pick place ps => do
      let parts ← matchRow t g fuel hunting ps
      pure ((parts[place]?).getD .nothing)
    | .all ps => Part.row <$> matchRow t g fuel hunting ps
    | .either ps => matchEither t g fuel hunting ps

/-- Matches a pattern as often as it fits and takes something. -/
def matchMany (t : Passage) (g : R → RuleBody R) :
    Nat → Bool → Pattern R → Match R (List Part)
  | 0, _, _ => pure []
  | fuel + 1, hunting, p => do
    let pos := (← get).pos
    match ← attempt (matchOne t g fuel hunting p) with
    | some part =>
      if (← get).pos = pos then pure [part]
      else pure (part :: (← matchMany t g fuel hunting p))
    | none => pure []

/-- Matches the first pattern that fits. -/
def matchEither (t : Passage) (g : R → RuleBody R) :
    Nat → Bool → List (Pattern R) → Match R Part
  | 0, _, _ => mismatch
  | _, _, [] => mismatch
  | fuel + 1, hunting, p :: rest => do
    match ← attempt (matchOne t g fuel hunting p) with
    | some part => pure part
    | none => matchEither t g fuel hunting rest

end

/-! ## Reading a text -/

/-- What reading a text gives: its tree or the fault in it, and the warnings on the way. -/
structure Reading where
  ended : Except Malformed Node
  warnings : List Warning

/-- The fault of a text that matches no description: at the last token that was looked at. -/
def genericFault (t : Passage) (last : Token) (read : Nat) : Malformed :=
  match last.kind with
  | .indent => t.faultOf read (.lastRead "unexpected indent")
  | .dedent => t.faultOf read (.lastRead "unexpected unindent")
  | _ => match last.column, last.endColumn with
    | some column, some endColumn =>
      t.faultOf read (.stretch "invalid syntax" last.line column last.endLine (some endColumn))
    | _, _ => t.faultOf read (.stretch "invalid syntax" last.line (-1) last.endLine none)

/-- A fault gives way to a refused character further on, and to a bracket that was opened on an
earlier line and never closed. -/
def overruled (t : Passage) (read : Nat) (e : Malformed) : Malformed :=
  match t.stop with
  | none => e
  | some stop =>
    if stop.refused then stop.error
    else match stop.bracket with
      | some b =>
        let last : Token := (t.tokens[read - 1]?).getD default
        if b.line < last.line then Lexer.neverClosed b else e
      | none => e

/-- The warnings of tokens and of matching in the order of reading. -/
def inReadingOrder : List (Nat × Warning) → List (Nat × Warning) → List Warning
  | [], found => found.map Prod.snd
  | lexical, [] => lexical.map Prod.snd
  | (count, w) :: lexical, (read, v) :: found =>
    if count < read then w :: inReadingOrder lexical ((read, v) :: found)
    else v :: inReadingOrder ((count, w) :: lexical) found

/-- Reads a text by a rule. A fault that the first reading names itself is looked for up to the end
of the text, so all warnings of its tokens are given. -/
def readBy (t : Passage) (g : R → RuleBody R) (start : R) : Reading :=
  let fuel := 400 * (t.tokens.size + 8)
  let (first, s) := (matchRule t g fuel false start).run.run ⟨0, 0, {}, []⟩
  let seen := inReadingOrder (t.warnings.filter fun w => w.1 < s.read) s.warnings
  match first with
  | .ok (.node n) => ⟨.ok n, seen⟩
  | .ok _ => ⟨.error default, seen⟩
  | .error (.fault e true) => ⟨.error e, seen⟩
  | .error (.fault e false) =>
    ⟨.error (overruled t s.read e), inReadingOrder t.warnings s.warnings⟩
  | .error (.here _) =>
    let last : Token := (t.tokens[s.read - 1]?).getD default
    let (second, after) := (matchRule t g fuel true start).run.run { s with pos := 0, memo := {} }
    let seen := inReadingOrder (t.warnings.filter fun w => w.1 < s.read) after.warnings
    match second with
    | .error (.fault e true) => ⟨.error e, seen⟩
    | .error (.fault e false) => ⟨.error (overruled t after.read e), seen⟩
    | _ => ⟨.error (overruled t after.read (genericFault t last after.read)), seen⟩

end Matching

end LiveSketch.Script
