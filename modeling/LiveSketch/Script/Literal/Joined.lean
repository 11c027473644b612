import LiveSketch.Script.Literal.Formatted

/-!
# Strings in a row

Strings that stand in a row are one: all of them text, some with values in it, or all of them bytes.
-/

namespace LiveSketch.Script

/-- A string token taken apart: the letters in front, the characters between its quotes, and the
number of quotes on each side. -/
structure SplitString where
  letters : List Char
  body : List Char
  quotes : Nat

/-- Takes a string token apart. -/
def splitString (text : String) : SplitString :=
  let cs := text.toList
  let letters := cs.takeWhile Char.isAlpha
  let quoted := cs.drop letters.length
  let size := match quoted with
    | a :: b :: c :: _ => if a == b && b == c && 6 ≤ quoted.length then 3 else 1
    | _ => 1
  ⟨letters.map Char.toLower, (quoted.drop size).take (quoted.length - 2 * size), size⟩

/-- What strings in a row come to so far. -/
inductive Joined where
  | nothing
  | text (pieces : List Piece) (isFormatted : Bool)
  | bytes (units : List UInt8)

/-- Adds one string to those before it. -/
def joinString (reader : InnerReader) (span : Span) (before : Joined) (t : Token) :
    StringM Joined := do
  let parts := splitString t.text
  let isRaw := parts.letters.contains 'r'
  let mixed {α : Type} : StringM α := wrongString "cannot mix bytes and nonbytes literals"
  if parts.letters.contains 'b' then
    if parts.body.any fun c => 128 ≤ c.toNat then
      wrongString "bytes can only contain ASCII literal characters"
    let units ← if isRaw then pure (parts.body.map fun c => c.toNat.toUInt8)
      else match decodeBytes parts.body with
        | .error message => wrongString message
        | .ok d =>
          d.odd.forM (warnOfEscape t.line)
          pure d.units
    match before with
    | .nothing => pure (.bytes units)
    | .bytes old => pure (.bytes (old ++ units))
    | .text _ _ => mixed
  else
    let site : FormattedSite := ⟨t, span, isRaw, parts.quotes, reader⟩
    let isFormatted := parts.letters.contains 'f'
    let pieces : StringM (List Piece) :=
      if isFormatted then Prod.fst <$> site.pieces (2 * parts.body.length + 8) 0 parts.body
      else (fun text => [Piece.text text]) <$> site.decode parts.body
    match before with
    | .nothing => return .text (← pieces) isFormatted
    | .text old was =>
      return .text (old ++ (← pieces)) (was || isFormatted)
    | .bytes _ =>
      -- a plain string is decoded before it is refused
      if !isFormatted then discard pieces
      mixed

def stringsNode (reader : InnerReader) (tokens : List Token) : StringM Node := do
  let first := (Part.token (tokens.head?.getD default)).span
  let last := (Part.token (tokens.getLast?.getD default)).span
  let span : Span := ⟨first.line, first.column, last.endLine, last.endColumn⟩
  match ← tokens.foldlM (joinString reader span) .nothing with
  | .nothing => pure (.mk span (.constant (.text "")))
  | .bytes units => pure (.mk span (.constant (.bytes units)))
  | .text pieces true => pure (joinedNode span pieces)
  | .text pieces false =>
    let text := pieces.flatMap fun
      | .text cs => cs
      | .value _ => []
    pure (.mk span (.constant (.text (String.ofList text))))

/-- What string tokens in a row are built into. -/
def buildStrings (reader : InnerReader) (tokens : List Token) : Built :=
  let (result, warnings) := (stringsNode reader tokens).run.run []
  match result with
  | .ok n => .part (.node n) warnings
  | .error (.lastRead message) => .blame (.lastRead message) warnings
  | .error (.inside e) => .fault e warnings

end LiveSketch.Script
