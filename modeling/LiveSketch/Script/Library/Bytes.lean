import LiveSketch.Script.Library.Text

/-!
# Bytes

Rows of bytes, as characters of the same numbers. Only those below 128 are letters, digits or blanks.
-/

namespace LiveSketch.Script

namespace Library

open Run

/-! ## Making bytes -/

def byteOf (v : Value) : Run UInt8 := do
  let n ← asIndex v
  if n < 0 || 255 < n then wrongValue "bytes must be in range(0, 256)"
  pure (UInt8.ofNat n.toNat)

def makeBytes (args : List (Option Value)) : Run Value := do
  match args with
  | [none, _, _] => pure (.bytes [])
  | [some v, encoding, errors] =>
    match ← unwrap v with
    | .bytes bs => pure (.bytes bs)
    | .text s => match encoding with
      | none => wrongType "string argument without an encoding"
      | some e => do
        let e ← textArgument e "bytes() argument 'encoding' must be str, not "
        let errors ← match errors with
          | some x => textArgument x "bytes() argument 'errors' must be str, not "
          | none => pure "strict"
        return .bytes (← troubled (bytesOfText s e errors))
    | _ =>
      if encoding.isSome then wrongType "encoding without a string argument"
      match ← index? v with
      | some n =>
        if n < 0 then wrongValue "negative count"
        allowRow 1 n
        pure (.bytes (List.replicate n.toNat 0))
      | none => do
        let vs ← orElse (itemsOf v) fun fault => do
          if ← isOfType fault "TypeError" then
            wrongType ("cannot convert '" ++ (← typeName v) ++ "' object to bytes")
          else raiseFault fault
        return .bytes (← vs.mapM byteOf)
  | _ => pure (.bytes [])

/-! ## Bytes as characters -/

/-- Bytes as characters of the same numbers. -/
def byteChars (bs : List UInt8) : List Char := bs.map fun b => Char.ofNat b.toNat

/-- Characters as bytes of the same numbers. -/
def charBytes (cs : List Char) : Value := .bytes (cs.map fun c => UInt8.ofNat c.toNat)

def isByteBlank (c : Char) : Bool := c == ' ' || (0x09 ≤ c.toNat && c.toNat ≤ 0x0D)

/-- The characters of an argument that must be bytes. -/
def byteArgument (v : Value) : Run (List Char) := do
  match ← bytesOf? v with
  | some bs => pure (byteChars bs)
  | none => wrongType ("a bytes-like object is required, not '" ++ (← typeName v) ++ "'")

/-- The characters of an argument that may also be the number of one byte. -/
def partArgument (v : Value) : Run (List Char) := do
  match ← index? v with
  | some n =>
    if n < 0 || 255 < n then wrongValue "byte must be in range(0, 256)"
    pure [Char.ofNat n.toNat]
  | none => match ← bytesOf? v with
    | some bs => pure (byteChars bs)
    | none =>
      wrongType ("argument should be integer or bytes-like object, not '" ++ (← typeName v) ++ "'")

def bytesMethod (name : String) (least most : Nat) (f : List Char → List Value → Run Value) :
    String × Native :=
  methodOf ("bytes." ++ name) least most fun self args => do
    match ← bytesOf? self with
    | some bs => f (byteChars bs) args
    | none => wrongType ("descriptor '" ++ name ++ "' for 'bytes' objects doesn't apply to a '" ++
        (← typeName self) ++ "' object")

/-- Two digits to the base of sixteen for each byte. -/
def hexOf (bs : List UInt8) (sep : String) : String :=
  sep.intercalate (bs.map fun b => hexText 2 b.toNat)

/-! ## Methods -/

def trimmedBytes (name : String) (start stop : Bool) : String × Native :=
  bytesMethod name 0 1 fun cs args => do
    let p : Char → Bool ← match args with
      | [] | [.none] => pure isByteBlank
      | v :: _ => do
        let all ← byteArgument v
        pure fun c => all.contains c
    let cs := if start then Pieces.trimStart p cs else cs
    pure (charBytes (if stop then Pieces.trimEnd p cs else cs))

/-- The pieces of bytes between separators. -/
def splitBytes (name : String) (bySeparator : List Char → Nat → List Char → List (List Char))
    (byBlanks : Nat → List Char → List (List Char)) : String × Native :=
  methodNames ("bytes." ++ name) ["sep", "maxsplit"] 0 [] fun self args => do
    let cs ← byteArgument self
    let cuts ← timesOf (args[1]?).join (cs.length + 1)
    let pieces ← match Value.ofOption (args[0]?).join with
      | .none => pure (byBlanks cuts cs)
      | sep => do
        let sep ← byteArgument sep
        if sep.isEmpty then wrongValue "empty separator"
        pure (bySeparator sep cuts cs)
    listOf (pieces.map charBytes)

def searchBytes (name : String) (search : List Char → List Char → Option Nat) (needed : Bool) :
    String × Native :=
  bytesMethod name 1 3 fun cs args => do
    let part ← partArgument (args.getD 0 .none)
    let found := (← partOf cs (args.drop 1)).bind fun (start, inner) =>
      (search part inner).map (· + start)
    match found with
    | some k => pure (.int k)
    | none => if needed then wrongValue "subsection not found" else pure (.int (-1))

/-- Whether a part of bytes starts or ends with others. -/
def edgeBytes (name : String) (test : List Char → List Char → Bool) : String × Native :=
  bytesMethod name 1 3 fun cs args => do
    let edges ← match ← unwrap (args.getD 0 .none) with
      | .bytes bs => pure [byteChars bs]
      | .tuple vs => vs.mapM byteArgument
      | _ => wrongType (name ++ " first arg must be bytes or a tuple of bytes, not " ++
          (← typeName (args.getD 0 .none)))
    match ← partOf cs (args.drop 1) with
    | none => pure (.bool false)
    | some (_, inner) => pure (.bool (edges.any fun e => test e inner))

def filledBytes (name : String) (before : Nat → Nat → Nat) : String × Native :=
  bytesMethod name 1 2 fun cs args => do
    let width := (← asSize (args.getD 0 .none)).toNat
    allowRow 1 width
    let fill ← match args[1]? with
      | none => pure ' '
      | some v => match ← bytesOf? v with
        | some [b] => pure (Char.ofNat b.toNat)
        | _ => wrongType (name ++ "() argument 2 must be a byte string of length 1, not " ++
            (← typeName v))
    let missing := width - cs.length
    let left := before missing width
    pure (charBytes (List.replicate left fill ++ cs ++ List.replicate (missing - left) fill))

/-- Bytes cut into three at a part of them. -/
def partitionBytes (name : String) (search : List Char → List Char → Option Nat) (atEnd : Bool) :
    String × Native :=
  bytesMethod name 1 1 fun cs args => do
    let sep ← byteArgument (args.getD 0 .none)
    if sep.isEmpty then wrongValue "empty separator"
    pure (.tuple (match search sep cs with
      | some k => [charBytes (cs.take k), charBytes sep, charBytes (cs.drop (k + sep.length))]
      | none => if atEnd then [.bytes [], .bytes [], charBytes cs] else [charBytes cs, .bytes [], .bytes []]))

/-- A letter, digit or case of bytes. -/
def bytesKind (name : String) (test : List Char → Value) : String × Native :=
  bytesMethod name 0 0 fun cs _ => pure (test cs)

/-- Words with a capital first letter and small others. -/
def titledChars (inWord : Bool) : List Char → List Char
  | [] => []
  | c :: rest =>
    if c.isAlpha then (if inWord then c.toLower else c.toUpper) :: titledChars true rest
    else c :: titledChars false rest

/-- Capitals stand at the start of words only, and there is one. -/
def isTitled (cs : List Char) : Bool := cs.any Char.isAlpha && titledChars false cs == cs

/-- The methods of bytes that look at letters. -/
def bytesKindShelf : Shelf :=
  [bytesKind "isalpha" (allChars Char.isAlpha), bytesKind "isdigit" (allChars Char.isDigit),
    bytesKind "isalnum" (allChars Char.isAlphanum), bytesKind "isspace" (allChars isByteBlank),
    bytesKind "isascii" fun cs => .bool (cs.all fun c => c.toNat < 0x80),
    bytesKind "isupper" (allCased Char.isUpper Char.isLower),
    bytesKind "islower" (allCased Char.isLower Char.isUpper),
    bytesKind "istitle" fun cs => .bool (isTitled cs),
    bytesKind "upper" fun cs => charBytes (cs.map Char.toUpper),
    bytesKind "lower" fun cs => charBytes (cs.map Char.toLower),
    bytesKind "title" fun cs => charBytes (titledChars false cs),
    bytesKind "swapcase" fun cs =>
      charBytes (cs.map fun c => if c.isUpper then c.toLower else c.toUpper),
    bytesKind "capitalize" fun cs => charBytes (match cs with
      | c :: rest => c.toUpper :: rest.map Char.toLower
      | [] => [])]

/-- The bytes that pairs of digits to the base of sixteen stand for, or the place of a wrong one. -/
def bytesOfHex (place : Nat) : List Char → Except Nat (List UInt8)
  | [] => .ok []
  | c :: rest =>
    if isBlank c then bytesOfHex (place + 1) rest
    else match digitIn? 16 c, rest with
      | none, _ => .error place
      | some _, [] => .error (place + 1)
      | some high, d :: rest => match digitIn? 16 d with
        | none => .error (place + 1)
        | some low => (bytesOfHex (place + 2) rest).map (UInt8.ofNat (16 * high + low) :: ·)

/-- The methods of bytes that find, cut, join and fill. -/
def bytesPartShelf : Shelf :=
  [trimmedBytes "strip" true true, trimmedBytes "lstrip" true false, trimmedBytes "rstrip" false true,
    splitBytes "split" Pieces.split (Pieces.wordsBy isByteBlank),
    splitBytes "rsplit" Pieces.splitLast (Pieces.wordsLastBy isByteBlank),
    methodNames "bytes.splitlines" ["keepends"] 0 [] fun self args => do
      let keep ← truth (((args[0]?).join).getD (.bool false))
      let isEnd (c : Char) : Bool := c == '\n' || c == '\r'
      listOf ((Pieces.linesBy isEnd keep [] (← byteArgument self)).map charBytes),
    searchBytes "find" Pieces.find false, searchBytes "rfind" Pieces.findLast false,
    searchBytes "index" Pieces.find true, searchBytes "rindex" Pieces.findLast true,
    bytesMethod "count" 1 3 fun cs args => do
      let part ← partArgument (args.getD 0 .none)
      pure (.int (match ← partOf cs (args.drop 1) with
        | some (_, inner) => Pieces.count part inner
        | none => 0)),
    edgeBytes "startswith" fun e cs => e.isPrefixOf cs,
    edgeBytes "endswith" fun e cs => e.isSuffixOf cs,
    bytesMethod "replace" 2 3 fun cs args => do
      let part ← byteArgument (args.getD 0 .none)
      let other ← byteArgument (args.getD 1 .none)
      pure (charBytes (Pieces.replace part other (← timesOf args[2]? (cs.length + 1)) cs)),
    filledBytes "ljust" fun _ _ => 0, filledBytes "rjust" fun missing _ => missing,
    filledBytes "center" fun missing width => missing / 2 + (missing % 2) * (width % 2),
    bytesMethod "zfill" 1 1 fun cs args => do
      let width := (← asSize (args.getD 0 .none)).toNat
      allowRow 1 width
      let zeros := List.replicate (width - cs.length) '0'
      pure (charBytes (match cs with
        | c :: rest => if c == '+' || c == '-' then c :: zeros ++ rest else zeros ++ cs
        | [] => zeros)),
    partitionBytes "partition" Pieces.find false,
    partitionBytes "rpartition" Pieces.findLast true,
    methodNames "bytes.expandtabs" ["tabsize"] 0 [] fun self args => do
      let size ← asSmall (((args[0]?).join).getD (.int 8))
      pure (charBytes (Pieces.expandTabs size.toNat 0 (← byteArgument self))),
    bytesMethod "removeprefix" 1 1 fun cs args => do
      let e ← byteArgument (args.getD 0 .none)
      pure (charBytes (if e.isPrefixOf cs then cs.drop e.length else cs)),
    bytesMethod "removesuffix" 1 1 fun cs args => do
      let e ← byteArgument (args.getD 0 .none)
      pure (charBytes (if !e.isEmpty && e.isSuffixOf cs then cs.take (cs.length - e.length) else cs)),
    bytesMethod "join" 1 1 fun cs args => do
      let vs ← orElse (itemsOf (args.getD 0 .none)) fun fault => do
        if ← isOfType fault "TypeError" then wrongType "can only join an iterable" else raiseFault fault
      let parts ← (vs.zip (List.range vs.length)).mapM fun (v, k) => do
        match ← bytesOf? v with
        | some bs => pure (byteChars bs)
        | none => wrongType ("sequence item " ++ toString k ++ ": expected a bytes-like object, " ++
            (← typeName v) ++ " found")
      pure (charBytes (List.intercalate cs parts))]

def bytesShelf : Shelf :=
  [withNames "bytes" ["source", "encoding", "errors"] 0 [] makeBytes,
    methodNames "bytes.decode" ["encoding", "errors"] 0 [] fun self args => do
      let bs := (← bytesOf? self).getD []
      let encoding ← textArgument (((args[0]?).join).getD (.text "utf-8"))
        "decode() argument 'encoding' must be str, not "
      let errors ← textArgument (((args[1]?).join).getD (.text "strict"))
        "decode() argument 'errors' must be str, not "
      return .text (← troubled (textOfBytes bs encoding errors)),
    methodOf "bytes.hex" 0 1 fun self args => do
      let sep ← match args with
        | [v] => textArgument v "sep must be str or bytes, not "
        | _ => pure ""
      return .text (hexOf ((← bytesOf? self).getD []) sep),
    some_ "bytes.fromhex" 2 2 fun args => do
      match bytesOfHex 0 (← charsOf (args.getD 1 .none) "fromhex() argument must be str, not ") with
      | .ok bs => pure (.bytes bs)
      | .error place =>
        wrongValue ("non-hexadecimal number found in fromhex() arg at position " ++ toString place)] ++
  bytesKindShelf ++ bytesPartShelf

end Library

end LiveSketch.Script
