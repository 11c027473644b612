import LiveSketch.Script.Library.Template
import LiveSketch.Script.Value.Encoding
import LiveSketch.Text.Pieces
import LiveSketch.Text.Printable
import LiveSketch.Text.Uppercase

/-!
# Texts and bytes

How texts and bytes are made, and their methods.
-/

namespace LiveSketch.Script

namespace Library

open Run

/-! ## Arguments -/

def textMethod (name : String) (least most : Nat) (f : List Char → List Value → Run Value) :
    String × Native :=
  methodOf ("str." ++ name) least most fun self args => do
    match ← unwrap self with
    | .text s => f s.toList args
    | _ => wrongType ("descriptor '" ++ name ++ "' for 'str' objects doesn't apply to a '" ++
        (← typeName self) ++ "' object")

/-- A method of texts without arguments. -/
def textMethod0 (name : String) (f : List Char → Value) : String × Native :=
  method0 ("str." ++ name) fun self => do
    match ← unwrap self with
    | .text s => pure (f s.toList)
    | _ => wrongType ("descriptor '" ++ name ++ "' for 'str' objects doesn't apply to a '" ++
        (← typeName self) ++ "' object")

/-- The characters of an argument that must be a text. -/
def charsOf (v : Value) (words : String) : Run (List Char) := do
  return (← textArgument v words).toList

/-- A bound of a part of a row, counted from the end if it is negative. -/
def partBound (length : Nat) (v : Option Value) (default_ : Nat) : Run Nat := do
  match v with
  | none | some .none => pure default_
  | some v =>
    match ← index? v with
    | none =>
      wrongType "slice indices must be integers or None or have an __index__ method"
    | some k => pure (if k < 0 then (max 0 (k + length)).toNat else k.toNat)

/-- A part of a row between bounds, with its start, unless it starts behind the end. -/
def partOf {α : Type} (row : List α) (bounds : List Value) : Run (Option (Nat × List α)) := do
  let start ← partBound row.length bounds[0]? 0
  let stop := min (← partBound row.length bounds[1]? row.length) row.length
  pure (if row.length < start || stop < start then none
    else some (start, (row.drop start).take (stop - start)))

/-- A most number of times; a negative one means no bound. -/
def timesOf (v : Option Value) (unbounded : Nat) : Run Nat := do
  match v with
  | none => pure unbounded
  | some v => do
    let n ← asSize v
    pure (if n < 0 then unbounded else n.toNat)

/-! ## Making texts -/

/-- The bytes of a value, if it is a row of them. -/
def bytesOf? (v : Value) : Run (Option (List UInt8)) := do
  match ← unwrap v with
  | .bytes bs => pure (some bs)
  | _ => pure none

/-- A text made of a value, or read from bytes. -/
def makeText (args : List (Option Value)) : Run Value := do
  match args with
  | [v, none, none] => match v with
    | none => pure (.text "")
    | some v => return .text (← plainText v)
  | [some v, encoding, errors] =>
    match ← bytesOf? v with
    | some bs => do
      let encoding ← match encoding with
        | some e => textArgument e "str() argument 'encoding' must be str, not "
        | none => pure "utf-8"
      let errors ← match errors with
        | some e => textArgument e "str() argument 'errors' must be str, not "
        | none => pure "strict"
      return .text (← troubled (textOfBytes bs encoding errors))
    | none => match ← unwrap v with
      | .text _ => wrongType "decoding str is not supported"
      | _ =>
        wrongType ("decoding to str: need a bytes-like object, " ++ (← typeName v) ++ " found")
  | _ => pure (.text "")

/-! ## Methods -/

/-- Whether all characters of a text that is not empty satisfy a test. -/
def allChars (p : Char → Bool) (cs : List Char) : Value := .bool (!cs.isEmpty && cs.all p)

/-- The case of a text: it has characters with a case, and all of those satisfy a test. -/
def allCased (p q : Char → Bool) (cs : List Char) : Value := .bool (cs.any p && !cs.any q)

/-- The methods that tell the kind of a text. -/
def textKindShelf : Shelf :=
  [textMethod0 "isalpha" (allChars isLetter),
    textMethod0 "isdigit" (allChars isAnyDigit),
    textMethod0 "isdecimal" (allChars fun c => (digitValue? c).isSome),
    textMethod0 "isnumeric" (allChars isNumeric),
    textMethod0 "isalnum" (allChars fun c => isLetter c || isNumeric c),
    textMethod0 "isspace" (allChars isBlank),
    textMethod0 "isascii" fun cs => .bool (cs.all fun c => c.toNat < 0x80),
    textMethod0 "isprintable" fun cs => .bool (cs.all isPrintable),
    textMethod0 "isidentifier" fun cs => .bool (match cs with
      | c :: rest => (c == '_' || isNameStart c) && rest.all isNameRest
      | [] => false),
    textMethod0 "isupper" (allCased isCapital isSmall),
    textMethod0 "islower" (allCased isSmall isCapital),
    textMethod0 "istitle" fun cs => .bool (isTitleAfter false false cs),
    textMethod0 "upper" fun cs => .text (upperCase (String.ofList cs)),
    textMethod0 "lower" fun cs => .text (lowerCase (String.ofList cs)),
    textMethod0 "casefold" fun cs =>
      .text (String.ofList ((lowerCase (String.ofList cs)).toList.flatMap fun c =>
        if c.toNat = 0xDF then ['s', 's'] else if c.toNat = 0x3C2 then [Char.ofNat 0x3C3] else [c])),
    textMethod0 "title" fun cs => .text (titleCase (String.ofList cs)),
    textMethod0 "capitalize" fun cs => .text (capitalized (String.ofList cs)),
    textMethod0 "swapcase" fun cs => .text (swappedCase (String.ofList cs))]

/-- A text without characters at its ends. -/
def trimmed (name : String) (start stop : Bool) : String × Native :=
  textMethod name 0 1 fun cs args => do
    let p : Char → Bool ← match args with
      | [] | [.none] => pure isBlank
      | v :: _ => match ← unwrap v with
        | .text s => do
          let all := s.toList
          pure fun c => all.contains c
        | _ => wrongType (name ++ " arg must be None or str")
    let cs := if start then Pieces.trimStart p cs else cs
    pure (.chars (if stop then Pieces.trimEnd p cs else cs))

/-- The pieces of a text between separators. -/
def splitMethod (name : String) (bySeparator : List Char → Nat → List Char → List (List Char))
    (byBlanks : Nat → List Char → List (List Char)) : String × Native :=
  methodNames ("str." ++ name) ["sep", "maxsplit"] 0 [] fun self args => do
    let cs ← charsOf self "must be str, not "
    let cuts ← timesOf (args[1]?).join (cs.length + 1)
    let pieces ← match Value.ofOption (args[0]?).join with
      | .none => pure (byBlanks cuts cs)
      | sep => do
        let sep ← charsOf sep "must be str or None, not "
        if sep.isEmpty then wrongValue "empty separator"
        pure (bySeparator sep cuts cs)
    listOf (pieces.map Value.chars)

/-- A search in a part of a text. -/
def searchMethod (name : String) (search : List Char → List Char → Option Nat) (needed : Bool) :
    String × Native :=
  textMethod name 1 3 fun cs args => do
    let part ← charsOf (args.getD 0 .none) "must be str, not "
    let found := (← partOf cs (args.drop 1)).bind fun (start, inner) =>
      (search part inner).map (· + start)
    match found with
    | some k => pure (.int k)
    | none => if needed then wrongValue "substring not found" else pure (.int (-1))

/-- Whether a part of a text starts or ends with another, or one of others. -/
def edgeMethod (name : String) (test : List Char → List Char → Bool) : String × Native :=
  textMethod name 1 3 fun cs args => do
    let edges ← match ← unwrap (args.getD 0 .none) with
      | .text s => pure [s.toList]
      | .tuple vs => do vs.mapM (charsOf · ("tuple for " ++ name ++ " must only contain str, not "))
      | _ => wrongType (name ++ " first arg must be str or a tuple of str, not " ++
          (← typeName (args.getD 0 .none)))
    match ← partOf cs (args.drop 1) with
    | none => pure (.bool false)
    | some (_, inner) => pure (.bool (edges.any fun e => test e inner))

/-- A text filled up to a width. -/
def filledMethod (name : String) (before : Nat → Nat → Nat) : String × Native :=
  textMethod name 1 2 fun cs args => do
    let width := (← asSize (args.getD 0 .none)).toNat
    allowRow 1 width
    let fill ← match args[1]? with
      | none => pure ' '
      | some v => match ← unwrap v with
        | .text s => match s.toList with
          | [c] => pure c
          | _ => wrongType "The fill character must be exactly one character long"
        | _ => wrongType ("The fill character must be a unicode character, not " ++ (← typeName v))
    let missing := width - cs.length
    let left := before missing width
    pure (.chars (List.replicate left fill ++ cs ++ List.replicate (missing - left) fill))

/-- A text cut into three at a part of it. -/
def partitionMethod (name : String) (search : List Char → List Char → Option Nat) (atEnd : Bool) :
    String × Native :=
  textMethod name 1 1 fun cs args => do
    let sep ← charsOf (args.getD 0 .none) "must be str, not "
    if sep.isEmpty then wrongValue "empty separator"
    pure (.tuple (match search sep cs with
      | some k => [.chars (cs.take k), .chars sep, .chars (cs.drop (k + sep.length))]
      | none => if atEnd then [.text "", .text "", .chars cs] else [.chars cs, .text "", .text ""]))

def joined (sep : List Char) (v : Value) : Run Value := do
  let vs ← orElse (itemsOf v) fun fault => do
    if ← isOfType fault "TypeError" then
      if (← special? v "__iter__").isSome then raiseFault fault
      else wrongType "can only join an iterable"
    else raiseFault fault
  let texts ← (vs.zip (List.range vs.length)).mapM fun (v, k) => do
    match ← unwrap v with
    | .text s => pure s
    | _ => wrongType ("sequence item " ++ toString k ++ ": expected str instance, " ++
        (← typeName v) ++ " found")
  pure (.text ((String.ofList sep).intercalate texts))

/-- What a character becomes by a table. -/
def translated (table : Value) (c : Char) : Run String := do
  let found ← orElse (do return some (← getItem table (.int c.toNat))) fun fault => do
    if ← isOfType fault "LookupError" then pure none else raiseFault fault
  match found with
  | none => pure (String.singleton c)
  | some .none => pure ""
  | some v => match ← unwrap v with
    | .text s => pure s
    | w => match w.int? with
      | some n =>
        if n < 0 || 0x110000 ≤ n then wrongValue "character mapping must be in range(0x110000)"
        pure (String.singleton (Char.ofNat n.toNat))
      | none => wrongType "character mapping must return integer, None or str"

def characterTable (args : List Value) : Run Value := do
  match args with
  | [d] => do
    match ← dataOf d with
    | .dict t =>
      let entries ← t.toList.mapM fun e => do
        match e.name with
        | .text s => match s.toList with
          | [c] => pure (Entry.mk (.int c.toNat) (.int c.toNat) e.value)
          | _ => wrongValue "string keys in translate table must be of length 1"
        | .int _ => pure e
        | _ => wrongType "keys in translate table must be strings or integers"
      newDict (Table.ofList entries)
    | _ => wrongType "if you give only one argument to maketrans it must be a dict"
  | from_ :: into :: rest => do
    let from_ ← charsOf from_ "maketrans() argument 1 must be str, not "
    let into ← charsOf into "maketrans() argument 2 must be str, not "
    if from_.length ≠ into.length then
      wrongValue "the first two maketrans arguments must have equal length"
    let gone ← match rest with
      | v :: _ => charsOf v "maketrans() argument 3 must be str, not "
      | [] => pure []
    let entry (c : Char) (v : Value) : Entry := ⟨.int c.toNat, .int c.toNat, v⟩
    newDict (Table.ofList ((from_.zip into).map (fun (c, d) => entry c (.int d.toNat)) ++
      gone.map fun c => entry c .none))
  | [] => wrongType "maketrans expected at least 1 argument, got 0"

/-- The methods that find, cut, join and fill texts. -/
def textPartShelf : Shelf :=
  [trimmed "strip" true true, trimmed "lstrip" true false, trimmed "rstrip" false true,
    splitMethod "split" Pieces.split Pieces.words,
    splitMethod "rsplit" Pieces.splitLast Pieces.wordsLast,
    methodNames "str.splitlines" ["keepends"] 0 [] fun self args => do
      let keep ← truth (((args[0]?).join).getD (.bool false))
      let cs ← charsOf self "must be str, not "
      listOf ((Pieces.lines keep [] cs).map Value.chars),
    method1 "str.join" fun self v => do joined (← charsOf self "must be str, not ") v,
    searchMethod "find" Pieces.find false, searchMethod "rfind" Pieces.findLast false,
    searchMethod "index" Pieces.find true, searchMethod "rindex" Pieces.findLast true,
    textMethod "count" 1 3 fun cs args => do
      let part ← charsOf (args.getD 0 .none) "must be str, not "
      pure (.int (match ← partOf cs (args.drop 1) with
        | some (_, inner) => Pieces.count part inner
        | none => 0)),
    edgeMethod "startswith" fun e cs => e.isPrefixOf cs,
    edgeMethod "endswith" fun e cs => e.isSuffixOf cs,
    textMethod "replace" 2 3 fun cs args => do
      let part ← charsOf (args.getD 0 .none) "replace() argument 1 must be str, not "
      let other ← charsOf (args.getD 1 .none) "replace() argument 2 must be str, not "
      pure (.chars (Pieces.replace part other (← timesOf args[2]? (cs.length + 1)) cs)),
    filledMethod "ljust" fun _ _ => 0, filledMethod "rjust" fun missing _ => missing,
    filledMethod "center" fun missing width => missing / 2 + (missing % 2) * (width % 2),
    textMethod "zfill" 1 1 fun cs args => do
      let width := (← asSize (args.getD 0 .none)).toNat
      allowRow 1 width
      let zeros := List.replicate (width - cs.length) '0'
      pure (.chars (match cs with
        | c :: rest => if c == '+' || c == '-' then c :: zeros ++ rest else zeros ++ cs
        | [] => zeros)),
    partitionMethod "partition" Pieces.find false,
    partitionMethod "rpartition" Pieces.findLast true,
    methodNames "str.expandtabs" ["tabsize"] 0 [] fun self args => do
      let size ← asSmall (((args[0]?).join).getD (.int 8))
      pure (.chars (Pieces.expandTabs size.toNat 0 (← charsOf self "must be str, not "))),
    textMethod "removeprefix" 1 1 fun cs args => do
      let e ← charsOf (args.getD 0 .none) "removeprefix() argument must be str, not "
      pure (.chars (if e.isPrefixOf cs then cs.drop e.length else cs)),
    textMethod "removesuffix" 1 1 fun cs args => do
      let e ← charsOf (args.getD 0 .none) "removesuffix() argument must be str, not "
      pure (.chars (if !e.isEmpty && e.isSuffixOf cs then cs.take (cs.length - e.length) else cs)),
    textMethod "translate" 1 1 fun cs args => do
      return .text (String.join (← cs.mapM (translated (args.getD 0 .none)))),
    many "str.maketrans" characterTable,
    methodNames "str.encode" ["encoding", "errors"] 0 [] fun self args => do
      let text ← textArgument self "must be str, not "
      let encoding ← textArgument (((args[0]?).join).getD (.text "utf-8"))
        "encode() argument 'encoding' must be str, not "
      let errors ← textArgument (((args[1]?).join).getD (.text "strict"))
        "encode() argument 'errors' must be str, not "
      return .bytes (← troubled (bytesOfText text encoding errors)),
    ("str.format", fun args named => do
      match args with
      | self :: rest => do
        let template ← textArgument self "must be str, not "
        let byName (name : String) : Run Value := do
          match named.lookup name with
          | some v => pure v
          | none => raiseWith "KeyError" [.text name]
        return .text (← fillTemplate rest byName 2 .open_ template).1
      | [] => wrongType "unbound method str.format() needs an argument"),
    textMethod "format_map" 1 1 fun cs args => do
      let byName (name : String) : Run Value := getItem (args.getD 0 .none) (.text name)
      let byPlace : List Value := []
      return .text (← fillTemplate byPlace byName 2 .open_ (String.ofList cs)).1,
    method1 "str.__mod__" fun self v => do
      return .text (← percentFilled (← textArgument self "must be str, not ") v)]

def textShelf : Shelf :=
  withNames "str" ["object", "encoding", "errors"] 0 [] makeText :: (textKindShelf ++ textPartShelf)

end Library

end LiveSketch.Script
