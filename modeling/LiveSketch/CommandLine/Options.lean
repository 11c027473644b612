import LiveSketch.Preview.Path
import LiveSketch.Surface.Mode
import LiveSketch.Text.Quoted
import LiveSketch.Text.Whole

/-!
# Command line options

Reads the options of the program. An option can be cut short as long as it stays unambiguous and
takes its value from the same word, after an equals sign, or from the next. Every word is classified
before any option takes effect; then options take effect from left to right, and words that belong to
none are refused at the end.
-/

namespace LiveSketch

namespace CommandLine

/-- The options by meaning. -/
inductive Flag where
  | help | tcp | ws | host | port | delay | width | height | colorMode | previewDir | allow | logFile
deriving DecidableEq, Repr, Inhabited

/-- How many words an option takes. -/
inductive Arity where
  | zero | one | many
deriving DecidableEq, Repr, Inhabited

namespace Flag

def names : Flag → List String
  | help => ["-h", "--help"]
  | tcp => ["--tcp"]
  | ws => ["--ws"]
  | host => ["--host"]
  | port => ["--port"]
  | delay => ["--delay"]
  | width => ["--width"]
  | height => ["--height"]
  | colorMode => ["--color-mode"]
  | previewDir => ["--preview-dir"]
  | allow => ["--allow"]
  | logFile => ["--log-file"]

/-- All options in the order of their definition. -/
def all : List Flag :=
  [help, tcp, ws, host, port, delay, width, height, colorMode, previewDir, allow, logFile]

/-- How many words the option takes. -/
def arity : Flag → Arity
  | help | tcp | ws => .zero
  | allow => .many
  | _ => .one

def spellings : List (String × Flag) := all.flatMap fun f => f.names.map fun n => (n, f)

def ofName? (name : String) : Option Flag := (spellings.find? (·.1 == name)).map Prod.snd

/-- The option as error messages name it. -/
def title (f : Flag) : String := String.intercalate "/" f.names

end Flag

/-- How the program serves its client. -/
inductive Transport where
  | tcp (host : String) (port : Int)
  | ws (host : String) (port : Int)
  | streams
deriving DecidableEq, Repr, Inhabited

/-- The values of all options. -/
structure Settings where
  tcp : Bool
  ws : Bool
  host : String
  port : Int
  delay : Int
  width : Int
  height : Int
  colorMode : ColorMode
  previewDir : FilePath
  allow : List String
  logFile : String
deriving DecidableEq, Repr, Inhabited

namespace Settings

/-- The values when no option is given. -/
def default : Settings :=
  { tcp := false, ws := false, host := "127.0.0.1", port := 2087, delay := 250, width := 256
    height := 256, colorMode := .rgba, previewDir := ⟨0, [".fiddle_cache", "previews"]⟩
    allow := [], logFile := "fiddle.log" }

/-- TCP comes before a web socket, and both before the standard streams. -/
def transport (s : Settings) : Transport :=
  if s.tcp then .tcp s.host s.port else if s.ws then .ws s.host s.port else .streams

def seconds (s : Settings) : Float :=
  let size := Float.ofScientific s.delay.natAbs true 3
  if s.delay < 0 then -size else size

end Settings

/-- Why the program does not start. -/
inductive Refusal where
  | helpAsked
  | ambiguous (word : String) (candidates : List String)
  | ignoredValue (flag : Flag) (value : String)
  | missingValue (flag : Flag)
  | notWhole (flag : Flag) (value : String)
  | notAChoice (flag : Flag) (value : String)
  | unrecognized (words : List String)
  /-- A value of two dashes, which never counts as a value, leaves its option without one. -/
  | lostValue
deriving DecidableEq, Repr, Inhabited

namespace Refusal

/-- The words of a refusal; asking for help has none. -/
def message : Refusal → String
  | helpAsked => ""
  | ambiguous word candidates =>
    "ambiguous option: " ++ word ++ " could match " ++ String.intercalate ", " candidates
  | ignoredValue flag value =>
    "argument " ++ flag.title ++ ": ignored explicit argument " ++ quoted value
  | missingValue flag => "argument " ++ flag.title ++ ": expected one argument"
  | notWhole flag value => "argument " ++ flag.title ++ ": invalid int value: " ++ quoted value
  | notAChoice flag value =>
    "argument " ++ flag.title ++ ": invalid choice: " ++ quoted value ++
      " (choose from " ++
      String.intercalate ", " (ColorMode.all.map fun m => quoted m.name) ++ ")"
  | unrecognized words => "unrecognized arguments: " ++ String.intercalate " " words
  | lostValue => "not enough values to unpack (expected 1, got 0)"

def code : Refusal → Nat
  | helpAsked => 0
  | _ => 2

end Refusal

/-! ## Classifying words -/

/-- What a word of the command line is. -/
inductive Word where
  /-- An option as it was spelled out, with the value in the same word. -/
  | option (flag : Flag) (spelling : String) (value : Option String)
  /-- A word that looks like an option but is none. -/
  | unknown
  /-- Two dashes, after which no word is an option. -/
  | dashes
  | plain
deriving DecidableEq, Repr, Inhabited

/-- Splits at the first equals sign. -/
def splitValue (word : String) : String × Option String :=
  let cs := word.toList
  let head := cs.takeWhile (· != '=')
  match cs.drop head.length with
  | _ :: value => (String.ofList head, some (String.ofList value))
  | [] => (word, none)

def isNegativeNumber (word : String) : Bool :=
  match word.toList with
  | '-' :: rest =>
    let isDigit (c : Char) := (digitValue? c).isSome
    let whole := rest.takeWhile isDigit
    match rest.drop whole.length with
    | [] => !whole.isEmpty
    | '.' :: places => !places.isEmpty && places.all isDigit
    | _ => false
  | _ => false

/-- The options that a word may abbreviate, with the value in the same word. -/
def candidates (word : String) : List (Flag × String × Option String) :=
  match word.toList with
  | '-' :: '-' :: _ =>
    let (head, value) := splitValue word
    (Flag.spellings.filter fun s => head.toList.isPrefixOf s.1.toList).map
      fun s => (s.2, s.1, value)
  | '-' :: c :: rest =>
    Flag.spellings.filterMap fun s =>
      if s.1 == String.ofList ['-', c] then some (s.2, s.1, some (String.ofList rest))
      else if word.toList.isPrefixOf s.1.toList then some (s.2, s.1, none)
      else none
  | _ => []

/-- Classifies a word that stands before any two dashes. -/
def classifyWord (word : String) : Except Refusal Word :=
  if !word.startsWith "-" then .ok .plain
  else match Flag.ofName? word with
    | some flag => .ok (.option flag word none)
    | none =>
      if word == "-" then .ok .plain
      else
        let (head, value) := splitValue word
        match (if value.isSome then Flag.ofName? head else none) with
        | some flag => .ok (.option flag head value)
        | none => match candidates word with
          | [(flag, spelling, value)] => .ok (.option flag spelling value)
          | [] =>
            if isNegativeNumber word || word.toList.contains ' ' then .ok .plain else .ok .unknown
          | several => .error (.ambiguous word (several.map fun c => c.2.1))

def classify : List String → Except Refusal (List (String × Word))
  | [] => .ok []
  | "--" :: rest => .ok (("--", .dashes) :: rest.map fun w => (w, .plain))
  | word :: rest => do
    let kind ← classifyWord word
    pure ((word, kind) :: (← classify rest))

/-! ## Taking effect -/

/-- Reads a whole number for an option. -/
def wholeFor (flag : Flag) (value : String) : Except Refusal Int :=
  match wholeIn value with
  | some n => .ok n
  | none => .error (.notWhole flag value)

/-- An option without a value takes effect. -/
def applyBare (s : Settings) : Flag → Except Refusal Settings
  | .help => .error .helpAsked
  | .tcp => .ok { s with tcp := true }
  | .ws => .ok { s with ws := true }
  | flag => .error (.missingValue flag)

/-- An option with one value takes effect. -/
def applyValue (s : Settings) (flag : Flag) (value : String) : Except Refusal Settings :=
  match flag with
  | .host => .ok { s with host := value }
  | .port => (wholeFor flag value).map fun n => { s with port := n }
  | .delay => (wholeFor flag value).map fun n => { s with delay := n }
  | .width => (wholeFor flag value).map fun n => { s with width := n }
  | .height => (wholeFor flag value).map fun n => { s with height := n }
  | .colorMode => match ColorMode.ofName? value with
    | some mode => .ok { s with colorMode := mode }
    | none => .error (.notAChoice flag value)
  | .previewDir => .ok { s with previewDir := .ofString value }
  | .logFile => .ok { s with logFile := value }
  | .allow => .ok { s with allow := [value] }
  | .help | .tcp | .ws => .error (.ignoredValue flag value)

/-- An option whose value stands in the same word takes effect. A word of one dash can go on with
further one-letter options. -/
def applyAttached (s : Settings) (flag : Flag) (spelling value : String) :
    Except Refusal Settings :=
  match flag.arity with
  | .zero =>
    if spelling.startsWith "--" || value.isEmpty then .error (.ignoredValue flag value)
    else
      -- the only one-letter option asks for help, so the letters after it all have to be that one
      if value.toList.all (· == 'h') then .error .helpAsked
      else .error (.ignoredValue flag
        (String.ofList (value.toList.dropWhile (· == 'h'))))
  | .one => if value == "--" then .error .lostValue else applyValue s flag value
  | .many => .ok { s with allow := if value == "--" then [] else [value] }

def plainRun (words : List (String × Word)) : List String :=
  (words.takeWhile fun w => w.2 == .plain).map Prod.fst

/-- Goes through the classified words: the settings, and the words that belong to no option. -/
def apply (s : Settings) (extras : List String) :
    List (String × Word) → Except Refusal (Settings × List String)
  | [] => .ok (s, extras)
  | (_, .option flag spelling (some value)) :: rest => do
    apply (← applyAttached s flag spelling value) extras rest
  | (_, .option flag _ none) :: rest =>
    match flag.arity with
    | .zero => do apply (← applyBare s flag) extras rest
    | .one => match rest with
      | (value, .plain) :: later => do apply (← applyValue s flag value) extras later
      | _ => .error (.missingValue flag)
    | .many => apply { s with allow := plainRun rest } extras (rest.drop (plainRun rest).length)
  | (word, _) :: rest => apply s (extras ++ [word]) rest
termination_by words => words.length
decreasing_by all_goals grind

def read (words : List String) : Except Refusal Settings := do
  let (settings, extras) ← apply .default [] (← classify words)
  if extras.isEmpty then pure settings else throw (.unrecognized extras)

end CommandLine

end LiveSketch
