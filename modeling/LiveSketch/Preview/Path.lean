import LiveSketch.Digest.Sha1

/-!
# Where a preview is written

The preview of a document is a file whose name starts with the stem of the document's path and ends
with a digest of its whole address, so that two documents of one name do not share a file.
-/

namespace LiveSketch

/-! ## Addresses -/

/-- The characters of a scheme after its first. -/
def isSchemeChar (c : Char) : Bool := c.isAlphanum || c == '+' || c == '-' || c == '.'

/-- Splits off a scheme: a letter, scheme characters and a colon. -/
def splitScheme (cs : List Char) : List Char × List Char :=
  let head := cs.takeWhile (· != ':')
  match head, cs.drop head.length with
  | first :: _, ':' :: rest =>
    if first.isAlpha && head.all isSchemeChar then (head.map Char.toLower, rest) else ([], cs)
  | _, _ => ([], cs)

/-- Splits off a host, which two slashes announce and the next slash, question mark or number sign
ends. -/
def splitHost : List Char → List Char × List Char
  | '/' :: '/' :: rest => rest.span fun c => c != '/' && c != '?' && c != '#'
  | cs => ([], cs)

/-- The schemes whose last path segment can carry parameters. -/
def schemesWithParameters : List String :=
  ["", "ftp", "hdl", "prospero", "http", "https", "shttp", "rtsp", "rtspu", "sip", "sips", "mms",
    "sftp", "tel"]

/-- Cuts the parameters off the last segment of a path. -/
def dropParameters (path : List Char) : List Char :=
  let last := (path.reverse.takeWhile (· != '/')).reverse
  path.take (path.length - last.length) ++ last.takeWhile (· != ';')

/-- Characters whose compatibility form holds a delimiter of addresses. -/
def delimiterLookalikes : List Nat :=
  [0x2047, 0x2048, 0x2049, 0x2100, 0x2101, 0x2105, 0x2106, 0x2A74, 0xFE13, 0xFE16, 0xFE55, 0xFE56,
    0xFE5F, 0xFE6B, 0xFF03, 0xFF0F, 0xFF1A, 0xFF1F, 0xFF20]

/-- The path of an address, or what is wrong with its host. -/
def pathOfAddress (address : String) : Except String (List Char) := do
  let cs := address.toList.filter fun c => c != '\t' && c != '\r' && c != '\n'
  let (scheme, rest) := splitScheme cs
  let (host, rest) := splitHost rest
  if host.contains '[' != host.contains ']' then throw "Invalid IPv6 URL"
  if host.any fun c => delimiterLookalikes.contains c.toNat then
    throw ("netloc '" ++ String.ofList host ++
      "' contains invalid characters under NFKC normalization")
  let path := (rest.takeWhile (· != '#')).takeWhile (· != '?')
  if schemesWithParameters.contains (String.ofList scheme) then pure (dropParameters path)
  else pure path

/-! ## File paths -/

/-- A path: how many slashes its root is written with, and its segments. -/
structure FilePath where
  root : Nat
  segments : List String
deriving DecidableEq, Repr, Inhabited

namespace FilePath

/-- Reads a path. Empty segments and single dots vanish; exactly two leading slashes stay two. -/
def ofChars (cs : List Char) : FilePath :=
  let slashes := (cs.takeWhile (· == '/')).length
  let root := if slashes == 0 then 0 else if slashes == 2 then 2 else 1
  let segments := (String.ofList cs).splitOn "/"
  ⟨root, segments.filter fun s => !s.isEmpty && s != "."⟩

def ofString (s : String) : FilePath := ofChars s.toList

/-- The path as text; the empty path is a dot. -/
def text (p : FilePath) : String :=
  let body := String.intercalate "/" p.segments
  let whole := String.ofList (List.replicate p.root '/') ++ body
  if whole.isEmpty then "." else whole

/-- The path of an entry in a directory. -/
def child (p : FilePath) (name : String) : FilePath := ⟨p.root, p.segments ++ [name]⟩

/-- The last segment without its last ending; an ending starts at a dot that is neither the first
nor the last character. -/
def stem (p : FilePath) : String :=
  let name := (p.segments.getLast?.getD "").toList
  let ending := (name.reverse.takeWhile (· != '.')).length
  let dot := name.length - ending - 1
  if 0 < dot && 0 < ending && ending < name.length then String.ofList (name.take dot)
  else String.ofList name

end FilePath

/-- The file name of a document's preview. -/
def previewName (address : String) : Except String String := do
  let stem := (FilePath.ofChars (← pathOfAddress address)).stem
  let digest := Sha1.hex address.toUTF8.toList
  pure ((if stem.isEmpty then "drawing" else stem) ++ "-" ++ String.ofList (digest.toList.take 8) ++
    ".png")

/-- The path of a document's preview in a directory. -/
def previewPath (directory : FilePath) (address : String) : Except String FilePath := do
  pure (directory.child (← previewName address))

end LiveSketch
