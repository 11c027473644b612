import LiveSketch.Text.Classes

/-!
# Finding, cutting and replacing in texts

Texts as rows of characters: where one occurs in another, the pieces between its occurrences, words
and lines.
-/

namespace LiveSketch.Pieces

/-- The first place of a row in another, counted from `k`. -/
def findFrom (part : List Char) (k : Nat) : List Char → Option Nat
  | [] => if part.isEmpty then some k else none
  | c :: cs => if part.isPrefixOf (c :: cs) then some k else findFrom part (k + 1) cs

/-- The first place of a row in another. -/
def find (part cs : List Char) : Option Nat := findFrom part 0 cs

/-- The last place of a row in another. -/
def findLast (part cs : List Char) : Option Nat :=
  (find part.reverse cs.reverse).map fun k => cs.length - k - part.length

/-- What stands before the first occurrence of a row, and what stands after it. -/
def cut (part cs : List Char) : Option (List Char × List Char) :=
  (find part cs).map fun k => (cs.take k, cs.drop (k + part.length))

/-- The pieces between the occurrences of a row that is not empty, after at most so many cuts. -/
def split (part : List Char) : Nat → List Char → List (List Char)
  | 0, cs => [cs]
  | cuts + 1, cs => match cut part cs with
    | none => [cs]
    | some (piece, rest) => piece :: split part cuts rest

/-- The pieces between the last occurrences of a row, after at most so many cuts. -/
def splitLast (part : List Char) (cuts : Nat) (cs : List Char) : List (List Char) :=
  ((split part.reverse cuts cs.reverse).map List.reverse).reverse

/-- The words between blanks, after at most so many cuts; what is left then keeps its blanks. -/
def wordsBy (isGap : Char → Bool) : Nat → List Char → List (List Char)
  | cuts, cs =>
    match cs.dropWhile isGap with
    | [] => []
    | cs => match cuts with
      | 0 => [cs]
      | cuts + 1 =>
        let word := cs.takeWhile fun c => !isGap c
        word :: wordsBy isGap cuts (cs.drop word.length)

/-- The last words between blanks, after at most so many cuts. -/
def wordsLastBy (isGap : Char → Bool) (cuts : Nat) (cs : List Char) : List (List Char) :=
  ((wordsBy isGap cuts cs.reverse).map List.reverse).reverse

def words : Nat → List Char → List (List Char) := wordsBy isBlank

def wordsLast : Nat → List Char → List (List Char) := wordsLastBy isBlank

/-- How often a row occurs in another, side by side. -/
def count (part cs : List Char) : Nat :=
  if part.isEmpty then cs.length + 1 else (split part cs.length cs).length - 1

/-- A row with another one for at most so many occurrences of a part. An empty part occurs before
each character and at the end. -/
def replace (part other : List Char) (most : Nat) (cs : List Char) : List Char :=
  if part.isEmpty then
    let k := min most cs.length
    let front := (cs.take k).flatMap fun c => other ++ [c]
    front ++ cs.drop k ++ (if cs.length < most then other else [])
  else List.intercalate other (split part (min most cs.length) cs)

def isLineEnd (c : Char) : Bool :=
  let n := c.toNat
  (0x0A ≤ n && n ≤ 0x0D) || (0x1C ≤ n && n ≤ 0x1E) || n == 0x85 || n == 0x2028 || n == 0x2029

/-- The lines of a row, with the characters that end them or without. -/
def linesBy (isEnd : Char → Bool) (keepEnds : Bool) (taken : List Char) : List Char → List (List Char)
  | [] => if taken.isEmpty then [] else [taken.reverse]
  | '\r' :: '\n' :: rest =>
    (if keepEnds then '\n' :: '\r' :: taken else taken).reverse :: linesBy isEnd keepEnds [] rest
  | c :: rest =>
    if isEnd c then (if keepEnds then c :: taken else taken).reverse :: linesBy isEnd keepEnds [] rest
    else linesBy isEnd keepEnds (c :: taken) rest

def lines : Bool → List Char → List Char → List (List Char) := linesBy isLineEnd

/-- A text with blanks up to the next multiple of `size` for each tabulator. -/
def expandTabs (size column : Nat) : List Char → List Char
  | [] => []
  | c :: rest =>
    if c == '\t' then
      let missing := if size = 0 then 0 else size - column % size
      List.replicate missing ' ' ++ expandTabs size (column + missing) rest
    else c :: expandTabs size (if c == '\n' || c == '\r' then 0 else column + 1) rest

/-- A row without the characters at its start that satisfy a test. -/
def trimStart (p : Char → Bool) (cs : List Char) : List Char := cs.dropWhile p

/-- A row without the characters at its end that satisfy a test. -/
def trimEnd (p : Char → Bool) (cs : List Char) : List Char := (cs.reverse.dropWhile p).reverse

end LiveSketch.Pieces
