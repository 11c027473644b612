import LiveSketch.Proofs.Text.Lines
import LiveSketch.Script.Value.Encoding
import Mathlib.Data.Int.ConditionallyCompleteOrder

/-!
# Reading cut bytes

A UTF-8 column cuts the bytes of a line wherever it falls. What a reader makes of the bytes in front
of the cut, when it leaves out what is no character, are the characters that end in front of it:

1. the bytes of a character are a first byte and so many more as it announces, each in its range
   (`spells_utf8EncodeChar`);
2. of all of them the reader makes that character (`Spells.firstChar_append`), and of some of them,
   which are the first ones, an incomplete one (`Spells.firstChar_take`);
3. so the cut bytes of a row of characters read as the characters that fit into the cut
   (`textOfBytes_take`).

`Source.offsetOfBytes_exact` says what that means for columns.
-/

namespace LiveSketch

namespace Script

/-! ## Bytes of a text -/

theorem byteArray_toList_loop (bytes : ByteArray) (place : Nat) (read : List UInt8) :
    ByteArray.toList.loop bytes place read = read.reverse ++ bytes.data.toList.drop place := by
  fun_induction ByteArray.toList.loop bytes place read with
  | case1 place read h ih =>
    have hlt : place < bytes.data.toList.length := h
    have hget : bytes.get! place = bytes.data.toList[place] := getElem!_pos bytes.data place h
    rw [ih, List.drop_eq_getElem_cons hlt, List.reverse_cons, List.append_assoc, hget]
    rfl
  | case2 place read h =>
    have hle : bytes.data.toList.length ≤ place := Nat.le_of_not_lt h
    rw [List.drop_of_length_le hle, List.append_nil]

theorem utf8Bytes_eq (cs : List Char) : utf8Bytes cs = cs.flatMap String.utf8EncodeChar := by
  unfold utf8Bytes
  rw [String.toUTF8_eq_toByteArray, ByteArray.toList, byteArray_toList_loop]
  show cs.utf8Encode.data.toList = _
  unfold List.utf8Encode
  exact List.toList_data_toByteArray

theorem named?_utf8 : Encoding.named? "utf-8" = some .utf8 := rfl

/-- Every text has bytes: its characters are Unicode scalar values. -/
theorem bytesOfText_utf8 (text : String) :
    bytesOfText text "utf-8" "strict" = .ok (utf8Bytes text.toList) := by
  unfold bytesOfText
  rw [named?_utf8]

theorem utf8Bytes_nil : utf8Bytes [] = [] := by
  rw [utf8Bytes_eq, List.flatMap_nil]

theorem utf8Bytes_cons (c : Char) (cs : List Char) :
    utf8Bytes (c :: cs) = String.utf8EncodeChar c ++ utf8Bytes cs := by
  rw [utf8Bytes_eq, utf8Bytes_eq, List.flatMap_cons]

/-! ## Bytes that follow -/

/-- So many bytes follow a first one, the next of them in a range and the others in that of all
later bytes. -/
inductive Follow : Nat → Nat → Nat → List UInt8 → Prop
  | nil {low high : Nat} : Follow low high 0 []
  | cons {low high n : Nat} {b : UInt8} {bs : List UInt8} (hlow : low ≤ b.toNat)
    (hhigh : b.toNat ≤ high) (h : Follow 0x80 0xBF n bs) : Follow low high (n + 1) (b :: bs)

namespace Follow

variable {low high n k : Nat} {bs : List UInt8}

theorem length_eq (h : Follow low high n bs) : bs.length = n := by
  induction h with
  | nil => rfl
  | cons _ _ _ ih => rw [List.length_cons, ih]

theorem continued_append (h : Follow low high n bs) (rest : List UInt8) :
    continued low high n (bs ++ rest) = (bs.map UInt8.toNat, none) := by
  induction h with
  | nil => rfl
  | cons hlow hhigh _ ih => simp [continued, hlow, hhigh, ih]

theorem continued_take (h : Follow low high n bs) (hk : k < n) :
    continued low high n (bs.take k) =
      ((bs.take k).map UInt8.toNat, some "unexpected end of data") := by
  induction h generalizing k with
  | nil => exact absurd hk (Nat.not_lt_zero k)
  | cons hlow hhigh _ ih =>
    cases k with
    | zero => rfl
    | succ k => simp [continued, hlow, hhigh, ih (Nat.lt_of_succ_lt_succ hk)]

end Follow

/-! ## Bytes of a character -/

/-- What a first byte tells of its character, when so many bytes follow. -/
def frontBits (b : UInt8) (n : Nat) : Nat :=
  if n = 1 then b.toNat - 0xC0 else if n = 2 then b.toNat - 0xE0 else b.toNat - 0xF0

theorem frontBits_one (b : UInt8) : frontBits b 1 = b.toNat - 0xC0 := rfl

theorem frontBits_two (b : UInt8) : frontBits b 2 = b.toNat - 0xE0 := rfl

theorem frontBits_three (b : UInt8) : frontBits b 3 = b.toNat - 0xF0 := rfl

/-- The number of a character from the first byte's part of it and the bytes that follow. -/
def scalarOf (front : Nat) (bs : List UInt8) : Nat :=
  (bs.map UInt8.toNat).foldl (fun code b => 64 * code + (b - 0x80)) front

theorem scalarOf_nil (front : Nat) : scalarOf front [] = front := rfl

theorem scalarOf_cons (front : Nat) (b : UInt8) (bs : List UInt8) :
    scalarOf front (b :: bs) = scalarOf (64 * front + (b.toNat - 0x80)) bs := by
  unfold scalarOf
  rw [List.map_cons, List.foldl_cons]

/-- The bytes of a character as a reader takes them, and its number: a single byte, or a first one
with the bytes that it announces. -/
inductive Spells : List UInt8 → Nat → Prop
  | single {b : UInt8} {v : Nat} (hb : b.toNat < 0x80) (hv : b.toNat = v) : Spells [b] v
  | multiple {b : UInt8} {bs : List UInt8} {low high n v : Nat} (hb : 0x80 ≤ b.toNat)
    (hfollowers : followers? b.toNat = some (low, high, n)) (hfollow : Follow low high n bs)
    (hv : scalarOf (frontBits b n) bs = v) : Spells (b :: bs) v

namespace Spells

variable {b : UInt8} {bs : List UInt8} {v k : Nat}

theorem firstChar_append (h : Spells (b :: bs) v) (rest : List UInt8) :
    firstChar b (bs ++ rest) = .inl (Char.ofNat v, 1 + bs.length) := by
  unfold firstChar
  cases h with
  | single hb hv =>
    rw [if_pos hb, hv]
    rfl
  | multiple hb hfollowers hfollow hv =>
    have hmany : ¬ b.toNat < 0x80 := Nat.not_lt_of_le hb
    unfold scalarOf frontBits at hv
    simp [hmany, hfollowers, hfollow.continued_append, hfollow.length_eq, hv]

theorem firstChar_take (h : Spells (b :: bs) v) (hk : k < bs.length) :
    firstChar b (bs.take k) = .inr (1 + k, "unexpected end of data") := by
  unfold firstChar
  cases h with
  | single hb hv => exact absurd hk (Nat.not_lt_zero k)
  | multiple hb hfollowers hfollow hv =>
    have hmany : ¬ b.toNat < 0x80 := Nat.not_lt_of_le hb
    have hmissing := hfollow.continued_take (hfollow.length_eq ▸ hk)
    simp [hmany, hfollowers, hmissing, Nat.le_of_lt hk]

end Spells

theorem followers?_two {b : Nat} (hb : 0xC2 ≤ b) (hb' : b < 0xE0) :
    followers? b = some (0x80, 0xBF, 1) := by
  unfold followers?
  rw [if_neg (by omega), if_pos hb']

/-- Two bytes follow; the first of them tells an overlong spelling and a surrogate. -/
theorem followers?_three (b next : Nat) (hb : 0xE0 ≤ b ∧ b < 0xF0)
    (hnext : 0x80 ≤ next ∧ next ≤ 0xBF) (hlong : b = 0xE0 → 0xA0 ≤ next)
    (hsurrogate : b = 0xED → next ≤ 0x9F) :
    ∃ low high, followers? b = some (low, high, 2) ∧ low ≤ next ∧ next ≤ high := by
  unfold followers?
  rw [if_neg (by omega), if_neg (by omega)]
  by_cases hfirst : b = 0xE0
  · rw [if_pos hfirst]
    exact ⟨_, _, rfl, hlong hfirst, hnext.2⟩
  · rw [if_neg hfirst]
    by_cases hpaired : b = 0xED
    · rw [if_pos hpaired]
      exact ⟨_, _, rfl, hnext.1, hsurrogate hpaired⟩
    · rw [if_neg hpaired, if_pos hb.2]
      exact ⟨_, _, rfl, hnext⟩

/-- Three bytes follow; the first of them tells an overlong spelling and a number that is too
great. -/
theorem followers?_four (b next : Nat) (hb : 0xF0 ≤ b ∧ b < 0xF5)
    (hnext : 0x80 ≤ next ∧ next ≤ 0xBF) (hlong : b = 0xF0 → 0x90 ≤ next)
    (hgreat : b = 0xF4 → next ≤ 0x8F) :
    ∃ low high, followers? b = some (low, high, 3) ∧ low ≤ next ∧ next ≤ high := by
  unfold followers?
  rw [if_neg (by omega), if_neg (by omega), if_neg (by omega), if_neg (by omega),
    if_neg (by omega)]
  by_cases hfirst : b = 0xF0
  · rw [if_pos hfirst]
    exact ⟨_, _, rfl, hlong hfirst, hnext.2⟩
  · rw [if_neg hfirst]
    by_cases hlast : b = 0xF4
    · rw [if_neg (by omega), if_pos hlast]
      exact ⟨_, _, rfl, hnext.1, hgreat hlast⟩
    · rw [if_pos (by omega)]
      exact ⟨_, _, rfl, hnext⟩

theorem toNat_byte {n : Nat} (h : n < 256) : (UInt8.ofNat n).toNat = n := by
  rw [UInt8.toNat_ofNat']
  exact Nat.mod_eq_of_lt h

/-- A byte that follows holds six bits of a number. -/
theorem toNat_follower (n : Nat) : (UInt8.ofNat (n % 0x40 + 0x80)).toNat = n % 0x40 + 0x80 :=
  toNat_byte (by omega)

section Widths

variable {v : Nat}

theorem spells_one (h : v ≤ 0x7F) : Spells [UInt8.ofNat v] v := by
  have hb : (UInt8.ofNat v).toNat = v := toNat_byte (by omega)
  exact .single (by omega) hb

theorem spells_two (h : 0x7F < v) (h' : v ≤ 0x7FF) :
    Spells [UInt8.ofNat (v / 64 % 0x20 + 0xC0), UInt8.ofNat (v % 0x40 + 0x80)] v := by
  have hb : (UInt8.ofNat (v / 64 % 0x20 + 0xC0)).toNat = v / 64 + 0xC0 := by
    rw [toNat_byte (by omega)]
    omega
  have hlast := toNat_follower v
  have hfollowers := followers?_two (b := v / 64 + 0xC0) (by omega) (by omega)
  refine .multiple (by omega) (hb ▸ hfollowers) (.cons (by omega) (by omega) .nil) ?_
  rw [frontBits_one, hb]
  rw [scalarOf_cons, scalarOf_nil, hlast]
  omega

theorem spells_three (h : 0x7FF < v) (h' : v ≤ 0xFFFF) (hvalid : v < 0xD800 ∨ 0xDFFF < v) :
    Spells [UInt8.ofNat (v / 4096 % 0x10 + 0xE0), UInt8.ofNat (v / 64 % 0x40 + 0x80),
      UInt8.ofNat (v % 0x40 + 0x80)] v := by
  have hb : (UInt8.ofNat (v / 4096 % 0x10 + 0xE0)).toNat = v / 4096 + 0xE0 := by
    rw [toNat_byte (by omega)]
    omega
  have hnext := toNat_follower (v / 64)
  have hlast := toNat_follower v
  obtain ⟨low, high, hfollowers, hlow, hhigh⟩ := followers?_three (v / 4096 + 0xE0)
    (v / 64 % 0x40 + 0x80) (by omega) (by omega) (by omega) (by omega)
  refine .multiple (by omega) (hb ▸ hfollowers)
    (.cons (by omega) (by omega) (.cons (by omega) (by omega) .nil)) ?_
  rw [frontBits_two, hb]
  simp only [scalarOf_cons, scalarOf_nil, hnext, hlast]
  omega

theorem spells_four (h : 0xFFFF < v) (hvalid : v < 0x110000) :
    Spells [UInt8.ofNat (v / 262144 % 0x08 + 0xF0), UInt8.ofNat (v / 4096 % 0x40 + 0x80),
      UInt8.ofNat (v / 64 % 0x40 + 0x80), UInt8.ofNat (v % 0x40 + 0x80)] v := by
  have hb : (UInt8.ofNat (v / 262144 % 0x08 + 0xF0)).toNat = v / 262144 + 0xF0 := by
    rw [toNat_byte (by omega)]
    omega
  have hsecond := toNat_follower (v / 4096)
  have hthird := toNat_follower (v / 64)
  have hlast := toNat_follower v
  obtain ⟨low, high, hfollowers, hlow, hhigh⟩ := followers?_four (v / 262144 + 0xF0)
    (v / 4096 % 0x40 + 0x80) (by omega) (by omega) (by omega) (by omega)
  refine .multiple (by omega) (hb ▸ hfollowers) (.cons (by omega) (by omega)
    (.cons (by omega) (by omega) (.cons (by omega) (by omega) .nil))) ?_
  rw [frontBits_three, hb]
  simp only [scalarOf_cons, scalarOf_nil, hsecond, hthird, hlast]
  omega

end Widths

theorem spells_utf8EncodeChar (c : Char) : Spells (String.utf8EncodeChar c) c.toNat := by
  have hvalid : c.val.toNat < 0xD800 ∨ (0xDFFF < c.val.toNat ∧ c.val.toNat < 0x110000) := c.valid
  show Spells (String.utf8EncodeChar c) c.val.toNat
  unfold String.utf8EncodeChar
  dsimp only
  generalize c.val.toNat = v at hvalid ⊢
  by_cases hone : v ≤ 0x7F
  · rw [if_pos hone]
    exact spells_one hone
  · rw [if_neg hone]
    by_cases htwo : v ≤ 0x7FF
    · rw [if_pos htwo]
      exact spells_two (by omega) htwo
    · rw [if_neg htwo]
      by_cases hthree : v ≤ 0xFFFF
      · rw [if_pos hthree]
        exact spells_three (by omega) hthree (by omega)
      · rw [if_neg hthree]
        exact spells_four (by omega) (by omega)

/-- The bytes of a character are a first one and others. -/
theorem exists_spelling (c : Char) : ∃ b bs, String.utf8EncodeChar c = b :: bs ∧
    Spells (b :: bs) c.toNat ∧ c.utf8Size = 1 + bs.length := by
  have hsize := String.length_utf8EncodeChar c
  have hspells := spells_utf8EncodeChar c
  cases hbytes : String.utf8EncodeChar c with
  | nil => exact absurd hbytes String.utf8EncodeChar_ne_nil
  | cons b bs =>
    rw [hbytes] at hsize hspells
    rw [List.length_cons] at hsize
    exact ⟨b, bs, rfl, hspells, by omega⟩

/-! ## Bytes in front of a cut -/

theorem go_nil (bytes : List UInt8) (errors : String) (e : Encoding)
    (first : UInt8 → List UInt8 → (Char × Nat) ⊕ (Nat × String)) (fuel place : Nat) :
    textOfBytes.go bytes errors e first fuel place [] = .ok [] := by
  cases fuel <;> rfl

/-- From any place on, the reader takes the characters that fit into the cut. -/
theorem go_take (bytes : List UInt8) (cs : List Char) (budget fuel place : Nat)
    (hfuel : ((utf8Bytes cs).take budget).length ≤ fuel) :
    textOfBytes.go bytes "ignore" .utf8 firstChar fuel place ((utf8Bytes cs).take budget) =
      .ok (cs.take (charsWithin budget cs)) := by
  induction cs generalizing budget fuel place with
  | nil =>
    rw [List.take_nil, utf8Bytes_nil, List.take_nil]
    exact go_nil _ _ _ _ _ _
  | cons c cs ih =>
    obtain ⟨b, bs, hbytes, hspells, hsize⟩ := exists_spelling c
    rw [utf8Bytes_cons, hbytes] at hfuel ⊢
    unfold charsWithin
    by_cases hfits : c.utf8Size ≤ budget
    · -- the whole character is in front of the cut
      have htake : (b :: bs ++ utf8Bytes cs).take budget =
          b :: (bs ++ (utf8Bytes cs).take (budget - c.utf8Size)) := by
        rw [List.take_append, List.take_of_length_le (by rw [List.length_cons]; omega),
          List.length_cons, hsize, Nat.add_comm 1, List.cons_append]
      rw [htake, List.length_cons, List.length_append] at hfuel
      obtain ⟨fuel, rfl⟩ : ∃ more, fuel = more + 1 := ⟨fuel - 1, by omega⟩
      rw [htake, if_pos hfits, List.take_succ_cons]
      unfold textOfBytes.go
      rw [hspells.firstChar_append]
      dsimp only
      rw [Nat.add_sub_cancel_left, List.drop_left, ih _ _ _ (by omega), Char.ofNat_toNat]
      rfl
    · -- the cut is inside of the character or in front of it
      rw [if_neg hfits, List.take_zero]
      cases budget with
      | zero => exact go_nil _ _ _ _ _ _
      | succ k =>
        have hk : k < bs.length := by omega
        have htake : (b :: bs ++ utf8Bytes cs).take (k + 1) = b :: bs.take k := by
          rw [List.cons_append, List.take_succ_cons, List.take_append_of_le_length (by omega)]
        rw [htake, List.length_cons] at hfuel
        obtain ⟨fuel, rfl⟩ : ∃ more, fuel = more + 1 := ⟨fuel - 1, by omega⟩
        rw [htake]
        unfold textOfBytes.go
        rw [hspells.firstChar_take hk]
        dsimp only [decodeStray]
        rw [Nat.add_sub_cancel_left, List.drop_of_length_le (List.length_take_le _ _), go_nil]
        rfl

/-- The bytes of a row of characters, cut anywhere, read as the characters that fit into the cut. -/
theorem textOfBytes_take (cs : List Char) (budget : Nat) :
    textOfBytes ((utf8Bytes cs).take budget) "utf-8" "ignore" =
      .ok (String.ofList (cs.take (charsWithin budget cs))) := by
  unfold textOfBytes
  rw [named?_utf8]
  dsimp only
  rw [go_take _ cs budget _ 0 (Nat.le_refl _)]
  rfl

end Script

open Script

namespace Source

variable {s : Source}

/-! ## Columns in bytes -/

/-- A column in bytes leads behind as many characters as can be read in front of it. -/
theorem exists_of_byteColumn {line : Int} (h : 1 ≤ line) (h' : line ≤ s.lineCount) (column : Int) :
    ∃ n, IsGreatest {n | n ≤ (s.lineChars line).length ∧
        (utf8Length ((s.lineChars line).take n) : Int) ≤ max column 0} n ∧
      s.offsetOfBytes line column = (s.lineSpan line).1 + n ∧
      ∃ bytes, bytesOfText (s.lineText line) "utf-8" "strict" = .ok bytes ∧
        textOfBytes (bytes.take column.toNat) "utf-8" "ignore" =
          .ok (String.ofList ((s.lineChars line).take n)) := by
  have hbudget : {n | n ≤ (s.lineChars line).length ∧
      (utf8Length ((s.lineChars line).take n) : Int) ≤ max column 0} =
        {n | n ≤ (s.lineChars line).length ∧
          utf8Length ((s.lineChars line).take n) ≤ column.toNat} := by
    ext n
    refine and_congr_right fun _ => ?_
    omega
  have hbytes : bytesOfText (s.lineText line) "utf-8" "strict" =
      .ok (utf8Bytes (s.lineChars line)) := by
    rw [bytesOfText_utf8]
    unfold lineText
    rw [String.toList_ofList]
  rw [hbudget]
  exact ⟨_, isGreatest_charsWithin column.toNat (s.lineChars line), offsetOfBytes_eq h h' column, _,
    hbytes, textOfBytes_take (s.lineChars line) column.toNat⟩

theorem monotone_offsetOfBytes {line : Int} (h : 1 ≤ line) (h' : line ≤ s.lineCount) :
    Monotone (s.offsetOfBytes line) := by
  intro a b hab
  rw [offsetOfBytes_eq h h', offsetOfBytes_eq h h']
  have hchars := monotone_charsWithin (s.lineChars line) (Int.toNat_le_toNat hab)
  exact Nat.add_le_add_left hchars _

/-- **Columns in bytes.** On a line of the text a column in bytes leads behind the greatest number of
characters that are not wider than the column, a column below 0 being 0; these are the characters
that the bytes of the line read as when they are cut at the column and an incomplete end is left out.
So the column of a character leads to that character, and so does one inside of it; a column
behind the line leads to its end; and a greater column never leads further back. -/
theorem offsetOfBytes_exact (s : Source) {line : Int} (h : 1 ≤ line) (h' : line ≤ s.lineCount) :
    let cs := s.lineChars line
    let start := (s.lineSpan line).1
    (∀ column : Int, ∃ n,
      IsGreatest {n | n ≤ cs.length ∧ (utf8Length (cs.take n) : Int) ≤ max column 0} n ∧
      s.offsetOfBytes line column = start + n ∧
      ∃ bytes, bytesOfText (s.lineText line) "utf-8" "strict" = .ok bytes ∧
        textOfBytes (bytes.take column.toNat) "utf-8" "ignore" =
          .ok (String.ofList (cs.take n))) ∧
    (∀ (n : Nat) (hn : n < cs.length) (more : Nat), more < cs[n].utf8Size →
      s.offsetOfBytes line (utf8Length (cs.take n) + more : Nat) = start + n) ∧
    (∀ column : Int, utf8Length cs ≤ column →
      s.offsetOfBytes line column = (s.lineSpan line).2) ∧
    Monotone (s.offsetOfBytes line) := by
  refine ⟨exists_of_byteColumn h h', ?_, ?_, monotone_offsetOfBytes h h'⟩
  · intro n hn more hmore
    rw [offsetOfBytes_eq h h', Int.toNat_natCast, charsWithin_inside hn hmore]
  · intro column hcolumn
    obtain ⟨-, hle, -⟩ := s.lineSpan_bounds line
    rw [offsetOfBytes_eq h h', charsWithin_of_utf8Length_le (by omega), length_lineChars,
      Nat.add_sub_cancel' hle]

/-- Characters of one, two, three and four bytes. -/
def stepped : Source := .ofString "né€😀"

/-- A column behind two of the three bytes of a character leads to that character, and what is read
in front of it are the two characters before it. -/
theorem offsetOfBytes_stepped :
    (1 ≤ (1 : Int) ∧ (1 : Int) ≤ stepped.lineCount) ∧ stepped.offsetOfBytes 1 5 = 2 ∧
      (∃ bytes, bytesOfText (stepped.lineText 1) "utf-8" "strict" = .ok bytes ∧
        textOfBytes (bytes.take 5) "utf-8" "ignore" = .ok "né") ∧
      (∀ more < 4, stepped.offsetOfBytes 1 (6 + more : Nat) = 3) ∧
      stepped.offsetOfBytes 1 10 = 4 ∧
      stepped.offsetOfBytes 1 (-3) ≤ stepped.offsetOfBytes 1 5 := by
  have hlines : 1 ≤ (1 : Int) ∧ (1 : Int) ≤ stepped.lineCount := by decide
  obtain ⟨hread, hinside, hbehind, hmonotone⟩ := offsetOfBytes_exact stepped hlines.1 hlines.2
  have hfive : stepped.offsetOfBytes 1 5 = 2 := hinside 2 (by decide) 2 (by decide)
  obtain ⟨n, -, hoffset, hbytes⟩ := hread 5
  have hstart : (stepped.lineSpan 1).1 = 0 := by decide
  obtain rfl : n = 2 := by omega
  exact ⟨hlines, hfive, hbytes, fun more hmore => hinside 3 (by decide) more hmore,
    hbehind 10 (by decide), hmonotone (by decide)⟩

end Source

end LiveSketch
