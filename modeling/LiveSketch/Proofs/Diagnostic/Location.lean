import LiveSketch.Editor.Report
import LiveSketch.Proofs.Analysis.Findings
import LiveSketch.Proofs.Text.Lines

/-!
# From a node to the editor

Three units of columns meet here: a node counts UTF-8 bytes, a diagnostic characters, an editor
UTF-16 code units. A node written from one offset up to another is reported at just these
(`Source.offsets_spanOf`, `Finding.locate_findingAt_spanOf`) and marked there by an editor
(`Diagnostic.editorReport_of_lt`).

`Node.located_of_mem_analyze` puts this together for the errors of the analysis: each of them blames
a node of the tree, and stands where that node stands.
-/

namespace LiveSketch

namespace Source

variable (s : Source)

/-- The UTF-8 column of an offset on its line. -/
def byteColumn (offset : Nat) : Nat :=
  utf8Length (s.slice (s.lineSpan (s.lineOf offset)).1 offset)

/-- The place of a node that is written from `start` up to `stop`. -/
def spanOf (start stop : Nat) : Span :=
  ⟨some (s.lineOf start), some (s.byteColumn start), some (s.lineOf stop), some (s.byteColumn stop)⟩

/-- The 0-based line of an offset and its UTF-16 column there. -/
def editorPlace (offset : Nat) : Nat × Nat :=
  (s.lineOf offset - 1, utf16Length (s.slice (s.lineSpan (s.lineOf offset)).1 offset))

/-- The offset is in the text, and not in the break at the end of its line. -/
def OnLine (offset : Nat) : Prop := offset ≤ (s.lineSpan (s.lineOf offset)).2

variable {s}

theorem OnLine.le_length {offset : Nat} (h : s.OnLine offset) : offset ≤ s.length :=
  Nat.le_trans h (s.lineSpan_bounds _).2.2.1

theorem offsets_spanOf {start stop : Nat} (h : start ≤ stop) (hstart : s.OnLine start)
    (hstop : s.OnLine stop) : (s.spanOf start stop).offsets s = (start, stop) := by
  have hfrom : s.offsetOfBytes (s.lineOf start) (s.byteColumn start) = start :=
    offsetOfBytes_lineOf hstart
  have hto : s.offsetOfBytes (s.lineOf stop) (s.byteColumn stop) = stop :=
    offsetOfBytes_lineOf hstop
  unfold Span.offsets spanOf
  dsimp only [Option.getD_some]
  rw [hfrom, hto, Nat.max_eq_right h]

theorem position_of_le_length {offset : Nat} (h : offset ≤ s.length) :
    s.position offset = s.editorPlace offset := by
  have hstart : s.lineStarts.getD (s.lineOf offset - 1) 0 = (s.lineSpan (s.lineOf offset)).1 := by
    rw [List.getD_eq_getElem?_getD, lineStarts_lineOf, Option.getD_some]
  unfold position editorPlace
  dsimp only
  rw [clamp_of_le h, hstart]

end Source

theorem Span.offsets_fst (p : Span) (s : Source) :
    (p.offsets s).1 = s.offsetOfBytes (p.line.getD 1) (p.column.getD 0) := by
  unfold offsets
  dsimp only
  split <;> rfl

variable {s : Source} {code text : String} {level : Level} {p : Span}

namespace Finding

/-! ## Where a finding is located -/

theorem locate_findingAt_spanOf (code text : String) (level : Level) {start stop : Nat}
    (h : start ≤ stop) (hstart : s.OnLine start) (hstop : s.OnLine stop) :
    let d := (findingAt s (s.spanOf start stop) code level text).locate s
    d.start = start ∧ d.stop = stop ∧ d.line = s.lineOf start := by
  unfold findingAt ofSpan locate
  rw [Source.offsets_spanOf h hstart hstop]
  dsimp only [Option.getD_some]
  rw [Source.clamp_of_le hstart.le_length, Source.clamp_of_le hstop.le_length]
  exact ⟨rfl, Int.max_eq_right (Int.ofNat_le.mpr h), rfl⟩

/-- The line of a finding is the line its node starts at, whatever the columns are. -/
theorem line_locate_findingAt {line : Int} (hline : p.line = some line) (h : 1 ≤ line)
    (h' : line ≤ s.lineCount) : ((findingAt s p code level text).locate s).line = line := by
  have hstart : (p.offsets s).1 = s.offsetOfBytes line (p.column.getD 0) := by
    rw [p.offsets_fst, hline, Option.getD_some]
  have hle : (p.offsets s).1 ≤ s.length := by
    rw [hstart]
    exact Nat.le_trans (Source.offset_bounds h h' _).2 (s.lineSpan_bounds line).2.2.1
  unfold findingAt ofSpan locate
  dsimp only [Option.getD_some]
  rw [Source.clamp_of_le hle, hstart]
  exact Source.lineOf_offsetOfBytes h h' _

end Finding

theorem Diagnostic.editorReport_of_lt {d : Diagnostic} {start stop : Nat} (hlt : start < stop)
    (hle : stop ≤ s.length) (hstart : d.start = start) (hstop : d.stop = stop) :
    (d.editorReport s).start = s.editorPlace start ∧
      (d.editorReport s).stop = s.editorPlace stop := by
  have hmarked : d.markedSpan s = (↑start, ↑stop) := by
    unfold markedSpan
    rw [if_neg (by omega), hstart, hstop]
  unfold editorReport
  dsimp only
  rw [hmarked]
  exact ⟨Source.position_of_le_length (by omega), Source.position_of_le_length hle⟩

/-! ## Errors of the analysis -/

/-- An imported name is blamed itself if it has a place; otherwise its whole statement is. -/
def Node.blamedIn (part whole : Node) : Node := if part.span.line.isSome then part else whole

theorem Node.span_blamedIn (part whole : Node) :
    (part.blamedIn whole).span = part.span.orElse whole.span := by
  unfold blamedIn Span.orElse
  split <;> rfl

namespace Finding

/-- The finding says at the node what is wrong with it: nothing defines the name, the import is
relative, or what is imported is not for scripts. -/
inductive Blames (s : Source) (r : References) (loaded : List String) : Finding → Node → Prop
  | undefined {n : Node} {id : String} (h : n.readName? = some id) :
    Blames s r loaded
      (findingAt s n.span "E0602" .error ("The name '" ++ id ++ "' is not defined")) n
  | relative {n : Node} {module : Option String} {names : List Node} {level : Option Int}
    (h : n.form = .importFrom module names level) (hlevel : level.getD 0 ≠ 0) :
    Blames s r loaded (findingAt s n.span "E0402" .error
      "Relative imports are not supported in drawing scripts") n
  /-- A module that is imported under its own name. -/
  | module {n part : Node} {names : List Node} {name : String} {asName : Option String}
    (h : n.form = .importModules names) (hpart : part ∈ names)
    (hname : part.form = .importedName name asName) (habsent : r.contains name = false) :
    Blames s r loaded (unavailableImport s (part.blamedIn n).span name) (part.blamedIn n)
  /-- A module that names are taken from. -/
  | origin {n : Node} {module : Option String} {names : List Node} {level : Option Int}
    (h : n.form = .importFrom module names level) (hlevel : level.getD 0 = 0)
    (habsent : r.contains (module.getD "") = false) :
    Blames s r loaded (unavailableImport s n.span (module.getD "")) n
  /-- A name taken from a module that is a module itself. -/
  | member {n part : Node} {module : Option String} {names : List Node} {level : Option Int}
    {name : String} {asName : Option String}
    (h : n.form = .importFrom module names level) (hlevel : level.getD 0 = 0)
    (hpresent : r.contains (module.getD "") = true) (hpart : part ∈ names)
    (hname : part.form = .importedName name asName)
    (hloaded : loaded.contains (module.getD "" ++ "." ++ name) = true)
    (habsent : r.contains (module.getD "" ++ "." ++ name) = false) :
    Blames s r loaded
      (unavailableImport s (part.blamedIn n).span (module.getD "" ++ "." ++ name)) (part.blamedIn n)

/-- The finding is seen where the node stands: at the offsets it was written at in the text, on the
line it starts at, and in an editor at the lines and UTF-16 columns of these offsets. -/
structure StandsAt (f : Finding) (s : Source) (n : Node) : Prop where
  written : ∀ start stop : Nat, start < stop → s.OnLine start → s.OnLine stop →
    n.span = s.spanOf start stop →
      (f.locate s).start = start ∧ (f.locate s).stop = stop ∧
        (f.locate s).line = s.lineOf start ∧
        ((f.locate s).editorReport s).start = s.editorPlace start ∧
        ((f.locate s).editorReport s).stop = s.editorPlace stop
  line : ∀ line : Int, n.span.line = some line → 1 ≤ line → line ≤ s.lineCount →
    (f.locate s).line = line

theorem standsAt_findingAt {n : Node} : (findingAt s n.span code level text).StandsAt s n where
  written start stop hlt hstart hstop hspan := by
    rw [hspan]
    obtain ⟨hfrom, hto, hline⟩ :=
      locate_findingAt_spanOf code text level (Nat.le_of_lt hlt) hstart hstop
    exact ⟨hfrom, hto, hline, Diagnostic.editorReport_of_lt hlt hstop.le_length hfrom hto⟩
  line _ hline h h' := line_locate_findingAt hline h h'

theorem Blames.standsAt {r : References} {loaded : List String} {f : Finding} {n : Node}
    (h : f.Blames s r loaded n) : f.StandsAt s n := by
  cases h with
  | undefined => exact standsAt_findingAt
  | relative => exact standsAt_findingAt
  | module => exact standsAt_findingAt
  | origin => exact standsAt_findingAt
  | member => exact standsAt_findingAt

end Finding

namespace Node

variable {r : References} {loaded : Loaded} {tree n : Node} {f : Finding}

theorem mem_of_mem_aliases {names : List Node} {p : Span} {name : String} {asName : Option String}
    (h : (p, name, asName) ∈ aliases names) :
    ∃ n ∈ names, n.span = p ∧ n.form = .importedName name asName := by
  obtain ⟨n, hn, ha⟩ := List.mem_filterMap.mp h
  split at ha
  · rename_i hform
    cases ha
    exact ⟨n, hn, rfl, hform⟩
  · cases ha

theorem subset_all_of_mem_all {tree n : Node} (h : n ∈ tree.all) : n.all ⊆ tree.all := by
  intro m hm
  rw [all_eq] at h
  rcases List.mem_cons.mp h with rfl | h
  · exact hm
  · obtain ⟨child, hchild, hn⟩ := List.mem_flatMap.mp h
    rw [all_eq]
    exact List.mem_cons_of_mem _
      (List.mem_flatMap.mpr ⟨child, hchild, subset_all_of_mem_all hn hm⟩)
termination_by sizeOf tree
decreasing_by exact sizeOf_lt_of_mem_children hchild

theorem blamedIn_mem_all {part : Node} (h : part ∈ n.children) : part.blamedIn n ∈ n.all := by
  unfold blamedIn
  split
  · rw [all_eq]
    exact List.mem_cons_of_mem _ (List.mem_flatMap.mpr ⟨part, h, part.mem_all_self⟩)
  · exact n.mem_all_self

theorem exists_blames_of_mem_importFindings {running : List String}
    (h : f ∈ n.importFindings s r running) : ∃ m ∈ n.all, f.Blames s r running m := by
  unfold importFindings at h
  split at h
  · rename_i names hform
    have hnames : n.children = names := by
      unfold children
      rw [hform]
      rfl
    obtain ⟨⟨span, name, asName⟩, halias, ha⟩ := List.mem_filterMap.mp h
    obtain ⟨part, hpart, rfl, hname⟩ := mem_of_mem_aliases halias
    dsimp only at ha
    split at ha
    · cases ha
    · rename_i habsent
      cases ha
      rw [← span_blamedIn]
      exact ⟨_, blamedIn_mem_all (hnames ▸ hpart),
        .module hform hpart hname (Bool.eq_false_iff.mpr habsent)⟩
  · rename_i module names level hform
    have hnames : n.children = names := by
      unfold children
      rw [hform]
      rfl
    split at h
    · rename_i hlevel
      rw [List.mem_singleton.mp h]
      exact ⟨n, n.mem_all_self, .relative hform hlevel⟩
    · rename_i hlevel
      have hlevel : level.getD 0 = 0 := not_not.mp hlevel
      dsimp only at h
      split at h
      · rename_i habsent
        rw [List.mem_singleton.mp h]
        exact ⟨n, n.mem_all_self, .origin hform hlevel (Bool.not_eq_true' _ ▸ habsent)⟩
      · rename_i hpresent
        obtain ⟨⟨span, name, asName⟩, halias, ha⟩ := List.mem_filterMap.mp h
        obtain ⟨part, hpart, rfl, hname⟩ := mem_of_mem_aliases halias
        dsimp only at ha
        split at ha
        · rename_i hhidden
          obtain ⟨hloaded, habsent⟩ := Bool.and_eq_true_iff.mp hhidden
          cases ha
          rw [← span_blamedIn]
          exact ⟨_, blamedIn_mem_all (hnames ▸ hpart), .member hform hlevel (by simpa using hpresent)
            hpart hname hloaded (by simpa using habsent)⟩
        · cases ha
  · cases h

theorem blames_of_mem_unknownNames {known running : List String} (h : f ∈ n.unknownNames s known) :
    f.Blames s r running n := by
  unfold unknownNames at h
  split at h
  · rename_i id hread
    split at h
    · cases h
    · rw [List.mem_singleton.mp h]
      exact .undefined hread
  · cases h

/-- **Locations.** Every error of the analysis blames a node of the tree. Where the node it blames
was written from one offset up to another, it is seen from there to there, in the text and in an
editor; and whatever the columns of the node, it is seen on the node's line. -/
theorem located_of_mem_analyze (h : f ∈ tree.analyze s r loaded) (hlevel : f.level = .error) :
    (∃ n ∈ tree.all, f.Blames s r loaded.modules n) ∧
      ∀ n, f.Blames s r loaded.modules n → f.StandsAt s n := by
  refine ⟨?_, fun n hn => hn.standsAt⟩
  rcases List.mem_append.mp h with h | h
  · rcases List.mem_append.mp h with h | h
    · obtain ⟨n, hn, hf⟩ := List.mem_flatMap.mp h
      obtain ⟨m, hm, hblames⟩ := exists_blames_of_mem_importFindings hf
      exact ⟨m, subset_all_of_mem_all hn hm, hblames⟩
    · unfold undefinedNames at h
      split at h
      · cases h
      · obtain ⟨n, hn, hf⟩ := List.mem_flatMap.mp h
        exact ⟨n, hn, blames_of_mem_unknownNames hf⟩
  · rw [(of_mem_idleImports h).2] at hlevel
    cases hlevel

end Node

/-! ### A name and an import behind an emoji -/

/-- A name and an imported module on the second line, behind a character of four bytes. -/
def blamedText : Source := .ofString "# é\n'😀'; x; import os"

def blamedName : Node := .mk (blamedText.spanOf 9 10) (.name "x" .load)

def blamedModule : Node := .mk (blamedText.spanOf 19 21) (.importedName "os" none)

def blamedScript : Node :=
  .mk .unknown (.module
    [.mk .unknown (.expression blamedName), .mk .unknown (.importModules [blamedModule])])

/-- What the analysis says about the name. -/
def nameFinding : Finding :=
  findingAt blamedText blamedName.span "E0602" .error ("The name '" ++ "x" ++ "' is not defined")

def moduleFinding : Finding := unavailableImport blamedText blamedModule.span "os"

theorem all_blamedScript :
    blamedScript.all = [blamedScript, .mk .unknown (.expression blamedName), blamedName,
      .mk .unknown (.importModules [blamedModule]), blamedModule] := by
  simp [Node.all_eq, blamedScript, blamedName, blamedModule, Node.children, Node.form, Form.parts]

theorem mem_analyze_blamedName : nameFinding ∈ blamedScript.analyze blamedText ⟨[]⟩ ⟨[], []⟩ := by
  have hstar : blamedScript.hasStarImport = false := by
    unfold Node.hasStarImport
    rw [all_blamedScript]
    rfl
  have hbindings : blamedScript.bindings = ["os"] := by
    unfold Node.bindings
    rw [all_blamedScript]
    rfl
  have hunknown :
      blamedName.unknownNames blamedText (["os"] ++ [] ++ moduleNames) = [nameFinding] := by
    unfold Node.unknownNames
    rw [show blamedName.readName? = some "x" from rfl]
    exact if_neg (by decide)
  refine List.mem_append_left _ (List.mem_append_right _ ?_)
  unfold Node.undefinedNames
  rw [hstar, if_neg Bool.false_ne_true, all_blamedScript, hbindings]
  refine List.mem_flatMap.mpr ⟨blamedName, by simp, ?_⟩
  rw [hunknown]
  exact List.mem_singleton_self _

theorem mem_analyze_blamedModule : moduleFinding ∈ blamedScript.analyze blamedText ⟨[]⟩ ⟨[], []⟩ := by
  refine List.mem_append_left _ (List.mem_append_left _ ?_)
  unfold Node.refusedImports
  rw [all_blamedScript]
  exact List.mem_flatMap.mpr ⟨.mk .unknown (.importModules [blamedModule]), by simp,
    List.mem_singleton_self _⟩

/-- In the second line of the editor the name is marked from the seventh UTF-16 unit to the eighth,
and the module from the seventeenth to the nineteenth. -/
theorem located_blamedScript :
    (nameFinding ∈ blamedScript.analyze blamedText ⟨[]⟩ ⟨[], []⟩ ∧ nameFinding.level = .error ∧
      nameFinding.Blames blamedText ⟨[]⟩ [] blamedName ∧
      (9 < 10 ∧ blamedText.OnLine 9 ∧ blamedText.OnLine 10 ∧
        blamedName.span = blamedText.spanOf 9 10) ∧
      (nameFinding.locate blamedText).start = 9 ∧ (nameFinding.locate blamedText).stop = 10 ∧
      (nameFinding.locate blamedText).line = 2 ∧
      ((nameFinding.locate blamedText).editorReport blamedText).start = (1, 6) ∧
      ((nameFinding.locate blamedText).editorReport blamedText).stop = (1, 7)) ∧
    (moduleFinding ∈ blamedScript.analyze blamedText ⟨[]⟩ ⟨[], []⟩ ∧ moduleFinding.level = .error ∧
      moduleFinding.Blames blamedText ⟨[]⟩ [] blamedModule ∧
      (19 < 21 ∧ blamedText.OnLine 19 ∧ blamedText.OnLine 21 ∧
        blamedModule.span = blamedText.spanOf 19 21) ∧
      (moduleFinding.locate blamedText).start = 19 ∧ (moduleFinding.locate blamedText).stop = 21 ∧
      (moduleFinding.locate blamedText).line = 2 ∧
      ((moduleFinding.locate blamedText).editorReport blamedText).start = (1, 16) ∧
      ((moduleFinding.locate blamedText).editorReport blamedText).stop = (1, 18)) := by
  have hname : nameFinding.Blames blamedText ⟨[]⟩ [] blamedName := .undefined rfl
  have hmodule : moduleFinding.Blames blamedText ⟨[]⟩ [] blamedModule :=
    .module (n := .mk .unknown (.importModules [blamedModule])) rfl (List.mem_singleton_self _) rfl
      rfl
  have hlines : (blamedText.OnLine 9 ∧ blamedText.OnLine 10) ∧
      blamedText.OnLine 19 ∧ blamedText.OnLine 21 := by
    unfold Source.OnLine
    decide
  obtain ⟨hstart, hstop, hline, hfrom, hto⟩ :=
    ((Node.located_of_mem_analyze mem_analyze_blamedName rfl).2 blamedName hname).written 9 10
      (by decide) hlines.1.1 hlines.1.2 rfl
  obtain ⟨hstart', hstop', hline', hfrom', hto'⟩ :=
    ((Node.located_of_mem_analyze mem_analyze_blamedModule rfl).2 blamedModule hmodule).written 19 21
      (by decide) hlines.2.1 hlines.2.2 rfl
  exact ⟨⟨mem_analyze_blamedName, rfl, hname, ⟨by decide, hlines.1.1, hlines.1.2, rfl⟩, hstart, hstop,
    hline.trans (by decide), hfrom.trans (by decide), hto.trans (by decide)⟩,
    mem_analyze_blamedModule, rfl, hmodule, ⟨by decide, hlines.2.1, hlines.2.2, rfl⟩, hstart', hstop',
    hline'.trans (by decide), hfrom'.trans (by decide), hto'.trans (by decide)⟩

end LiveSketch
