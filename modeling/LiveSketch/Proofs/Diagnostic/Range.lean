import LiveSketch.Proofs.Compile.Shown
import LiveSketch.Proofs.Diagnostic.Location
import LiveSketch.Proofs.Entry.Draws
import LiveSketch.Proofs.Session.Event

/-!
# Ranges in an editor

An editor rejects a range whose end is before its start, or which names a line or a column that is
not there. Both ends of a report come from offsets, each by itself, so this is a fact about
`Source.editorPlace`:

1. an offset is at most one carriage return behind the span of its line
   (`Source.le_stop_or_at_return`), so its place exists (`Source.isPlace_editorPlace`);
2. a later offset has a later place (`Source.editorPlace_le`), because it is on a later line or has
   more characters of the same line before it;
3. the ends of a line's span are on that line (`Source.editorPlace_lineSpan`).

Every diagnostic that a compile or a draw gives is at a span of the text
(`spansIn_of_mem_compiled`, `spansIn_of_mem_answer`).
-/

namespace LiveSketch

/-! ## Places -/

/-- One place is not after another: on an earlier line, or on the same at a column not after. -/
def PlaceLe (p q : Nat × Nat) : Prop := p.1 < q.1 ∨ (p.1 = q.1 ∧ p.2 ≤ q.2)

namespace Source

/-- The characters of a 1-based line, with the carriage return of its break. -/
def lineBody (s : Source) (line : Int) : List Char :=
  s.lineChars line ++ if s.chars[(s.lineSpan line).2]? = some '\r' then ['\r'] else []

/-- The place exists: the line is one of the text, and the column not behind its characters. -/
def IsPlace (s : Source) (p : Nat × Nat) : Prop :=
  p.1 < s.lineCount ∧ p.2 ≤ utf16Length (s.lineBody (p.1 + 1 : Nat))

variable {s : Source}

theorem isPlace_editorPlace {offset : Nat} (ho : offset ≤ s.length) :
    s.IsPlace (s.editorPlace offset) := by
  have hpos := s.one_le_lineOf offset
  have hcount := s.lineOf_le_lineCount offset
  have hline : s.lineOf offset - 1 + 1 = s.lineOf offset := Nat.sub_add_cancel hpos
  refine ⟨by unfold editorPlace; dsimp only; omega, ?_⟩
  unfold editorPlace
  dsimp only
  rw [hline]
  refine utf16Length_le_of_prefix ?_
  unfold lineBody lineChars
  -- the characters before the offset begin the line, with its carriage return if need be
  rcases le_stop_or_at_return ho with hle | ⟨hat, hreturn⟩
  · exact (s.slice_prefix_slice _ hle).trans (List.prefix_append _ _)
  · have hspan := (s.lineSpan_bounds (s.lineOf offset)).2.1
    rw [if_pos hreturn, ← slice_succ hspan hreturn]
    exact s.slice_prefix_slice _ (Nat.le_of_eq hat)

theorem editorPlace_le {a b : Nat} (h : a ≤ b) : PlaceLe (s.editorPlace a) (s.editorPlace b) := by
  have hpos := s.one_le_lineOf a
  unfold PlaceLe editorPlace
  dsimp only
  rcases Nat.lt_or_eq_of_le (lineOf_le_lineOf (s := s) h) with hlt | heq
  · exact .inl (by omega)
  · rw [heq]
    exact .inr ⟨rfl, utf16Length_le_of_prefix (s.slice_prefix_slice _ h)⟩

theorem editorPlace_lineSpan (line : Int) :
    s.editorPlace (s.lineSpan line).1 = (s.clampLine line - 1, 0) ∧
      s.editorPlace (s.lineSpan line).2 =
        (s.clampLine line - 1, utf16Length (s.lineChars line)) := by
  obtain ⟨-, hle, -⟩ := s.lineSpan_bounds line
  unfold editorPlace lineChars
  rw [lineOf_eq_of_mem_lineSpan (Nat.le_refl _) hle, lineOf_eq_of_mem_lineSpan hle (Nat.le_refl _),
    lineSpan_clampLine]
  rw [slice_self]
  exact ⟨rfl, rfl⟩

end Source

/-! ## Reports -/

/-- The diagnostic is at a span of the text. -/
structure Diagnostic.SpansIn (d : Diagnostic) (s : Source) : Prop where
  start_nonneg : 0 ≤ d.start
  start_le_stop : d.start ≤ d.stop
  stop_le : d.stop ≤ s.length

/-- An editor accepts the range of the report: its ends exist and come in order. -/
structure EditorReport.IsValid (e : EditorReport) (s : Source) : Prop where
  ordered : PlaceLe e.start e.stop
  start_isPlace : s.IsPlace e.start
  stop_isPlace : s.IsPlace e.stop

section Reports

variable {s : Source} {d : Diagnostic}

theorem Diagnostic.exists_markedSpan (h : d.SpansIn s) :
    ∃ start stop : Nat, d.markedSpan s = (↑start, ↑stop) ∧ start ≤ stop ∧ stop ≤ s.length := by
  obtain ⟨hstart, hle, hstop⟩ := h
  unfold markedSpan
  split
  · obtain ⟨-, hspan, hend, -⟩ := s.lineSpan_bounds d.line
    exact ⟨_, _, rfl, hspan, hend⟩
  · exact ⟨d.start.toNat, d.stop.toNat, by rw [Int.toNat_of_nonneg hstart,
      Int.toNat_of_nonneg (Int.le_trans hstart hle)], by omega, by omega⟩

theorem Diagnostic.SpansIn.isValid (h : d.SpansIn s) : (d.editorReport s).IsValid s := by
  obtain ⟨start, stop, hmarked, hle, hstop⟩ := d.exists_markedSpan h
  have hstart : start ≤ s.length := Nat.le_trans hle hstop
  have hreport : (d.editorReport s).start = s.editorPlace start ∧
      (d.editorReport s).stop = s.editorPlace stop := by
    unfold editorReport
    rw [hmarked]
    exact ⟨Source.position_of_le_length hstart, Source.position_of_le_length hstop⟩
  exact {
    ordered := by rw [hreport.1, hreport.2]; exact Source.editorPlace_le hle
    start_isPlace := hreport.1 ▸ Source.isPlace_editorPlace hstart
    stop_isPlace := hreport.2 ▸ Source.isPlace_editorPlace hstop }

/-- A diagnostic without offsets is shown on the whole of its line, or of the last one. -/
theorem Diagnostic.editorReport_of_unplaced (hstart : d.start = 0) (hstop : d.stop = 0)
    (hline : 0 < d.line) :
    let line := min d.line.toNat s.lineCount
    (d.editorReport s).start = (line - 1, 0) ∧
      (d.editorReport s).stop = (line - 1, utf16Length (s.lineChars line)) := by
  have hclamp : min d.line.toNat s.lineCount = s.clampLine d.line := by
    unfold Source.clampLine
    have := s.lineCount_pos
    omega
  have hchars : s.lineChars (s.clampLine d.line) = s.lineChars d.line := by
    unfold Source.lineChars
    rw [Source.lineSpan_clampLine]
  have hmarked : d.markedSpan s = (↑(s.lineSpan d.line).1, ↑(s.lineSpan d.line).2) :=
    if_pos ⟨hstart, hstop, hline⟩
  obtain ⟨-, hle, hend, -⟩ := s.lineSpan_bounds d.line
  dsimp only
  rw [hclamp, hchars]
  unfold editorReport
  rw [hmarked]
  dsimp only
  rw [Source.position_of_le_length (Nat.le_trans hle hend), Source.position_of_le_length hend]
  exact Source.editorPlace_lineSpan d.line

end Reports

/-! ## Diagnostics of compiles and draws -/

variable {σ ν : Type} {s : Source}

theorem Diagnostic.InText.spansIn {d : Diagnostic} (h : d.InText s) : d.SpansIn s :=
  ⟨h.start_nonneg, h.start_le_stop, h.stop_le⟩

/-- A fault without a place is at the empty span in front of every text. -/
theorem Diagnostic.spansIn_fault (message : String) (line : Int) (s : Source) :
    (Diagnostic.fault message line).SpansIn s :=
  ⟨Int.le_refl 0, Int.le_refl 0, Int.natCast_nonneg _⟩

theorem mem_missingEntry {tree? : Option Node} {d : Diagnostic} (h : d ∈ missingEntry tree?) :
    d = entryMissing := by
  unfold missingEntry at h
  split at h
  · cases h
  · split at h
    · exact List.mem_singleton.mp h
    · cases h

theorem spansIn_of_mem_compiled {program : Program σ} {r : References} {loaded : Loaded}
    {cancelAt : Option Nat} {c : Compiled σ ν}
    (hc : ((compile s program r loaded).runFrom cancelAt).1 = .ok c) {d : Diagnostic}
    (hd : d ∈ c.diagnostics) : d.SpansIn s := by
  obtain ⟨findings, tree?, -, -, rfl⟩ := exists_course hc
  rw [ofFindings_diagnostics] at hd
  unfold sortDiagnostics at hd
  rw [List.mem_mergeSort] at hd
  rcases List.mem_append.mp hd with hfound | hmissing
  · rw [diagnosticsOf_eq] at hfound
    obtain ⟨f, -, rfl⟩ := List.mem_map.mp hfound
    exact (f.locate_inText s).spansIn
  · rw [mem_missingEntry hmissing]
    exact Diagnostic.spansIn_fault _ _ s

section Draw

variable {engine : Engine σ ν} {entry : EntryPoint} {ds : List Diagnostic}

/-- What a draw answers about the end of its script are faults without a place. -/
theorem exists_fault_of_answerOf {ended : Except Fault Unit} {state : σ}
    (h : ((answerOf engine entry ended).run state).1 = .ok ds) :
    ∀ d ∈ ds, ∃ message line, d = .fault message line := by
  intro d hd
  cases ended with
  | ok _ =>
    cases h
    cases hd
  | error fault =>
    have hended : (handled engine entry fault).run.run state = (.ok ds, _) := Prod.ext h rfl
    obtain ⟨-, f, frames, label, -, rfl⟩ := handled_eq_ok_iff.mp hended
    exact ⟨_, _, List.mem_singleton.mp hd⟩

theorem exists_answerOf_invoke (engine : Engine σ ν) (entry : EntryPoint) (binding : Binding ν)
    (canvas : Canvas) (width height : Int) (state : σ) :
    ∃ ended state', ((invoke engine entry binding canvas width height).run state).1.2.answer =
      ((answerOf engine entry ended).run state').1 := by
  have hbound : ∀ (target : ν) (state : σ), ∃ ended state',
      ((invoke engine entry (.bound target) canvas width height).run state).1.2.answer =
        ((answerOf engine entry ended).run state').1 := fun _ _ => ⟨_, _, rfl⟩
  have hfailed : ∀ (fault : Fault) (state : σ), ∃ ended state',
      ((invoke engine entry (.failed fault : Binding ν) canvas width height).run
        state).1.2.answer = ((answerOf engine entry ended).run state').1 := fun _ _ => ⟨_, _, rfl⟩
  cases binding with
  | bound target => exact hbound target state
  | failed fault => exact hfailed fault state
  | lost => exact ⟨.error (.plain "TypeError" "'NoneType' object is not callable"), state, rfl⟩
  | unbound =>
    obtain ⟨⟨created, state'⟩, hcreated⟩ :
        ∃ end', (createTarget engine entry).run.run state = end' := ⟨_, rfl⟩
    cases created with
    | ok target =>
      rw [invoke_of_created canvas width height hcreated]
      exact hbound target state'
    | error fault =>
      cases hstopped : fault.isStopped with
      | true =>
        rw [invoke_of_stopped canvas width height hcreated hstopped]
        exact hfailed fault state'
      | false =>
        rw [invoke_of_beyond canvas width height hcreated hstopped]
        refine ⟨.error fault, state', ?_⟩
        show _ = ((handled engine entry fault).run.run state').1
        rw [handled_of_beyond hstopped]
        rfl

theorem spansIn_of_mem_answer {a : Artifact σ ν} {q : DrawRequest σ}
    (h : (a.answer engine q).answer = .ok ds) {d : Diagnostic} (hd : d ∈ ds) : d.SpansIn s := by
  unfold Artifact.answer at h
  cases hentry : Resolution.entry? (a.resolution.settle a.tree) with
  | none =>
    rw [Artifact.drawn_of_no_entry hentry] at h
    cases h
    rw [List.mem_singleton.mp hd]
    exact Diagnostic.spansIn_fault _ _ s
  | some entry =>
    rw [Artifact.drawn_of_entry hentry] at h
    obtain ⟨ended, state', hended⟩ :=
      exists_answerOf_invoke engine entry a.binding q.canvas q.width q.height (q.meanwhile a.state)
    obtain ⟨message, line, rfl⟩ := exists_fault_of_answerOf (hended.symm.trans h) d hd
    exact Diagnostic.spansIn_fault message line s

end Draw

/-! ## Texts that cannot be encoded -/

theorem firstHalf_eq_none_iff {place : Nat} {us : List SentUnit} :
    firstHalf place us = none ↔ ∀ u ∈ us, ∃ c, u = .char c := by
  induction us generalizing place with
  | nil => exact iff_of_true rfl (List.forall_mem_nil _)
  | cons u us ih =>
    cases u with
    | char c =>
      rw [List.forall_mem_cons]
      exact ih.trans (and_iff_right ⟨c, rfl⟩).symm
    | half k =>
      refine iff_of_false nofun fun h => ?_
      obtain ⟨c, hc⟩ := h _ List.mem_cons_self
      cases hc

namespace SentText

variable {t : SentText}

/-- No half stands in front of the offset on its line. -/
def IsEncodable (t : SentText) (offset : Int) : Prop := ∀ u ∈ t.before offset, ∃ c, u = .char c

theorem position_eq_ok_iff {offset : Int} {p : Nat × Nat} :
    t.position offset = .ok p ↔ t.IsEncodable offset ∧ p = t.shape.position offset := by
  unfold position IsEncodable
  rw [← @firstHalf_eq_none_iff 0]
  cases firstHalf 0 (t.before offset) with
  | none => simp [eq_comm]
  | some found => simp

/-- A text of characters alone is its shape, and can be encoded up to any offset. -/
theorem shape_sent (s : Source) : s.sent.shape = s := by
  unfold Source.sent shape
  simp only [List.map_map]
  exact congrArg Source.mk (List.map_id s.chars)

theorem isEncodable_sent (s : Source) (offset : Int) : s.sent.IsEncodable offset := by
  intro u hu
  obtain ⟨c, -, rfl⟩ := List.mem_map.mp (List.mem_of_mem_drop (List.mem_of_mem_take hu))
  exact ⟨c, rfl⟩

end SentText

theorem Diagnostic.sentReport_eq_ok_iff {d : Diagnostic} {t : SentText} {e : EditorReport} :
    d.sentReport t = .ok e ↔ (t.IsEncodable (d.markedSpan t.shape).1 ∧
      t.IsEncodable (d.markedSpan t.shape).2) ∧ e = d.editorReport t.shape := by
  unfold sentReport editorReport
  dsimp only
  cases hstart : t.position (d.markedSpan t.shape).1 with
  | error fault =>
    refine iff_of_false nofun fun h => ?_
    cases hstart.symm.trans (SentText.position_eq_ok_iff.mpr ⟨h.1.1, rfl⟩)
  | ok start =>
    cases hstop : t.position (d.markedSpan t.shape).2 with
    | error fault =>
      refine iff_of_false nofun fun h => ?_
      cases hstop.symm.trans (SentText.position_eq_ok_iff.mpr ⟨h.1.2, rfl⟩)
    | ok stop =>
      obtain ⟨hfrom, rfl⟩ := SentText.position_eq_ok_iff.mp hstart
      obtain ⟨hto, rfl⟩ := SentText.position_eq_ok_iff.mp hstop
      exact ⟨fun h => ⟨⟨hfrom, hto⟩, (Except.ok.inj h).symm⟩, fun h => congrArg _ h.2.symm⟩

/-- **Ranges are valid.** Whatever its line is, a diagnostic at a span of a text that was sent is
reported exactly if no half of a surrogate pair stands alone on the line of an end of what is marked,
in front of that end; a text of characters has none. Then its range is one that an editor accepts;
without offsets but with a line it is the whole of that line, or of the last one. And every
diagnostic that a compile or a draw gives is at a span of the text. -/
theorem editorReport_isValid :
    (∀ (t : SentText) (d : Diagnostic), d.SpansIn t.shape →
      ((∃ e, d.sentReport t = .ok e) ↔ t.IsEncodable (d.markedSpan t.shape).1 ∧
        t.IsEncodable (d.markedSpan t.shape).2) ∧
      ∀ e, d.sentReport t = .ok e → e.IsValid t.shape ∧
        (d.start = 0 → d.stop = 0 → 0 < d.line →
          let line := min d.line.toNat t.shape.lineCount
          e.start = (line - 1, 0) ∧ e.stop = (line - 1, utf16Length (t.shape.lineChars line)))) ∧
    (∀ s : Source, s.sent.shape = s ∧ (∀ offset, s.sent.IsEncodable offset) ∧
      ∀ d : Diagnostic, d.sentReport s.sent = .ok (d.editorReport s)) ∧
    (∀ (s : Source) (program : Program σ) (r : References) (loaded : Loaded)
      (cancelAt : Option Nat) (c : Compiled σ ν),
      ((compile s program r loaded).runFrom cancelAt).1 = .ok c → ∀ d ∈ c.diagnostics, d.SpansIn s) ∧
    ∀ (s : Source) (a : Artifact σ ν) (engine : Engine σ ν) (q : DrawRequest σ)
      (ds : List Diagnostic), (a.answer engine q).answer = .ok ds → ∀ d ∈ ds, d.SpansIn s := by
  refine ⟨fun t d hspan => ⟨?_, fun e he => ?_⟩, fun s => ?_,
    fun _ _ _ _ _ _ hc _ hd => spansIn_of_mem_compiled hc hd,
    fun _ _ _ _ _ h _ hd => spansIn_of_mem_answer h hd⟩
  · simp only [Diagnostic.sentReport_eq_ok_iff]
    exact ⟨fun ⟨_, h, _⟩ => h, fun h => ⟨_, h, rfl⟩⟩
  · obtain ⟨-, rfl⟩ := Diagnostic.sentReport_eq_ok_iff.mp he
    exact ⟨hspan.isValid, Diagnostic.editorReport_of_unplaced⟩
  · refine ⟨SentText.shape_sent s, SentText.isEncodable_sent s, fun d => ?_⟩
    refine Diagnostic.sentReport_eq_ok_iff.mpr
      ⟨⟨SentText.isEncodable_sent s _, SentText.isEncodable_sent s _⟩, ?_⟩
    rw [SentText.shape_sent]

/-- A diagnostic that stands on half a surrogate pair. -/
def Diagnostic.halved : Diagnostic := ⟨.error, "error E0001: invalid character", 0, 0, 1⟩

/-- The half alone, which has no place behind it. -/
def SentText.halved : SentText := ⟨[.half 0]⟩

/-- A diagnostic at a span of a text that was sent does not always have a range. -/
theorem report_not_always_valid :
    ¬ ∀ (t : SentText) (d : Diagnostic), d.SpansIn t.shape →
      ∃ e, d.sentReport t = .ok e ∧ e.IsValid t.shape := by
  intro h
  obtain ⟨e, he, -⟩ := h .halved .halved ⟨by decide, by decide, by decide⟩
  obtain ⟨⟨-, hstop⟩, -⟩ := Diagnostic.sentReport_eq_ok_iff.mp he
  obtain ⟨c, hc⟩ := hstop (.half 0) (by decide)
  cases hc

/-! ### A span from inside a break -/

/-- A text with a carriage return in its first break and a pair of UTF-16 units behind it. -/
def Source.paired : Source := .ofString "a\r\n😀b"

/-- A diagnostic that starts inside the break, on no line of the text. -/
def Diagnostic.astride : Diagnostic := ⟨.warning, "warning W0001: astride", 2, 4, -7⟩

/-- A program whose second line is no text of the language. -/
def Program.torn : Program Unit where
  parse := ⟨[], .error (.malformed ⟨"invalid syntax", some 2, some 1, some 2, some 2, none⟩)⟩
  emit := ⟨[], .ok ()⟩
  start := ()

/-- A script without an entry point. -/
def Artifact.blank : Artifact Unit Unit := ⟨.mk .unknown (.module []), .unresolved, .unbound, ()⟩

/-- It is marked from behind the carriage return; a fault behind the last line is on that line. -/
theorem isValid_astride :
    Diagnostic.astride.SpansIn Source.paired.sent.shape ∧
      (∃ e, Diagnostic.astride.sentReport Source.paired.sent = .ok e ∧
        e.IsValid Source.paired.sent.shape ∧ e.start = (0, 2) ∧ e.stop = (1, 2)) ∧
      (∃ e, (Diagnostic.fault "late" 9).sentReport Source.paired.sent = .ok e ∧
        e.IsValid Source.paired.sent.shape ∧ e.start = (1, 0) ∧ e.stop = (1, 3)) ∧
      (∃ c : Compiled Unit Unit,
        ((compile .paired .torn ⟨[]⟩ ⟨[], []⟩).runFrom none).1 = .ok c ∧ c.diagnostics ≠ [] ∧
          ∀ d ∈ c.diagnostics, d.SpansIn .paired) ∧
      Artifact.blank.answer .idle ⟨.sheet, 1, 1, id⟩ = ⟨[], .ok [entryMissing]⟩ ∧
        entryMissing.SpansIn .paired := by
  obtain ⟨hreports, htexts, hspanned, hdrawn⟩ := editorReport_isValid (σ := Unit) (ν := Unit)
  obtain ⟨hshape, -, hsent⟩ := htexts .paired
  have hspans : Diagnostic.astride.SpansIn Source.paired.sent.shape := by
    rw [hshape]
    exact ⟨by decide, by decide, by decide⟩
  have hvalid := ((hreports _ _ hspans).2 _ (hsent .astride)).1
  obtain ⟨hlate, hplace⟩ :=
    (hreports _ _ (Diagnostic.spansIn_fault "late" 9 _)).2 _ (hsent (.fault "late" 9))
  obtain ⟨hstart, hstop⟩ := hplace rfl rfl (by decide)
  rw [hshape] at hstart hstop
  have hcompiled : ((compile .paired .torn ⟨[]⟩ ⟨[], []⟩ :
      Checked (Compiled Unit Unit)).runFrom none).1.toOption.map Compiled.diagnostics =
        some [⟨.error, "error E0001: invalid syntax", 3, 4, 2⟩] := by decide +kernel
  obtain ⟨c, hc, hlisted⟩ := exists_ok_of_map hcompiled
  have hdraw : Artifact.blank.answer .idle ⟨.sheet, 1, 1, id⟩ = ⟨[], .ok [entryMissing]⟩ := rfl
  exact ⟨hspans, ⟨_, hsent _, hvalid, by decide, by decide⟩,
    ⟨_, hsent _, hlate, hstart.trans (by decide), hstop.trans (by decide)⟩,
    ⟨c, hc, hlisted ▸ List.cons_ne_nil _ _, hspanned _ _ _ _ _ _ hc⟩, hdraw,
    hdrawn _ _ _ _ _ (congrArg DrawOutcome.answer hdraw) _ (List.mem_singleton_self _)⟩

end LiveSketch
