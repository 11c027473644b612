import LiveSketch.Proofs.Session.Coherence

/-!
# The diagnostics that stand

Two steps publish diagnostics: a result that is adopted publishes its own, and a picture adds its
messages, in place of those of the picture before it. After every run the diagnostics that stand are
those of the result with the messages of the latest picture shown since it was adopted, in reading
order, and they are what was published last, for the text of the result.
-/

namespace LiveSketch

variable {σ ν : Type}

/-! ## Pictures and publications -/

/-- The latest picture since a result was adopted, once a mark is left. -/
def Mark.picture? (before : Option (Rendering × Picture)) : Mark → Option (Rendering × Picture)
  | adopted _ => none
  | shown r p => some (r, p)
  | edited _ | offered _ => before

/-- The latest picture shown since the last result was adopted. -/
def latestPicture? (ms : List Mark) : Option (Rendering × Picture) := ms.foldl Mark.picture? none

@[simp]
theorem latestPicture?_snoc (ms : List Mark) (m : Mark) :
    latestPicture? (ms ++ [m]) = m.picture? (latestPicture? ms) := List.foldl_concat ..

/-- The messages of the latest picture as they stand beside a result: those of an artifact of
another text have no lines there. -/
def standingMessages (ms : List Mark) (result : Result) : List Diagnostic :=
  match latestPicture? ms with
  | none => []
  | some (r, p) =>
    if r.artifact = result.request then p.messages
    else p.messages.map fun d => { d with line := 0 }

/-- The diagnostics that were published, with their text. -/
def Notice.published? : Notice → Option (List Diagnostic × Source)
  | diagnostics ds source => some (ds, source)
  | mode _ | picture _ | failure _ | ended _ _ => none

def lastPublished? (ns : List Notice) : Option (List Diagnostic × Source) :=
  (ns.filterMap Notice.published?).getLast?

theorem lastPublished?_append (ns ns' : List Notice) :
    lastPublished? (ns ++ ns') = (lastPublished? ns').or (lastPublished? ns) := by
  unfold lastPublished?
  rw [List.filterMap_append, List.getLast?_append]

@[simp]
theorem lastPublished?_filter_isCall (ns : List Notice) :
    lastPublished? (ns.filter Notice.isCall) = lastPublished? ns := by
  unfold lastPublished?
  rw [List.filterMap_filter]
  congr 2
  funext n
  cases n <;> rfl

/-! ## The invariant -/

namespace View

/-- The diagnostics are those of the result and of the latest picture, and were published last. -/
def Reported (ms : List Mark) (v : View σ ν) : Prop :=
  ∀ result, v.result = some result →
    v.diagnostics = sortDiagnostics (result.diagnostics ++ standingMessages ms result) ∧
      lastPublished? v.calls = some (v.diagnostics, result.source)

variable {w : Workshop σ ν} {v v' : View σ ν} {ms : List Mark}

theorem Reported.congr {ms' : List Mark} (h : v.Reported ms)
    (hlatest : latestPicture? ms' = latestPicture? ms) (hresult : v'.result = v.result)
    (hdiagnostics : v'.diagnostics = v.diagnostics)
    (hpublished : lastPublished? v'.calls = lastPublished? v.calls) : v'.Reported ms' := by
  intro result hr
  unfold standingMessages
  rw [hlatest, hdiagnostics, hpublished]
  exact h result (hresult.symm.trans hr)

theorem reported_of_adopt {k : Nat} {c : Compiled σ ν} (hf : v'.Faithful w)
    (hface : v'.toFace = (v.adopt k c).toFace) : v'.Reported (ms ++ [.adopted (c.resultOf k)]) := by
  have hresult : v'.result = some (c.resultOf k) := congrArg Face.result hface
  obtain ⟨c', hc', heq⟩ := hf.result _ hresult
  have hsame : c.diagnostics = c'.diagnostics := congrArg Result.diagnostics heq
  intro result hr
  obtain rfl := Option.some.inj (hresult.symm.trans hr)
  have hnone : standingMessages (ms ++ [.adopted (c.resultOf k)]) (c.resultOf k) = [] := by
    unfold standingMessages
    rw [latestPicture?_snoc]
    rfl
  rw [hface, hnone, List.append_nil]
  refine ⟨?_, ?_⟩
  · show c.diagnostics = sortDiagnostics c.diagnostics
    rw [hsame]
    exact (compileOutcome_sorted hc').symm
  · show lastPublished? (v.calls ++ [_, _]) = _
    rw [lastPublished?_append]
    rfl

/-- A picture of the result shown publishes its messages beside it, unless they stand already. -/
theorem Reported.display (h : v.Reported ms) {r : Rendering} {p : Picture}
    (hr : v.result = some r.result) (hface : v'.toFace = (v.display r p).toFace) :
    v'.Reported (ms ++ [.shown r p]) := by
  have hresult : v'.result = some r.result := (congrArg Face.result hface).trans hr
  intro result hr'
  obtain rfl := Option.some.inj (hresult.symm.trans hr')
  have hmessages : standingMessages (ms ++ [.shown r p]) r.result = r.messages p := by
    unfold standingMessages
    rw [latestPicture?_snoc]
    rfl
  rw [hface, hmessages]
  refine ⟨rfl, ?_⟩
  show lastPublished? (v.calls ++ _) = some (r.diagnostics p, _)
  rw [lastPublished?_append]
  split
  · rename_i hsame
    rw [hsame]
    exact (h r.result hr).2
  · rfl

theorem Reported.move {m : Option Mark} (h : v.Reported ms) (hv : v.Coherent w)
    (hmove : Move w v m v') : v'.Reported (ms ++ m.toList) := by
  have hv' := hv.move hmove
  cases hmove with
  | adopt => exact reported_of_adopt hv'.faithful rfl
  | adoptDraw => exact reported_of_adopt hv'.faithful rfl
  | @display r rest herrands hlive p =>
    have hb := hv.scheduled.drawing r (by rw [herrands]; exact Multiset.mem_cons_self _ _)
    exact h.display (hb.shown (hlive _ hb.request)) rfl
  | edit text => exact h.congr (latestPicture?_snoc ms _) rfl rfl rfl
  | refuse text => exact h.congr (latestPicture?_snoc ms _) rfl rfl rfl
  | submit text =>
    refine h.congr (latestPicture?_snoc ms _) rfl rfl ?_
    show lastPublished? (v.calls ++ [_]) = _
    rw [lastPublished?_append]
    rfl
  | _ => exact h.congr (congrArg latestPicture? (List.append_nil ms)) rfl rfl rfl

end View

namespace Opening

theorem reported_run (o : Opening) (w : Workshop σ ν) (es : List Event) :
    (o.run w es).view.Reported (o.history w es) := by
  refine (o.run_induction w (P := fun ms s => s.view.Coherent w ∧ s.view.Reported ms) ?_ ?_ es).2
  · exact ⟨o.coherent_session w, nofun⟩
  · rintro ms s e ⟨hv, h⟩
    exact ⟨hv.move (s.step_move w e), h.move hv (s.step_move w e)⟩

/-- **Diagnostics.** In every run, once there is a result, the diagnostics that stand are its own
with the messages of the latest picture shown since it was adopted, in reading order, and they are
what was published last, together with the text of the result. -/
theorem diagnostics_of_result (o : Opening) (w : Workshop σ ν) (es : List Event) :
    ∀ result, (o.run w es).result = some result →
      (o.run w es).diagnostics =
          sortDiagnostics (result.diagnostics ++ standingMessages (o.history w es) result) ∧
        lastPublished? (o.run w es).transcript =
          some ((o.run w es).diagnostics, result.source) := by
  intro result hr
  obtain ⟨hdiagnostics, hpublished⟩ := o.reported_run w es result hr
  refine ⟨hdiagnostics, ?_⟩
  rw [← lastPublished?_filter_isCall]
  exact hpublished

end Opening

/-! ## A retained artifact -/

/-- A script whose function divides by zero in line 2. -/
def Engine.dividing : Engine Unit Unit where
  runBody := pure ()
  global? _ := pure (some ())
  member? _ _ := pure none
  construct _ := pure ()
  isCallable _ := pure true
  call _ _ _ _ := pure ([], .error
    (.mk "ZeroDivisionError" .ordinary false (.ok "division by zero") none [⟨unitFile, 2⟩]))
  inquire _ _ := throw (.plain "LookupError" "nothing was raised")

def Node.inLine (line : Int) (form : Form Node) : Node :=
  .mk ⟨some line, some 0, some line, none⟩ form

/-- A script of one function. -/
def Node.drawing : Node :=
  let parameters := ["canvas", "width", "height"].map fun name => .inLine 1 (.argument name none)
  .inLine 1 (.module [.inLine 1 (.functionDef false entryName
    (.inLine 1 (.arguments [] parameters none [] [] none [])) [.inLine 2 .pass] [] none [])])

/-- A workshop in which one text is that script, and all others are malformed. -/
def Workshop.dividing : Workshop Unit Unit where
  programOf source :=
    ⟨⟨[], if source.chars = ['D'] then .ok .drawing
      else .error (.malformed ⟨"unclosed", some 1, some 1, none, none, none⟩)⟩, ⟨[], .ok ()⟩, ()⟩
  engine := .dividing
  references := ⟨[]⟩
  loaded := ⟨[], []⟩
  enter _ s := s
  delay := 0
  presenting _ := none

/-- The script is submitted, compiled and drawn, and then a malformed text in its place. -/
def retainingRun : List Event :=
  [.submit "D", .turn 0, .complete none, .turn 0, .turn 0, .complete none, .turn 0, .turn 0,
    .submit "(", .turn 0, .complete none, .turn 0, .turn 0, .complete none, .turn 0, .turn 0]

/-- The result of the malformed text. -/
def Result.unclosed : Result := ⟨1, .ofString "(", [⟨.error, "error E0001: unclosed", 0, 0, 1⟩]⟩

/-- The turn that shows the last picture adopts nothing. -/
theorem shown_retaining :
    (Opening.sheets.run .dividing retainingRun).result = some .unclosed ∧
      (Opening.sheets.run .dividing retainingRun).artifact = some 0 := by
  have hrun : Opening.sheets.run .dividing retainingRun =
      (Opening.sheets.run .dividing (retainingRun.take 15)).step .dividing (.turn 0) :=
    Opening.run_snoc .sheets .dividing (retainingRun.take 15) (.turn 0)
  obtain ⟨hresult, hartifact⟩ := ((Opening.sheets.run .dividing
    (retainingRun.take 15)).step_move .dividing (.turn 0)).of_not_adopted (by decide +kernel)
  rw [hrun]
  exact ⟨hresult.trans (by decide +kernel), hartifact.trans (by decide +kernel)⟩

theorem messages_retaining :
    standingMessages (Opening.sheets.history .dividing retainingRun) .unclosed =
      [⟨.error, "division by zero", 0, 0, 0⟩] := by decide +kernel

/-- The fault of the script stands beside the error of the other text, without its line. -/
theorem diagnostics_retaining :
    (Opening.sheets.run .dividing retainingRun).result = some .unclosed ∧
      (Opening.sheets.run .dividing retainingRun).artifact = some 0 ∧
      (Opening.sheets.run .dividing retainingRun).diagnostics = sortDiagnostics
        (Result.unclosed.diagnostics ++ [⟨.error, "division by zero", 0, 0, 0⟩]) ∧
      lastPublished? (Opening.sheets.run .dividing retainingRun).transcript =
        some ((Opening.sheets.run .dividing retainingRun).diagnostics, .ofString "(") := by
  obtain ⟨hdiagnostics, hpublished⟩ :=
    Opening.diagnostics_of_result .sheets .dividing retainingRun .unclosed shown_retaining.1
  rw [messages_retaining] at hdiagnostics
  exact ⟨shown_retaining.1, shown_retaining.2, hdiagnostics, hpublished⟩

end LiveSketch
