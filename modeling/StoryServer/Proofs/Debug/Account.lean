import StoryServer.Proofs.Debug.History
import StoryServer.Proofs.Tool.Frame
import StoryServer.Proofs.Ink.Frame

/-!
# What a record says

The two accounts of a debug session after any run of commands since its start.

`record_of_history` is the account of a run in which no comparison and no test failed: every
part of the record is read off the list of events.

`record_of_failures` is the account of all runs.  A step that fails before its line is told
leaves the record as it was.  One that fails after it has counted the line and remembers what
it told, while the trace does not have it; from then on the counter is ahead of the trace.
-/

namespace StoryServer

namespace Ink

/-- The lines of stories told in process are texts. -/
theorem engine_tells (setup : Ink.Setup) : Debug.Tells (engine setup) Debug.HasText := by
  intro story x c y h
  have hon : (Shelf.withStory story Story.continueLine).on x.engine = (.ok c, y.engine) := by
    have hline : (((Shelf.withStory story Story.continueLine).on x.engine).1,
        { x with engine := ((Shelf.withStory story Story.continueLine).on x.engine).2 }) =
        (Except.ok c, y) := h
    obtain ⟨hc, rfl⟩ := Prod.mk.inj hline
    exact Prod.ext hc rfl
  cases hs : x.engine.opened[story]? with
  | none =>
      rw [Shelf.withStory_none _ hs] at hon
      cases hon
  | some st =>
      rw [Shelf.withStory_on _ hs] at hon
      have hline : Story.continueLine.on st = (.ok c, (Story.continueLine.on st).2) :=
        Prod.ext (Prod.mk.inj hon).1 rfl
      exact (Story.continueLine_told hline).text

/-- A server on which one story is debugged, under the id x, with room for three steps. -/
def debugged (source : String) : Server Shelf :=
  let bare : Server Shelf :=
    { stage := { engine := {} }, ids := { numbered := fun n => toString n }, clock := { now := 0 }
      author := { endpoint := { otherwise := .failed "" } } }
  let openStory := Server.onStage ((engine false).openSource source)
  ((Registry.create (engine false) openStory (some "x") source).on bare).2

end Ink

/-! ## Requests beside a debug session -/

namespace Request

/-- Whether a request is about a story and not about debugging, and starts no story. -/
def isBeside : Request → Bool
  | .compileInk _ | .choose .. | .continueStory _ | .getVariable .. | .setVariable ..
  | .saveState _ | .loadState .. | .resetStory _ | .evaluateFunction .. | .getGlobalTags _
  | .listSessions | .endSession _ | .bidify _ | .stripBidi _ | .bidifyJson _ => true
  | _ => false

end Request

namespace Toolbox

variable {ε α : Type} {id : String}

theorem keeps_record_onStage (act : Act (Stage ε) α) :
    Act.Keeps (Server.recordOf id) (Server.onStage act) := fun _ => rfl

theorem keeps_record_session (name : String) :
    Act.Keeps (Server.recordOf id) (Server.session (ε := ε) name) :=
  Server.leads_session (T := Same (Server.recordOf id)) name

theorem keeps_record_withStory (name : String) (act : StoryId → Act (Stage ε) α) :
    Act.Keeps (Server.recordOf id) (withStory name act) :=
  Act.keeps_bind (keeps_record_session name) fun _ => keeps_record_onStage _

/-- A request beside a debug session does not touch its record; so it is a command. -/
theorem answer_keeps_record (box : Toolbox ε) {r : Request} (h : r.isBeside = true) :
    Act.Keeps (Server.recordOf id) (box.answer r) := by
  cases r with
  | compileInk source =>
      exact Act.keeps_bind (keeps_record_onStage _) fun _ => Act.keeps_pure _
  | evaluateFunction session function arguments =>
      exact Act.keeps_bind (keeps_record_withStory _ _) fun _ =>
        Act.keeps_bind (Act.keeps_ofExcept _) fun _ => Act.keeps_pure _
  | saveState session =>
      exact Act.keeps_bind (keeps_record_withStory _ _) fun _ =>
        Act.keeps_bind (fun _ => rfl) fun _ => Act.keeps_pure _
  | listSessions => exact Act.keeps_bind (fun _ => rfl) fun _ => Act.keeps_pure _
  | endSession name =>
      refine Act.keeps_bind ?_ fun _ => Act.keeps_pure _
      refine Act.keeps_bind (fun _ => rfl) fun ended => ?_
      cases ended with
      | none => exact Act.keeps_pure _
      | some session =>
          exact Act.keeps_bind (keeps_record_onStage _) fun _ =>
            Act.keeps_bind (keeps_record_onStage _) fun _ => Act.keeps_pure _
  | bidify text => exact Act.keeps_bind (keeps_record_onStage _) fun _ => Act.keeps_pure _
  | stripBidi text => exact Act.keeps_bind (keeps_record_onStage _) fun _ => Act.keeps_pure _
  | bidifyJson json => exact Act.keeps_bind (keeps_record_onStage _) fun _ => Act.keeps_pure _
  | choose session choice continues =>
      exact Act.keeps_bind (keeps_record_withStory _ _) fun _ => Act.keeps_pure _
  | continueStory session =>
      exact Act.keeps_bind (keeps_record_withStory _ _) fun _ => Act.keeps_pure _
  | getVariable session name =>
      exact Act.keeps_bind (keeps_record_withStory _ _) fun _ => Act.keeps_pure _
  | setVariable session name value =>
      exact Act.keeps_bind (keeps_record_withStory _ _) fun _ => Act.keeps_pure _
  | loadState session state =>
      exact Act.keeps_bind (keeps_record_withStory _ _) fun _ => Act.keeps_pure _
  | resetStory session =>
      exact Act.keeps_bind (keeps_record_withStory _ _) fun _ => Act.keeps_pure _
  | getGlobalTags session =>
      exact Act.keeps_bind (keeps_record_withStory _ _) fun _ => Act.keeps_pure _
  | _ => cases h

end Toolbox

namespace Debug

/-- A request beside a debug session, as a command. -/
def Command.ofRequest {ε : Type} {id : String} (box : Toolbox ε) (r : Request)
    (h : r.isBeside = true) : Command ε id :=
  .beside (do let _ ← box.answer r)
    (Act.keeps_bind (Toolbox.answer_keeps_record box h) fun _ => Act.keeps_pure _)

section Account

variable {ε : Type} {engine : StoryEngine ε} {id : String} {limit : Int} {s₀ s₁ : Server ε}
variable {answer : Json}

/-- Steps that are numbered in order keep their numbers in the trace. -/
theorem rows_of_numbered : ∀ (os : List StepOutcome) {k : Nat},
    os.map (·.number) = List.range' k os.length → os.map StepOutcome.row =
      (os.zipIdx k).map fun (o, j) => (j, beginning traceTextLimit o.text, o.changes.map (·.name))
  | [], _, _ => rfl
  | o :: rest, k, h => by
      rw [List.map_cons, List.length_cons, List.range'_succ, List.cons.injEq] at h
      rw [List.map_cons, rows_of_numbered rest h.2, List.zipIdx_cons, List.map_cons,
        StepOutcome.row, h.1]

/-- **A debug record says what happened.** -/
theorem record_of_history (hT : Tells engine HasText)
    (hstart : (start limit id).on s₀ = (.ok answer, s₁)) (cs : List (Command ε id))
    (hquiet : .unjudged ∉ Command.history engine cs s₁) :
    ∃ r, (Command.run engine cs s₁).recordOf id = some r ∧
      let E := Command.history engine cs s₁
      r.steps = (outcomes E).length ∧
      r.trace.map Visit.row = (((outcomes E).zipIdx 1).map fun (o, j) =>
        (j, beginning traceTextLimit o.text, o.changes.map (·.name))).rtake
          (min r.steps limit.toNat) ∧
      (r.breakpoints.map (·.number)).Pairwise (· < ·) ∧
      (∀ b ∈ r.breakpoints, b.number < r.nextBreakpoint) ∧
      (r.breakpoints.map Breakpoint.id).Nodup ∧ ((issues E).map Breakpoint.id).Nodup ∧
      (∀ w ∈ r.watches,
        w.changes = (since (Event.watches w.name) E).countP (Event.changes w.name)) ∧
      r.paused = (since Event.isResumed E).any Event.hits := by
  have hr₀ := start_record hstart
  obtain ⟨r, hr, hruns⟩ := Command.history_runs hT cs hr₀
  have hlossless : ∀ e ∈ Command.history engine cs s₁, e.isLost = false := by
    intro e he
    cases e with
    | unjudged => exact absurd he hquiet
    | unwritten => exact absurd he (written_of_text hruns)
    | _ => rfl
  have hkept := (Kept.start id limit.toNat).runs hruns
  have hfollowed := (Followed.start id limit.toNat).runs (Kept.start id limit.toNat) hruns hlossless
  have hsteps : r.steps = (outcomes (Command.history engine cs s₁)).length :=
    hkept.steps.trans (told_of_lossless hlossless)
  refine ⟨r, hr, hsteps, ?_, hkept.ordered, hkept.below, ids_nodup hkept.ordered,
    ids_nodup hkept.issued, hfollowed.watches, hfollowed.paused⟩
  rw [hkept.trace, rows_of_numbered _ hfollowed.numbered, List.rtake, List.rtake, List.length_map,
    List.length_zipIdx, ← hsteps]
  congr 1
  omega

/-- A watched variable changes at the second line, which hits a breakpoint. -/
theorem record_of_watched_story :
    let s := Ink.debugged "VAR x = 1\nA\n~ x = 2\nB"
    let box : Toolbox Ink.Shelf := { engine := Ink.engine false }
    let cs : List (Command Ink.Shelf "x") :=
      [.addWatch "x", .addBreakpoint "pattern" "B", .step,
        .ofRequest box (.setVariable "x" "x" (.int 5)) rfl, .continueFor 5]
    .unjudged ∉ Command.history (Ink.engine false) cs ((start 3 "x").on s).2 ∧
      ∃ r, (Command.run (Ink.engine false) cs ((start 3 "x").on s).2).recordOf "x" = some r ∧
        r.steps = 2 ∧ r.paused = true := by
  intro s box cs
  have hquiet : .unjudged ∉ Command.history (Ink.engine false) cs ((start 3 "x").on s).2 := by
    decide +kernel
  have hstart : (start 3 "x").on s = (.ok _, ((start 3 "x").on s).2) := rfl
  obtain ⟨r, hr, hsteps, -, -, -, -, -, -, hpaused⟩ :=
    record_of_history (Ink.engine_tells false) hstart cs hquiet
  exact ⟨hquiet, r, hr, hsteps.trans (by decide +kernel), hpaused.trans (by decide +kernel)⟩

/-- What a step leaves that fails after its line was told, and why it failed. -/
theorem Recorded.failed {r r' : Record} {p : Passage} {seen : List Change} {e : Event} {f : Fault}
    (h : Recorded r p seen (.error f) e r') :
    r'.steps = r.steps + 1 ∧ r'.lastOutput = p.told.text ∧ r'.trace = r.trace ∧
      r'.watches = (r.look seen).watches ∧
      (changesAmong seen = .error f ∨ ∃ changes, changesAmong seen = .ok changes ∧
        (firstHit p.told.text (changes.map (·.name)) r.breakpoints = .error f ∨
          beginning traceTextLimit p.told.text = .error f)) := by
  cases h with
  | unjudged hj =>
      refine ⟨rfl, rfl, rfl, rfl, ?_⟩
      cases hj with
      | uncompared _ hc => exact Or.inl hc
      | untested _ hc ht => exact Or.inr ⟨_, hc, Or.inl ht⟩
  | unwritten hj ht =>
      refine ⟨rfl, rfl, rfl, rfl, ?_⟩
      cases hj with
      | judged _ hc _ => exact Or.inr ⟨_, hc, Or.inr ht⟩

/-- Every told line is a step that was taken or lost. -/
theorem told_count (E : List Event) :
    E.countP Event.isTold = (outcomes E).length + E.countP Event.isLost := by
  induction E with
  | nil => rfl
  | cons e rest ih =>
      have hcons : outcomes (e :: rest) = e.outcome?.toList ++ outcomes rest := by
        rw [outcomes, List.filterMap_cons]
        cases e.outcome? <;> rfl
      rw [List.countP_cons, List.countP_cons, ih, hcons, List.length_append]
      cases e <;> simp [Event.isTold, Event.isLost, Event.outcome?] <;> omega

/-- After any run, failed steps included, the counter counts the lines that were told, and the
trace has the steps that were taken; they agree up to the size of the trace exactly when no
step was lost or the trace is full.  The next step, when it fails, leaves the record as it was
exactly when its line was not told. -/
theorem record_of_failures (engine : StoryEngine ε)
    (hstart : (start limit id).on s₀ = (.ok answer, s₁)) (cs : List (Command ε id)) :
    ∃ r, (Command.run engine cs s₁).recordOf id = some r ∧
      let E := Command.history engine cs s₁
      let s := Command.run engine cs s₁
      r.steps = (outcomes E).length + E.countP Event.isLost ∧
      r.trace.length = min (outcomes E).length limit.toNat ∧
      (r.trace.length = min r.steps limit.toNat ↔
        E.countP Event.isLost = 0 ∨ limit.toNat ≤ (outcomes E).length) ∧
      ∀ f t, (step engine id).on s = (.error f, t) →
        (t.recordOf id = some r ↔ ∃ g u, (advance engine id).on s = (.error g, u)) ∧
        ∀ p u, (advance engine id).on s = (.ok p, u) → ∃ seen r', t.recordOf id = some r' ∧
          r'.steps = r.steps + 1 ∧ r'.lastOutput = p.told.text ∧ r'.trace = r.trace ∧
          r'.watches = (r.look seen).watches ∧
          (changesAmong seen = .error f ∨ ∃ changes, changesAmong seen = .ok changes ∧
            (firstHit p.told.text (changes.map (·.name)) r.breakpoints = .error f ∨
              beginning traceTextLimit p.told.text = .error f)) := by
  have hr₀ := start_record hstart
  obtain ⟨r, hr, hruns⟩ := Command.history_runs (tells_any engine) cs hr₀
  have hkept := (Kept.start id limit.toNat).runs hruns
  have hsteps := hkept.steps.trans (told_count _)
  have htrace : r.trace.length =
      min (outcomes (Command.history engine cs s₁)).length limit.toNat := by
    have hlength := congrArg List.length hkept.trace
    rw [List.length_map, List.rtake, List.length_drop, List.length_map] at hlength
    omega
  refine ⟨r, hr, hsteps, htrace, by rw [htrace, hsteps]; omega, fun f t hstep => ?_⟩
  have hadvance := advance_record (tells_any engine) hr
  have htold : ∀ p u, (advance engine id).on (Command.run engine cs s₁) = (.ok p, u) →
      ∃ seen e r', t.recordOf id = some r' ∧ Recorded r p seen (.error f) e r' := by
    intro p u ha
    obtain ⟨res, seen, e, r', v, hv, -, hlast, hrec⟩ := step_told hr ha
    obtain ⟨rfl, rfl⟩ := Prod.mk.inj (hstep.symm.trans hv)
    exact ⟨seen, e, r', hlast, hrec⟩
  refine ⟨⟨fun hsame => ?_, fun ⟨g, u, ha⟩ => ?_⟩, fun p u ha => ?_⟩
  · cases ha : (advance engine id).on (Command.run engine cs s₁) with
    | mk res u =>
        cases res with
        | error g => exact ⟨g, u, rfl⟩
        | ok p =>
            -- a told line is counted, so the record is another one
            obtain ⟨seen, e, r', hlast, hrec⟩ := htold p u ha
            have hcount := hrec.failed.1
            rw [Option.some.inj (hsame.symm.trans hlast)] at hcount
            omega
  · rw [ha] at hadvance
    obtain ⟨-, rfl⟩ := Prod.mk.inj (hstep.symm.trans (step_untold ha).1)
    exact hadvance
  · obtain ⟨seen, e, r', hlast, hrec⟩ := htold p u ha
    exact ⟨seen, r', hlast, hrec.failed⟩

/-- A pattern that no reader of patterns can count is accepted, and the step that looks for it
is lost. -/
theorem record_of_lost_step :
    let s := Ink.debugged "A\nB"
    let cs : List (Command Ink.Shelf "x") :=
      [.addBreakpoint "pattern" "a\x7b99999999999999999999\x7d", .step]
    ∃ r, (Command.run (Ink.engine false) cs ((start 3 "x").on s).2).recordOf "x" = some r ∧
      r.steps = 1 ∧ r.trace.length = 0 := by
  intro s cs
  have hstart : (start 3 "x").on s = (.ok _, ((start 3 "x").on s).2) := rfl
  obtain ⟨r, hr, hsteps, htrace, -, -⟩ := record_of_failures (Ink.engine false) hstart cs
  exact ⟨r, hr, hsteps.trans (by decide +kernel), htrace.trans (by decide +kernel)⟩

end Account

end Debug

end StoryServer
