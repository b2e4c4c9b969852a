import StoryServer.Proofs.Debug.Account
import StoryServer.Proofs.Debug.Simulation
import StoryServer.Proofs.Ink.Telling

/-!
# Stepping tells the story

Stepping through a story that is told in process gives the lines that continuing it gives, and
leaves the same story.

*Drives.*  `drive` takes steps and continuations in any order until an outcome says that the
story stops, or a step fails.  `Went` says how far some steps have come along the tale of the
story: to its end, to its fault, or to a story from which the rest of the tale is still to be
told.  It is kept by a step, by a continuation, and by a drive (`drive_went`).

*Quiet tales.*  A test or a comparison that fails ends a drive where continuing the story goes
on, so the lines ahead must be quiet (`AllQuiet`).  `quietWithin` finds this out by telling the
lines.

Continuing a story lists its choices before the first line, and a step does not.  So the two
agree only for a story whose choices can be listed; a restored state may have others.
-/

namespace StoryServer

namespace Debug

open Ink

section Drive

variable (setup : Ink.Setup) {id : String} {session : Session}
variable {base : List Story} {u v : Story} {s : Server Shelf}
variable {breakpoints : List Breakpoint} {names : List String}

/-! ## Outcomes -/

theorem outcomes_append (E E' : List Event) : outcomes (E ++ E') = outcomes E ++ outcomes E' :=
  List.filterMap_append

/-- A step is taken when it answers, and its outcome is the answer. -/
theorem outcomes_step {ε : Type} (engine : StoryEngine ε) (s : Server ε) :
    outcomes (stepEvents engine id s) =
      match (step engine id).on s with
      | (.error _, _) => []
      | (.ok o, _) => [o] := by
  rw [stepEvents, step, Act.on_bind]
  generalize (advance engine id).on s = told
  rcases told with ⟨_ | p, t⟩
  · rfl
  · dsimp only
    rw [Act.on_bind]
    generalize (judge engine id p).on t = judged
    rcases judged with ⟨_ | v, u⟩
    · rfl
    · dsimp only
      generalize (conclude id p.told v).on u = concluded
      rcases concluded with ⟨_ | o, w⟩ <;> rfl

/-! ## Calls -/

/-- A call of the debugger that takes steps. -/
inductive Call where
  | step
  /-- A continuation of at least one step. -/
  | continueFor (most : Int) (positive : 1 ≤ most)

def Call.act {ε : Type} (engine : StoryEngine ε) (id : String) : Call → Act (Server ε) StepOutcome
  | .step => Debug.step engine id
  | .continueFor most _ => Debug.continueFor engine id most

/-- The steps that a call takes. -/
def Call.taken {ε : Type} (engine : StoryEngine ε) (id : String) (s : Server ε) :
    Call → List StepOutcome
  | .step => outcomes (stepEvents engine id s)
  | .continueFor most _ => outcomes (continueEvents engine id most s)

/-- Where a number of calls has come to. -/
structure Drive (ε : Type) where
  steps : List StepOutcome := []
  /-- The fault of the last call. -/
  fault : Option Fault := none
  /-- Whether the last call failed, or said that the story stops. -/
  stopped : Bool := false
  /-- The server after the last call. -/
  server : Server ε

/-- Calls one after another, until one fails or says that the story stops. -/
def drive {ε : Type} (engine : StoryEngine ε) (id : String) : List Call → Server ε → Drive ε
  | [], s => { server := s }
  | call :: rest, s =>
    match (call.act engine id).on s with
    | (.error f, t) =>
      { steps := call.taken engine id s, fault := some f, stopped := true, server := t }
    | (.ok o, t) =>
      if o.canContinue then
        { drive engine id rest t with
          steps := call.taken engine id s ++ (drive engine id rest t).steps }
      else { steps := call.taken engine id s, stopped := true, server := t }

/-! ## Along a tale -/

/-- No comparison and no test fails at any line that the story leads to. -/
def AllQuiet (names : List String) (breakpoints : List Breakpoint) (u : Story) : Prop :=
  ∀ front w c x, Story.Leads u front w → w.peek = .ok true → Story.continueLine.on w = (.ok c, x) →
    Quiet names breakpoints w c x

theorem AllQuiet.next (h : AllQuiet names breakpoints u) (hp : u.peek = .ok true)
    {c : Continuation} (hl : Story.continueLine.on u = (.ok c, v)) : AllQuiet names breakpoints v :=
  fun front w d x hw => h (c :: front) w d x (.more hp hl hw)

/-- Finds out, by telling the lines, that there are fewer than `n` and that they are quiet. -/
def quietWithin (names : List String) (breakpoints : List Breakpoint) : Nat → Story → Bool
  | 0, _ => false
  | n + 1, u =>
    match u.peek, Story.continueLine.on u with
    | .ok true, (.ok c, v) =>
      decide (Quiet names breakpoints u c v) && quietWithin names breakpoints n v
    | _, _ => true

theorem allQuiet_of_within {n : Nat} (h : quietWithin names breakpoints n u = true) :
    AllQuiet names breakpoints u := by
  intro front w c x hleads
  induction hleads generalizing n with
  | refl =>
      intro hp hl
      cases n with
      | zero => cases h
      | succ n =>
          simp only [quietWithin, hp, hl, Bool.and_eq_true, decide_eq_true_eq] at h
          exact h.1
  | more hp' hl' _ ih =>
      cases n with
      | zero => cases h
      | succ n =>
          simp only [quietWithin, hp', hl', Bool.and_eq_true] at h
          exact ih h.2

/-- With no watches and no breakpoints nothing can fail. -/
theorem allQuiet_nil (u : Story) : AllQuiet [] [] u :=
  fun _ _ _ _ _ _ _ => ⟨[], none, rfl, rfl⟩

/-- How far some steps have come along the tale of a story: to its end, to its fault, or at
least so many lines ahead. -/
inductive Went (id : String) (session : Session) (base : List Story)
    (breakpoints : List Breakpoint) (names : List String) (lines : List Continuation)
    (e : Option Fault) (v : Story) (least : Nat) :
    List StepOutcome → Except Fault StepOutcome × Server Shelf → Prop where
  /-- The last outcome says that the story stops. -/
  | ended {steps : List StepOutcome} {o : StepOutcome} {t : Server Shelf}
      (hs : steps.map StepOutcome.told = lines) (hc : o.canContinue = false) (he : e = none)
      (ht : OnShelf base session.story v t.stage) :
      Went id session base breakpoints names lines e v least steps (.ok o, t)
  | failed {steps : List StepOutcome} {f : Fault} {t : Server Shelf}
      (hs : steps.map StepOutcome.told = lines) (he : e = some f)
      (ht : OnShelf base session.story v t.stage) :
      Went id session base breakpoints names lines e v least steps (.error f, t)
  | going {steps : List StepOutcome} {o : StepOutcome} {t : Server Shelf} {w : Story}
      {back : List Continuation} (hs : lines = steps.map StepOutcome.told ++ back)
      (hleast : least ≤ steps.length) (hc : o.canContinue = true)
      (htale : Story.Tale w back e v) (hquiet : AllQuiet names breakpoints w)
      (ht : Telling id session base breakpoints names w t) :
      Went id session base breakpoints names lines e v least steps (.ok o, t)

variable {lines back : List Continuation} {e : Option Fault}

/-- Steps that are taken after others. -/
theorem Went.after {least : Nat} {front steps : List StepOutcome}
    {run : Except Fault StepOutcome × Server Shelf}
    (h : Went id session base breakpoints names back e v least steps run)
    (hf : lines = front.map StepOutcome.told ++ back) :
    Went id session base breakpoints names lines e v (front.length + least) (front ++ steps) run := by
  cases h with
  | ended hs hc he ht => exact .ended (by rw [List.map_append, hs, hf]) hc he ht
  | failed hs he ht => exact .failed (by rw [List.map_append, hs, hf]) he ht
  | going hs hleast hc htale hquiet ht =>
      refine .going ?_ ?_ hc htale hquiet ht
      · rw [List.map_append, hf, hs, List.append_assoc]
      · rw [List.length_append]
        exact Nat.add_le_add_left hleast _

theorem Went.weaken {least most : Nat} {steps : List StepOutcome}
    {run : Except Fault StepOutcome × Server Shelf}
    (h : Went id session base breakpoints names lines e v most steps run) (hm : least ≤ most) :
    Went id session base breakpoints names lines e v least steps run := by
  cases h with
  | ended hs hc he ht => exact .ended hs hc he ht
  | failed hs he ht => exact .failed hs he ht
  | going hs hleast hc htale hquiet ht =>
      exact .going hs (Nat.le_trans hm hleast) hc htale hquiet ht

/-- A step goes one line along the tale. -/
theorem step_went (h : Telling id session base breakpoints names u s)
    (htale : Story.Tale u lines e v) (hq : AllQuiet names breakpoints u) :
    Went id session base breakpoints names lines e v 1 (outcomes (stepEvents (engine setup) id s))
      ((step (engine setup) id).on s) := by
  cases htale with
  | fault hp hl =>
      obtain ⟨t, hstep, ht⟩ := step_fault setup h hp hl
      rw [outcomes_step, hstep]
      exact .failed rfl rfl ht
  | last hp hl hc =>
      obtain ⟨o, t, hstep, ho, ht⟩ := step_line setup h hp hl (hq [] u _ _ .refl hp hl)
      rw [outcomes_step, hstep]
      exact .ended (by rw [← ho]; rfl) (by rw [← hc, ← ho]; rfl) rfl ht.shelf
  | more hp hl hc htale =>
      obtain ⟨o, t, hstep, ho, ht⟩ := step_line setup h hp hl (hq [] u _ _ .refl hp hl)
      rw [outcomes_step, hstep]
      exact .going (by rw [← ho]; rfl) (Nat.le_refl 1) (by rw [← hc, ← ho]; rfl) htale
        (hq.next hp hl) ht

/-- A step and those after it go at least one line along the tale, and stop where it stops. -/
theorem begun_went : ∀ (n : Nat) {u : Story} {s : Server Shelf} {lines : List Continuation},
    Telling id session base breakpoints names u s → Story.Tale u lines e v →
      AllQuiet names breakpoints u →
        Went id session base breakpoints names lines e v 1
          (outcomes (begunEvents (engine setup) id n s))
          ((do steps (engine setup) id n (← step (engine setup) id)).on s) := by
  intro n
  induction n with
  | zero =>
      intro u s lines h htale hq
      have hstep := step_went setup h htale hq
      rw [Act.on_bind, begunEvents]
      generalize (step (engine setup) id).on s = run at hstep
      obtain ⟨res, t⟩ := run
      cases res with
      | error f => simpa [steps] using hstep
      | ok o => simpa [steps, stepsEvents] using hstep
  | succ n ih =>
      intro u s lines h htale hq
      have hstep := step_went setup h htale hq
      rw [Act.on_bind, begunEvents]
      generalize (step (engine setup) id).on s = run at hstep
      cases hstep with
      | failed hs he ht =>
          rw [List.append_nil]
          exact .failed hs he ht
      | @ended o t hs hc he ht =>
          -- what the step says of the story stops the continuation
          have hstops : stops o = true := by simp [stops, hc]
          dsimp only
          rw [stepsEvents_succ, steps, if_pos hstops, if_pos hstops, List.append_nil]
          exact .ended hs hc he ht
      | @going o t w back hs hleast hc htale hquiet ht =>
          dsimp only
          rw [stepsEvents_succ, steps]
          split
          · rw [List.append_nil]
            exact .going hs hleast hc htale hquiet ht
          · rw [outcomes_append]
            exact ((ih ht htale hquiet).after hs).weaken (Nat.le_trans hleast (Nat.le_add_right _ _))

/-- Beginning a continuation does not touch the story. -/
theorem Telling.unpaused (h : Telling id session base breakpoints names u s) :
    ∃ r t, (unpause id).on s = (.ok r, t) ∧ Telling id session base breakpoints names u t := by
  obtain ⟨r, hr, hbreakpoints, hnames⟩ := h.record
  refine ⟨r, ((update id fun r => { r with paused := false }).on s).2, ?_, h.live, h.place,
    h.shelf, h.isOpen, _, record_update hr fun _ => rfl, hbreakpoints, hnames⟩
  rw [unpause, Act.on_bind_of_ok (session_on h.live), Act.on_bind_of_ok (record_on hr)]
  rfl

/-- A call goes at least one line along the tale. -/
theorem Call.went (call : Call) (h : Telling id session base breakpoints names u s)
    (htale : Story.Tale u lines e v) (hq : AllQuiet names breakpoints u) :
    Went id session base breakpoints names lines e v 1 (call.taken (engine setup) id s)
      ((call.act (engine setup) id).on s) := by
  cases call with
  | step => exact step_went setup h htale hq
  | continueFor most positive =>
      obtain ⟨r, t, hunpause, ht⟩ := h.unpaused
      obtain ⟨n, hn⟩ : ∃ n, most.toNat = n + 1 := ⟨most.toNat - 1, by omega⟩
      rw [Call.taken, Call.act, continueEvents, Debug.continueFor, hunpause,
        Act.on_bind_of_ok hunpause, hn]
      exact begun_went setup n ht htale hq

/-- Calls come along the tale to its end or its fault, or one line a call. -/
theorem drive_went : ∀ (calls : List Call) {u : Story} {s : Server Shelf}
    {lines : List Continuation}, Telling id session base breakpoints names u s →
      Story.Tale u lines e v → AllQuiet names breakpoints u →
        let d := drive (engine setup) id calls s
        (d.stopped = false → calls.length ≤ d.steps.length ∧ d.fault = none ∧
          ∃ w back, lines = d.steps.map StepOutcome.told ++ back ∧ Story.Tale w back e v ∧
            Telling id session base breakpoints names w d.server) ∧
        (d.stopped = true → d.steps.map StepOutcome.told = lines ∧ d.fault = e ∧
          OnShelf base session.story v d.server.stage) := by
  intro calls
  induction calls with
  | nil =>
      intro u s lines h htale hq
      refine ⟨fun _ => ⟨Nat.le_refl 0, rfl, u, lines, rfl, htale, h⟩, fun hstop => ?_⟩
      cases hstop
  | cons call rest ih =>
      intro u s lines h htale hq
      have hcall := call.went setup h htale hq
      dsimp only
      rw [drive]
      generalize call.taken (engine setup) id s = taken at hcall
      generalize (call.act (engine setup) id).on s = run at hcall
      cases hcall with
      | failed hs he ht =>
          refine ⟨fun hstop => ?_, fun _ => ⟨hs, he.symm, ht⟩⟩
          cases hstop
      | ended hs hc he ht =>
          simp only [hc, Bool.false_eq_true, if_false]
          refine ⟨fun hstop => ?_, fun _ => ⟨hs, he.symm, ht⟩⟩
          cases hstop
      | @going o t w back hs hleast hc htale hquiet ht =>
          simp only [hc, if_true]
          obtain ⟨hgoing, hstopped⟩ := ih ht htale hquiet
          refine ⟨fun hstop => ?_, fun hstop => ?_⟩
          · obtain ⟨hcalls, hfault, x, ahead, hback, hrest, hlast⟩ := hgoing hstop
            refine ⟨?_, hfault, x, ahead, ?_, hrest, hlast⟩
            · rw [List.length_append, List.length_cons]
              omega
            · rw [hs, hback, List.map_append, List.append_assoc]
          · obtain ⟨hsteps, hfault, hlast⟩ := hstopped hstop
            refine ⟨?_, hfault, hlast⟩
            rw [List.map_append, hsteps, hs]

/-! ## Stepping and continuing -/

/-- What continuing a story answers after the lines of some steps. -/
theorem answer_of_steps (steps : List StepOutcome) (left : List Choice) :
    Story.answer "" [] (steps.map StepOutcome.told) left =
      { text := .str (String.join (steps.map fun o => lineText o.told))
        canContinue := false, choices := left, tags := steps.flatMap (·.tags) } := by
  rw [Story.answer, List.foldl_map, String.join, List.foldl_map, List.flatMap_map, List.nil_append]
  rfl

/-- **Stepping tells the story.**  A drive tells the lines that continuing the story tells, ends
as it ends, and leaves the story that it leaves; and it comes to that end once there are more
calls than lines. -/
theorem stepping_tells_story {r : Record} {st st' : Story} {choices : List Choice} {n : Nat}
    {res : Except Fault Continuation}
    (hsession : s.sessions.find? (·.id == id) = some session) (hrecord : s.recordOf id = some r)
    (hstory : s.stage.engine.opened[session.story]? = some st)
    (hcan : Story.canContinue.on st = (.ok true, st)) (hchoices : st.choices = .ok choices)
    (hquiet : AllQuiet (r.watches.map (·.name)) r.breakpoints st)
    (hcontinue : (Story.continueWithin n).on st = (res, st')) (hends : res ≠ .error .endless)
    (calls : List Call) :
    let d := drive (engine setup) id calls s
    ∃ lines e, Story.Tale st lines e st' ∧ d.steps.map StepOutcome.told <+: lines ∧
      (lines.length < calls.length → d.stopped = true) ∧
      (d.stopped = true → d.steps.map StepOutcome.told = lines ∧ d.fault = e ∧
        d.server.stage.engine.opened = s.stage.engine.opened.set session.story st' ∧
        match e with
        | some f => res = .error f
        | none => ∃ left, st'.choices = .ok left ∧
          res = .ok { text := .str (String.join (d.steps.map fun o => lineText o.told))
                      canContinue := false, choices := left
                      tags := d.steps.flatMap (·.tags) }) := by
  intro d
  obtain ⟨hopen, hp⟩ := Story.canContinue_ok (congrArg Prod.fst hcan)
  obtain ⟨hplace, hget⟩ := List.getElem?_eq_some_iff.mp hstory
  obtain ⟨lines, e, htale, hanswer⟩ := Story.continueWithin_tale hopen hp hchoices hcontinue hends
  have htelling : Telling id session s.stage.engine.opened r.breakpoints (r.watches.map (·.name))
      st s := by
    refine ⟨hsession, hplace, ?_, hopen, r, hrecord, rfl, rfl⟩
    rw [OnShelf, ← hget, List.set_getElem_self]
  obtain ⟨hgoing, hstopped⟩ := drive_went setup calls htelling htale hquiet
  refine ⟨lines, e, htale, ?_, fun hmore => ?_, fun hstop => ?_⟩
  · cases hd : d.stopped with
    | true => exact (hstopped hd).1 ▸ List.prefix_refl _
    | false =>
        obtain ⟨-, -, w, back, hlines, -, -⟩ := hgoing hd
        exact ⟨back, hlines.symm⟩
  · -- a drive that has not stopped has told a line a call
    cases hd : d.stopped with
    | true => rfl
    | false =>
        obtain ⟨hcalls, -, w, back, hlines, -, -⟩ := hgoing hd
        have hlength := congrArg List.length hlines
        rw [List.length_append, List.length_map] at hlength
        omega
  · obtain ⟨hsteps, hfault, hshelf⟩ := hstopped hstop
    refine ⟨hsteps, hfault, hshelf, ?_⟩
    cases e with
    | some f => exact hanswer
    | none =>
        obtain ⟨left, hleft, hres⟩ := hanswer
        refine ⟨left, hleft, ?_⟩
        rw [hres, ← hsteps, answer_of_steps]

/-- Continued past a breakpoint and stepped to its end, a story with a watched variable tells
what continuing it tells. -/
theorem stepping_tells_watched_story :
    let s := ((start 3 "x").on (debugged "VAR x = 1\nA\n~ x = 2\nB\nC")).2
    let s := ((addWatch (engine false) "x" "x").on s).2
    let s := ((addBreakpoint "x" "pattern" "B").on s).2
    let d := drive (engine false) "x" [.continueFor 9 (by decide), .step, .step, .step] s
    ∃ st st' c, s.stage.engine.opened = [st] ∧ Story.continueStory.on st = (.ok c, st') ∧
      d.stopped = true ∧ d.fault = none ∧ d.server.stage.engine.opened = [st'] ∧
      c.text = .str (String.join (d.steps.map fun o => lineText o.told)) := by
  intro s₀ s₁ s d
  let session := (s.sessions.find? (·.id == "x")).get (by decide +kernel)
  let r := (s.recordOf "x").get (by decide +kernel)
  let st := s.stage.engine.opened.head?.get (by decide +kernel)
  have hsession : s.sessions.find? (·.id == "x") = some session := (Option.some_get _).symm
  have hrecord : s.recordOf "x" = some r := (Option.some_get _).symm
  obtain ⟨hopened, hstory, hquiet, hcan, hchoices⟩ : s.stage.engine.opened = [st] ∧
      s.stage.engine.opened[session.story]? = some st ∧
      quietWithin (r.watches.map (·.name)) r.breakpoints 5 st = true ∧
      Story.canContinue.on st = (.ok true, st) ∧ st.choices = .ok [] := by decide +kernel
  obtain ⟨hends, hleft⟩ : (Story.continueStory.on st).1 ≠ .error .endless ∧
      s.stage.engine.opened.set session.story (Story.continueStory.on st).2 =
        [(Story.continueStory.on st).2] := by decide +kernel
  obtain ⟨hstopped, hfault⟩ : d.stopped = true ∧ d.fault = none := by decide +kernel
  generalize hcontinue : Story.continueStory.on st = run at hends hleft
  obtain ⟨res, st'⟩ := run
  dsimp only at hleft
  obtain ⟨lines, e, -, -, -, hstop⟩ := stepping_tells_story false hsession hrecord hstory
    hcan hchoices (allQuiet_of_within hquiet) (n := Story.lineLimit) hcontinue hends
    [.continueFor 9 (by decide), .step, .step, .step]
  have hd : drive (engine false) "x" [.continueFor 9 (by decide), .step, .step, .step] s = d := rfl
  simp only [hd] at hstop
  clear_value d
  obtain ⟨-, he, hshelf, hanswer⟩ := hstop hstopped
  obtain rfl : none = e := hfault.symm.trans he
  obtain ⟨left, -, hres⟩ := hanswer
  subst hres
  exact ⟨st, st', _, hopened, hcontinue, hstopped, hfault, hshelf.trans hleft, rfl⟩

/-- A restored story with a choice that cannot be listed: continuing it fails before the first
line, and a step tells the line. -/
theorem step_past_unlisted_choice :
    let box : Toolbox Shelf := { engine := engine false }
    let state := "\x7b\"pc\": [\"\", 0], \"variables\": \x7b\x7d, \"choices\": [[\"a\"]]\x7d"
    let s := ((box.answer (.loadState "x" state)).on (debugged "A")).2
    let s := ((start 3 "x").on s).2
    ∃ st, s.stage.engine.opened = [st] ∧
      (s.recordOf "x").map (fun r => (r.watches, r.breakpoints)) = some ([], []) ∧
      AllQuiet [] [] st ∧ Story.canContinue.on st = (.ok true, st) ∧
      Story.continueStory.on st = (.error (.tooFewCells 1), st) ∧
      (drive (engine false) "x" [.step] s).stopped = true ∧
      (drive (engine false) "x" [.step] s).fault = none ∧
      (drive (engine false) "x" [.step] s).steps.map (fun o => lineText o.told) = ["A\n"] := by
  intro box state s₀ s
  let st := s.stage.engine.opened.head?.get (by decide +kernel)
  have hopened : s.stage.engine.opened = [st] ∧
      (s.recordOf "x").map (fun r => (r.watches, r.breakpoints)) = some ([], []) := by decide +kernel
  refine ⟨st, hopened.1, hopened.2, allQuiet_nil st, ?_⟩
  decide +kernel

end Drive

end Debug

end StoryServer
