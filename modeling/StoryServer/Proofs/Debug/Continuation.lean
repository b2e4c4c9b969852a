import StoryServer.Proofs.Debug.Account
import StoryServer.Proofs.Debug.Simulation
import StoryServer.Proofs.Ink.Raising

/-!
# Continuing is stepping

A continuation of a debugged story clears the pause and then takes steps until one stops it.

*Walks.*  `Walk` is any number of steps, each taken on the server that the one before it left;
it knows nothing of continuations.  `Continued` says how a continuation goes along a walk: it
answers with the first step that stops it or with the last that it may take, and fails with a
step that fails.  This holds for every story engine (`continued_begun`).

*Pauses.*  A step pauses the session if it hits a breakpoint and never clears the pause, so a
walk of steps that do not stop leaves it unpaused.

*The flag and the question.*  A step whose outcome says that the story goes on leaves a story
that says so when it is asked (`goes_on_of_step`).  The next step then finds a line to tell, and
whatever it fails with, it is not that there is none (`other_of_goes_on`).
-/

namespace StoryServer

namespace Debug

section Walk

variable {ε : Type} (engine : StoryEngine ε) (id : String)

/-- Steps taken one after another, and what they said. -/
inductive Walk : Server ε → List StepOutcome → Server ε → Prop where
  | rest (s : Server ε) : Walk s [] s
  | step {s t u : Server ε} {o : StepOutcome} {rest : List StepOutcome}
      (hstep : (Debug.step engine id).on s = (.ok o, t)) (hrest : Walk t rest u) :
      Walk s (o :: rest) u

/-- How a continuation of at most `n` steps goes. -/
inductive Continued (n : Nat) (s : Server ε) : Except Fault StepOutcome × Server ε → Prop where
  /-- The last step stops it, or is the last that it may take. -/
  | halted {front : List StepOutcome} {o : StepOutcome} {t : Server ε}
      (hwalk : Walk engine id s (front ++ [o]) t) (hgoing : ∀ p ∈ front, stops p = false)
      (hless : front.length < n) (hlast : stops o = true ∨ front.length + 1 = n) :
      Continued n s (.ok o, t)
  /-- A step fails after others that stay taken. -/
  | failed {front : List StepOutcome} {f : Fault} {t u : Server ε}
      (hwalk : Walk engine id s front t) (hgoing : ∀ p ∈ front, stops p = false)
      (hless : front.length < n) (hstep : (Debug.step engine id).on t = (.error f, u)) :
      Continued n s (.error f, u)

variable {engine id}

/-- A continuation of one step. -/
theorem Continued.single {n : Nat} {s t : Server ε} {o : StepOutcome}
    (hstep : (Debug.step engine id).on s = (.ok o, t)) (hn : 0 < n)
    (hlast : stops o = true ∨ 1 = n) : Continued engine id n s (.ok o, t) := by
  have hwalk : Walk engine id s ([] ++ [o]) t := .step hstep (.rest t)
  exact .halted hwalk (by simp) hn hlast

/-- A step that does not stop a continuation, before the rest of it. -/
theorem Continued.after {n : Nat} {s t : Server ε} {o : StepOutcome}
    {run : Except Fault StepOutcome × Server ε}
    (hstep : (Debug.step engine id).on s = (.ok o, t)) (hgoing : stops o = false)
    (h : Continued engine id n t run) : Continued engine id (n + 1) s run := by
  cases h with
  | halted hwalk hfront hless hlast =>
      refine .halted (.step hstep hwalk) (List.forall_mem_cons.mpr ⟨hgoing, hfront⟩) ?_
        (hlast.imp_right ?_)
      all_goals
        rw [List.length_cons]
        omega
  | failed hwalk hfront hless hfail =>
      refine .failed (.step hstep hwalk) (List.forall_mem_cons.mpr ⟨hgoing, hfront⟩) ?_ hfail
      rw [List.length_cons]
      omega

/-- A first step and at most `n` after it are a continuation of at most `n + 1` steps. -/
theorem continued_begun (n : Nat) : ∀ s : Server ε, Continued engine id (n + 1) s
    ((do steps engine id n (← Debug.step engine id) : Act (Server ε) StepOutcome).on s) := by
  induction n with
  | zero =>
      intro s
      rw [Act.on_bind]
      cases hstep : (Debug.step engine id).on s with
      | mk res t =>
          cases res with
          | error f => exact .failed (.rest s) (by simp) (by simp) hstep
          | ok o => exact .single hstep Nat.one_pos (.inr rfl)
  | succ n ih =>
      intro s
      rw [Act.on_bind]
      cases hstep : (Debug.step engine id).on s with
      | mk res t =>
          cases res with
          | error f => exact .failed (.rest s) (by simp) (by simp) hstep
          | ok o =>
              dsimp only
              rw [steps]
              cases hstop : stops o with
              | true => exact .single hstep (Nat.succ_pos _) (.inl hstop)
              | false => exact .after hstep hstop (ih t)

end Walk

/-! ## Pauses -/

/-- Whether a step that may have failed hit a breakpoint. -/
def hits : Except Fault StepOutcome → Bool
  | .ok o => o.hit.isSome
  | .error _ => false

/-- A server with one session paused no longer. -/
def resumed {ε : Type} (id : String) (s : Server ε) : Server ε :=
  { s with records := s.records.map fun r =>
    if r.session == id then { r with paused := false } else r }

theorem hit_of_going {o : StepOutcome} (h : stops o = false) : o.hit.isSome = false := by
  rw [stops, Bool.or_eq_false_iff, Bool.or_eq_false_iff] at h
  exact h.1.1

theorem canContinue_of_going {o : StepOutcome} (h : stops o = false) : o.canContinue = true := by
  rw [stops, Bool.or_eq_false_iff, Bool.or_eq_false_iff] at h
  simpa using h.1.2

open Ink

section Continuation

variable {setup : Ink.Setup} {id : String} {s t : Server Shelf} {r : Record}

variable (setup) in
/-- A step pauses the session if it hits a breakpoint, and otherwise leaves the pause. -/
theorem step_paused (hr : s.recordOf id = some r) :
    ∃ r', ((step (engine setup) id).on s).2.recordOf id = some r' ∧
      r'.paused = (r.paused || hits ((step (engine setup) id).on s).1) := by
  have hadvance := advance_record (engine_tells setup) hr
  cases ha : (advance (engine setup) id).on s with
  | mk res t =>
      rw [ha] at hadvance
      cases res with
      | error f =>
          rw [(step_untold ha).1]
          exact ⟨r, hadvance, (Bool.or_false _).symm⟩
      | ok p =>
          obtain ⟨res, seen, e, r', u, hstep, -, hrecord, hrecorded⟩ := step_told hr ha
          rw [hstep]
          refine ⟨r', hrecord, ?_⟩
          cases hrecorded with
          | unjudged hj => exact (Bool.or_false _).symm
          | unwritten hj ht =>
              -- the text of a line can be cut
              obtain ⟨line, hline⟩ := hadvance.2.2
              rw [hline] at ht
              cases ht
          | written time hj ht => rfl

theorem Walk.unpaused {front : List StepOutcome} (h : Walk (engine setup) id s front t)
    (hgoing : ∀ o ∈ front, stops o = false) (hr : s.recordOf id = some r)
    (hp : r.paused = false) : ∃ r', t.recordOf id = some r' ∧ r'.paused = false := by
  induction h generalizing r with
  | rest s => exact ⟨r, hr, hp⟩
  | @step s t u o rest hstep hrest ih =>
      obtain ⟨ho, hrest'⟩ := List.forall_mem_cons.mp hgoing
      obtain ⟨r', hr', hp'⟩ := step_paused setup hr
      rw [hstep] at hr' hp'
      refine ih hrest' hr' ?_
      rw [hp', hp, Bool.false_or]
      exact hit_of_going ho

theorem Walk.split {ε : Type} {engine : StoryEngine ε} {s u : Server ε} {o : StepOutcome}
    {front : List StepOutcome} (h : Walk engine id s (front ++ [o]) u) :
    ∃ t, Walk engine id s front t ∧ (Debug.step engine id).on t = (.ok o, u) := by
  induction front generalizing s with
  | nil =>
      obtain _ | ⟨hstep, hrest⟩ := h
      obtain _ | _ := hrest
      exact ⟨s, .rest s, hstep⟩
  | cons p front ih =>
      obtain _ | ⟨hstep, hrest⟩ := h
      obtain ⟨t, hfront, hlast⟩ := ih hrest
      exact ⟨t, .step hstep hfront, hlast⟩

/-- How a continuation ends: in a step after others that do not stop it. -/
theorem Continued.ending {ε : Type} {engine : StoryEngine ε} {s : Server ε} {n : Nat}
    {run : Except Fault StepOutcome × Server ε} (h : Continued engine id n s run) :
    ∃ front t, Walk engine id s front t ∧ (∀ o ∈ front, stops o = false) ∧
      (Debug.step engine id).on t = run := by
  cases h with
  | @halted front o u hwalk hgoing hless hlast =>
      obtain ⟨t, hfront, hstep⟩ := hwalk.split
      exact ⟨front, t, hfront, hgoing, hstep⟩
  | @failed front f t u hwalk hgoing hless hstep => exact ⟨front, t, hwalk, hgoing, hstep⟩

/-- After a continuation the session is paused if the last step hit a breakpoint. -/
theorem Continued.paused {n : Nat} {run : Except Fault StepOutcome × Server Shelf}
    (h : Continued (engine setup) id n s run) (hr : s.recordOf id = some r)
    (hp : r.paused = false) : ∃ r', run.2.recordOf id = some r' ∧ r'.paused = hits run.1 := by
  obtain ⟨front, t, hwalk, hgoing, rfl⟩ := h.ending
  obtain ⟨q, hq, hunpaused⟩ := hwalk.unpaused hgoing hr hp
  obtain ⟨r', hr', hp'⟩ := step_paused setup hq
  rw [hunpaused, Bool.false_or] at hp'
  exact ⟨r', hr', hp'⟩

/-! ## The flag and the question -/

/-- A server on which the next step of a session finds a line to tell. -/
def GoesOn (id : String) (s : Server Shelf) : Prop :=
  ∃ session base breakpoints names u, Telling id session base breakpoints names u s ∧
    u.peek = .ok true

/-- Where a step tells its line, the story on the shelf told it. -/
theorem told_of_advance {p : Passage} (h : (advance (engine setup) id).on s = (.ok p, t)) :
    ∃ session base breakpoints names u v, Telling id session base breakpoints names u s ∧
      u.peek = .ok true ∧ Story.continueLine.on u = (.ok p.told, v) := by
  have hon := h
  rw [advance] at hon
  cases hs : s.sessions.find? (·.id == id) with
  | none =>
      rw [Act.on_bind_of_error (session_none hs)] at hon
      cases hon
  | some session =>
      rw [Act.on_bind_of_ok (session_on hs)] at hon
      cases hr : s.recordOf id with
      | none =>
          rw [Act.on_bind_of_error (record_none hr)] at hon
          cases hon
      | some r =>
          rw [Act.on_bind_of_ok (record_on hr)] at hon
          obtain ⟨more, x, hasked, hrest⟩ := Act.of_on_bind (congrArg Prod.fst hon)
          have hanswer : ((Shelf.withStory session.story Story.canContinue).on
              s.stage.engine).1 = .ok more := congrArg Prod.fst hasked
          cases hu : s.stage.engine.opened[session.story]? with
          | none =>
              rw [Shelf.withStory_none _ hu] at hanswer
              cases hanswer
          | some u =>
              rw [Shelf.withStory_on _ hu] at hanswer
              obtain ⟨hopen, hp⟩ := Story.canContinue_ok hanswer
              cases more with
              | false =>
                  -- without a line the step lists the choices and fails
                  rw [hrest] at hon
                  obtain ⟨choices, z, -, hthrow⟩ := Act.of_on_bind (congrArg Prod.fst hon)
                  cases hthrow.symm.trans hon
              | true =>
                  obtain ⟨hplace, hget⟩ := List.getElem?_eq_some_iff.mp hu
                  have hshelf : OnShelf s.stage.engine.opened session.story u s.stage := by
                    rw [OnShelf, ← hget, List.set_getElem_self]
                  obtain ⟨y, hy, -⟩ := advance_shelf setup hr hs hplace hshelf hopen hp
                  refine ⟨session, _, _, _, u, (Story.continueLine.on u).2,
                    ⟨hs, hplace, hshelf, hopen, r, hr, rfl, rfl⟩, hp, Prod.ext ?_ rfl⟩
                  rw [h] at hy
                  cases hline : (Story.continueLine.on u).1 with
                  | error f =>
                      rw [hline] at hy
                      cases hy
                  | ok c =>
                      rw [hline] at hy
                      cases hy
                      rfl

/-- After a step that says so the story goes on. -/
theorem goes_on_of_step {o : StepOutcome} (h : (step (engine setup) id).on s = (.ok o, t))
    (ho : o.canContinue = true) : GoesOn id t := by
  obtain ⟨p, x, hadvance, -⟩ := Act.of_on_bind (congrArg Prod.fst h)
  obtain ⟨session, base, breakpoints, names, u, v, htelling, hp, hl⟩ := told_of_advance hadvance
  obtain ⟨r, hr, -⟩ := htelling.record
  obtain ⟨judged, seen, y, -, -, hstep, hlast⟩ := step_judged setup htelling hr hp hl
  rw [h] at hstep
  cases judged with
  | error f => cases hstep
  | ok verdict =>
      cases hstep
      exact ⟨session, base, breakpoints, names, v, hlast,
        (Story.continueLine_told hl).peek.trans (congrArg _ ho)⟩

theorem raises_changesAmong (seen : List Change) : Raises Fault.Other (changesAmong seen) := by
  induction seen with
  | nil => exact raises_ok _
  | cons x rest ih =>
      refine raises_bind (raises_sameValue _ _) fun same => ?_
      split
      · exact ih
      · exact raises_bind ih fun _ => raises_ok _

/-- Where there is a line to tell, a step does not fail for want of one. -/
theorem other_of_goes_on (h : GoesOn id s) {f : Fault}
    (hstep : (step (engine setup) id).on s = (.error f, t)) : f.Other := by
  obtain ⟨session, base, breakpoints, names, u, htelling, hp⟩ := h
  cases hl : Story.continueLine.on u with
  | mk res v =>
      cases res with
      | error g =>
          obtain ⟨y, hy, -⟩ := step_fault setup htelling hp hl
          obtain rfl : g = f := by
            rw [hstep] at hy
            cases hy
            rfl
          exact Story.raises_continueLine u g (congrArg Prod.fst hl)
      | ok c =>
          obtain ⟨r, hr, -⟩ := htelling.record
          obtain ⟨judged, seen, y, hjudged, -, hy, -⟩ := step_judged setup htelling hr hp hl
          rw [hstep] at hy
          cases hjudged with
          | uncompared hseen hc =>
              cases hy
              exact raises_changesAmong seen f hc
          | untested hseen hc ht =>
              cases hy
              exact raises_firstHit _ _ _ f ht
          | judged hseen hc ht => cases hy

/-- Only the first step of a continuation can fail for want of a line. -/
theorem Continued.first_of_stepping {n : Nat} {run : Except Fault StepOutcome × Server Shelf}
    (h : Continued (engine setup) id n s run) {f : Fault} (hf : run.1 = .error f)
    (hkind : f.ofStepping = true) : (step (engine setup) id).on s = run := by
  obtain ⟨front, t, hwalk, hgoing, hstep⟩ := h.ending
  rcases List.eq_nil_or_concat front with rfl | ⟨init, o, rfl⟩
  · obtain _ | _ := hwalk
    exact hstep
  · obtain ⟨w, -, ho⟩ := (List.concat_eq_append ▸ hwalk).split
    have hcan : o.canContinue = true := canContinue_of_going (hgoing o (by simp))
    have hother := other_of_goes_on (goes_on_of_step ho hcan) (hstep.trans (Prod.ext hf rfl))
    cases hother.symm.trans hkind

/-! ## Continuing -/

/-- **Continuing is stepping.**  A continuation of a debugged session clears the pause, takes
steps until one hits a breakpoint, says that the story stops or offers choices, and at most
`most` of them, and answers as the last one does; afterwards the session is paused if that one
hit a breakpoint.  A step that fails ends it, and fails for want of a line only as the first. -/
theorem continuing_is_stepping (setup : Ink.Setup) (id : String) (most : Int) (s : Server Shelf) :
    let run := (continueFor (engine setup) id most).on s
    match s.sessions.find? (·.id == id), s.recordOf id with
    | none, _ => run = (.error (.noSession id), s)
    | some _, none => run = (.error (.noDebugSession id), s)
    | some _, some r =>
      (most < 1 →
        run = (.ok { text := .str "", canContinue := false, number := r.steps, paused := false },
          resumed id s)) ∧
      (1 ≤ most → Continued (engine setup) id most.toNat (resumed id s) run) ∧
      (∃ r', run.2.recordOf id = some r' ∧ r'.paused = hits run.1) ∧
      ∀ f, run.1 = .error f → f.kind = "DebugStateError" →
        (step (engine setup) id).on (resumed id s) = run := by
  intro run
  cases hs : s.sessions.find? (·.id == id) with
  | none => exact Act.on_bind_of_error (Act.on_bind_of_error (session_none hs))
  | some session =>
      cases hr : s.recordOf id with
      | none =>
          refine Act.on_bind_of_error ?_
          rw [unpause, Act.on_bind_of_ok (session_on hs), Act.on_bind_of_error (record_none hr)]
      | some r =>
          have hunpause : (unpause id).on s = (.ok r, resumed id s) := by
            rw [unpause, Act.on_bind_of_ok (session_on hs), Act.on_bind_of_ok (record_on hr)]
            rfl
          have hresumed : (resumed id s).recordOf id = some { r with paused := false } :=
            record_update hr fun _ => rfl
          cases hn : most.toNat with
          | zero =>
              have hnone : most < 1 := by omega
              have hrun : run = (.ok { text := .str "", canContinue := false, number := r.steps,
                                       paused := false }, resumed id s) := by
                change (continueFor (engine setup) id most).on s = _
                rw [continueFor, Act.on_bind_of_ok hunpause, hn]
                rfl
              refine ⟨fun _ => hrun, fun hmost => absurd hmost (by omega), ?_, fun f hf => ?_⟩
              · rw [hrun]
                exact ⟨_, hresumed, rfl⟩
              · rw [hrun] at hf
                cases hf
          | succ n =>
              have hcontinued : Continued (engine setup) id (n + 1) (resumed id s) run := by
                change Continued _ _ _ _ ((continueFor (engine setup) id most).on s)
                rw [continueFor, Act.on_bind_of_ok hunpause, hn]
                exact continued_begun n (resumed id s)
              refine ⟨fun hnone => absurd hnone (by omega), fun _ => hcontinued,
                hcontinued.paused hresumed rfl, fun f hf hkind => ?_⟩
              exact hcontinued.first_of_stepping hf (f.ofStepping_iff.mpr hkind)

end Continuation

end Debug

end StoryServer
