import StoryServer.Proofs.Debug.Continuation

/-!
# What a step reports

A step that answers reports the text of its line, the watched variables that the line changed,
and the breakpoint that it hit.  This module says what these are by the story before the line
and after it.

*Changes.*  `changesAmong` keeps what was seen that is a change; when it answers, every
comparison did (`changesAmong_ok`).  What a watch was last seen with has no part in it, so a
value that was written between two steps is the value before the next line and no change.

*Hits.*  `FirstHit` says which breakpoint is hit: one that is looked at and matches, with none
before it that does.

*Steps.*  `step_seen` is a step with the stories before and after its line, and what it saw of
them; `step_reports` says what its outcome says.
-/

namespace StoryServer

namespace Debug

/-! ## Changes -/

/-- What counts as a change was seen and compared as different, and every comparison of what was
seen has a result. -/
theorem changesAmong_ok {seen changes : List Change} (h : changesAmong seen = .ok changes) :
    (∀ x, x ∈ changes ↔ x ∈ seen ∧ sameValue x.old x.new = .ok false) ∧
      ∀ x ∈ seen, ∃ same, sameValue x.old x.new = .ok same := by
  induction seen generalizing changes with
  | nil =>
      obtain rfl : [] = changes := by simpa [changesAmong] using h
      simp
  | cons y rest ih =>
      rw [changesAmong_cons] at h
      cases hy : sameValue y.old y.new with
      | error f =>
          rw [hy] at h
          cases h
      | ok same =>
          rw [hy] at h
          cases same with
          | true =>
              obtain ⟨hmem, hall⟩ := ih h
              refine ⟨fun x => ?_, List.forall_mem_cons.mpr ⟨⟨true, hy⟩, hall⟩⟩
              rw [hmem x, List.mem_cons]
              refine and_congr_left fun hx => ⟨.inr, fun hor => hor.resolve_left ?_⟩
              rintro rfl
              simp [hy] at hx
          | false =>
              cases hrest : changesAmong rest with
              | error f =>
                  rw [hrest] at h
                  cases h
              | ok more =>
                  rw [hrest] at h
                  obtain rfl : y :: more = changes := by simpa [Except.map] using h
                  obtain ⟨hmem, hall⟩ := ih hrest
                  refine ⟨fun x => ?_, List.forall_mem_cons.mpr ⟨⟨false, hy⟩, hall⟩⟩
                  rw [List.mem_cons, List.mem_cons, hmem x]
                  constructor
                  · rintro (rfl | ⟨hx, hdiffers⟩)
                    · exact ⟨.inl rfl, hy⟩
                    · exact ⟨.inr hx, hdiffers⟩
                  · rintro ⟨hx, hdiffers⟩
                    exact hx.imp_right fun hx => ⟨hx, hdiffers⟩

/-- A watch whose variable was seen has the value it was seen with. -/
theorem Watch.looks_last {value : String → Json} {seen : List Change}
    (hseen : ∀ x ∈ seen, x.new = value x.name) (w : Watch) :
    w.last = value w.name ∨ w.name ∈ seen.map (·.name) →
      (seen.foldl Watch.look w).last = value w.name := by
  induction seen generalizing w with
  | nil => simp
  | cons x rest ih =>
      intro hw
      obtain ⟨hx, hrest⟩ := List.forall_mem_cons.mp hseen
      rw [List.foldl_cons, ← w.look_name x]
      refine ih hrest (w.look x) ?_
      rw [w.look_name x]
      by_cases hname : w.name = x.name
      · -- the value just seen is the one of this variable
        refine .inl ?_
        rw [Watch.look, if_pos (beq_iff_eq.mpr hname), hname, ← hx]
        split <;> rfl
      · have hsame : w.look x = w := by
          rw [Watch.look, if_neg (by simpa using hname)]
        rw [hsame]
        simpa [hname] using hw

/-! ## Hits -/

/-- Whether a breakpoint is passed by: it is not looked at, or does not match. -/
def Breakpoint.Passed (told : Json) (changed : List String) (b : Breakpoint) : Prop :=
  b.enabled = true → b.type.hit b.target told changed = .ok false

/-- Which of some breakpoints is hit: the first that is looked at and matches, if there is
one. -/
inductive FirstHit (told : Json) (changed : List String) :
    List Breakpoint → Option Breakpoint → Prop where
  | hit {front back : List Breakpoint} {b : Breakpoint}
      (hfront : ∀ a ∈ front, a.Passed told changed) (henabled : b.enabled = true)
      (hmatch : b.type.hit b.target told changed = .ok true) :
      FirstHit told changed (front ++ b :: back) (some b)
  | none {breakpoints : List Breakpoint} (hall : ∀ b ∈ breakpoints, b.Passed told changed) :
      FirstHit told changed breakpoints none

/-- A breakpoint that is passed by before the others. -/
theorem FirstHit.after {told : Json} {changed : List String} {b : Breakpoint}
    {rest : List Breakpoint} {hit : Option Breakpoint} (h : FirstHit told changed rest hit)
    (hb : b.Passed told changed) : FirstHit told changed (b :: rest) hit := by
  cases h with
  | hit hfront henabled hmatch =>
      exact .hit (List.forall_mem_cons.mpr ⟨hb, hfront⟩) henabled hmatch
  | none hall => exact .none (List.forall_mem_cons.mpr ⟨hb, hall⟩)

theorem firstHit_ok {told : Json} {changed : List String} {breakpoints : List Breakpoint}
    {hit : Option Breakpoint} (h : firstHit told changed breakpoints = .ok hit) :
    FirstHit told changed breakpoints hit := by
  induction breakpoints with
  | nil =>
      obtain rfl : none = hit := by simpa [firstHit] using h
      exact .none (by simp)
  | cons b rest ih =>
      rw [firstHit] at h
      cases henabled : b.enabled with
      | false =>
          simp only [henabled, Bool.false_eq_true, if_false] at h
          exact (ih h).after fun hb => by simp [henabled] at hb
      | true =>
          simp only [henabled, if_true] at h
          cases hmatch : b.type.hit b.target told changed with
          | error f =>
              rw [hmatch] at h
              cases h
          | ok found =>
              rw [hmatch] at h
              cases found with
              | true =>
                  obtain rfl : some b = hit := Except.ok.inj h
                  have hfront : ∀ a ∈ ([] : List Breakpoint), a.Passed told changed := by simp
                  exact .hit hfront henabled hmatch
              | false => exact (ih h).after fun _ => hmatch

/-- A breakpoint on a variable is hit exactly by a change of that variable. -/
theorem variableChange_hit (target : String) (told : Json) (changes : List Change) :
    BreakpointType.variableChange.hit target told (changes.map (·.name)) = .ok true ↔
      ∃ x ∈ changes, x.name = target := by
  rw [BreakpointType.hit, Except.ok.injEq, List.contains_iff_mem, List.mem_map]

/-! ## Steps -/

open Ink

section Reporting

variable {setup : Ink.Setup} {id : String} {s t : Server Shelf} {o : StepOutcome}

/-- A step that answers told a line of the story of its session, saw the watched variables before
it and after it, and nothing else. -/
theorem step_seen (h : (step (engine setup) id).on s = (.ok o, t)) :
    ∃ session r u v r', s.sessions.find? (·.id == id) = some session ∧
      s.recordOf id = some r ∧ t.recordOf id = some r' ∧
      s.stage.engine.opened[session.story]? = some u ∧
      t.stage.engine.opened = s.stage.engine.opened.set session.story v ∧
      Story.continueLine.on u = (.ok o.told, v) ∧ u.closed = false ∧ v.closed = false ∧
      changesAmong (sights (r.watches.map (·.name)) u v) = .ok o.changes ∧
      firstHit o.text (o.changes.map (·.name)) r.breakpoints = .ok o.hit ∧
      r'.watches = (r.look (sights (r.watches.map (·.name)) u v)).watches := by
  obtain ⟨p, x, ha, -⟩ := Act.of_on_bind (congrArg Prod.fst h)
  obtain ⟨session, base, breakpoints, names, u, v, htelling, hp, hl⟩ := told_of_advance ha
  obtain ⟨r, hr, -⟩ := htelling.record
  have hopen : v.closed = false := by
    have hfixed := Story.continueLine_fixed u
    rw [hl] at hfixed
    exact (Story.closed_of_fixed hfixed).trans htelling.isOpen
  obtain ⟨y, hy, hfocus⟩ := advance_shelf setup hr htelling.live htelling.place htelling.shelf
    htelling.isOpen hp
  rw [ha, hl] at hy
  rw [hl] at hfocus
  obtain ⟨hpassage, rfl⟩ := Prod.mk.inj hy
  obtain ⟨story, before, told⟩ := p
  obtain ⟨rfl, rfl, -⟩ := Passage.mk.inj (Except.ok.inj hpassage)
  obtain ⟨res, seen, e, r', w, hstep, -, hrec, hnew, hlast⟩ := step_focus ha hfocus
    (reads_shelf setup htelling.place hopen)
  rw [h] at hstep
  obtain ⟨rfl, rfl⟩ := Prod.mk.inj hstep
  cases hrec with
  | written time hj ht =>
  cases hj with
  | @judged changes hit hseen hc hf =>
  obtain rfl : sights (r.watches.map (·.name)) u v = seen := by
    have hbefore : ((r.watches.map (·.name)).map fun name => (name, u.shown name)) =
        (seen.map fun x => (x.name, x.old)) ++ [] := by
      rw [List.append_nil, ← hseen, List.map_map]
      rfl
    rw [sights_eq hbefore hnew, List.map_nil, List.append_nil]
  have hstory : s.stage.engine.opened[session.story]? = some u := by
    rw [htelling.shelf, List.getElem?_set_self htelling.place]
  have hstory' : t.stage.engine.opened = s.stage.engine.opened.set session.story v := by
    rw [htelling.shelf, List.set_set]
    exact hlast.stage
  exact ⟨session, r, u, v, _, htelling.live, hr, hlast.record, hstory, hstory', hl,
    htelling.isOpen, hopen, hc, hf, rfl⟩

/-- What is to be seen of a variable: its value before a line and after it. -/
theorem mem_sights {names : List String} {u v : Story} {x : Change} :
    x ∈ sights names u v ↔ x.name ∈ names ∧ x.old = u.shown x.name ∧ x.new = v.shown x.name := by
  rw [sights, List.mem_map]
  constructor
  · rintro ⟨name, hname, rfl⟩
    exact ⟨hname, rfl, rfl⟩
  · rintro ⟨hname, hold, hnew⟩
    exact ⟨x.name, hname, by rw [← hold, ← hnew]⟩

/-- Looking at every watched variable leaves its watch with the value after the line. -/
theorem looks_shown (r : Record) (u v : Story) :
    (r.look (sights (r.watches.map (·.name)) u v)).watches.map (fun w => (w.name, w.last)) =
      r.watches.map fun w => (w.name, v.shown w.name) := by
  rw [Record.look, List.map_map]
  refine List.map_congr_left fun w hw => ?_
  have hname : w.name ∈ (sights (r.watches.map (·.name)) u v).map (·.name) := by
    simpa [sights] using ⟨w, hw, rfl⟩
  exact Prod.ext (w.looks_name _)
    (w.looks_last (fun x hx => (mem_sights.mp hx).2.2) (.inr hname))

variable {s₀ s₁ : Server Shelf} {limit : Int} {answer : Json}

/-- **What a step reports.**  After any history of a debug session, with anything beside it, a
step that answers has told a line of its story and reports as changes exactly the watched
variables whose values right before and right after the line are different, with these values.
What a watch was last seen with does not matter, so what was written between steps is no change
and hits no breakpoint on the variable.  The breakpoint reported is the first in the order of
adding that is looked at and matches, and every watch is left with the value after the line. -/
theorem step_reports (hstart : (start limit id).on s₀ = (.ok answer, s₁))
    (cs : List (Command Shelf id))
    (hstep : (step (engine setup) id).on (Command.run (engine setup) cs s₁) = (.ok o, t)) :
    let s := Command.run (engine setup) cs s₁
    ∃ session r u v r', s.sessions.find? (·.id == id) = some session ∧
      s.recordOf id = some r ∧ t.recordOf id = some r' ∧
      s.stage.engine.opened[session.story]? = some u ∧
      t.stage.engine.opened = s.stage.engine.opened.set session.story v ∧
      Story.continueLine.on u = (.ok o.told, v) ∧
      (o.changes.map (·.name)).Nodup ∧
      (∀ x, x ∈ o.changes ↔ x.name ∈ r.watches.map (·.name) ∧
        (Story.getVariable x.name).on u = (.ok x.old, u) ∧
        (Story.getVariable x.name).on v = (.ok x.new, v) ∧ sameValue x.old x.new = .ok false) ∧
      (∀ name ∈ r.watches.map (·.name), ∃ same,
        sameValue (u.shown name) (v.shown name) = .ok same) ∧
      (∀ target, BreakpointType.variableChange.hit target o.text (o.changes.map (·.name)) =
        .ok true ↔ target ∈ r.watches.map (·.name) ∧ target ∈ o.changes.map (·.name)) ∧
      (∀ target, sameValue (u.shown target) (v.shown target) = .ok true →
        BreakpointType.variableChange.hit target o.text (o.changes.map (·.name)) = .ok false) ∧
      FirstHit o.text (o.changes.map (·.name)) r.breakpoints o.hit ∧
      (r.breakpoints.map (·.number)).Pairwise (· < ·) ∧
      r'.watches.map (fun w => (w.name, w.last)) =
        r.watches.map fun w => (w.name, v.shown w.name) := by
  intro s
  obtain ⟨session, r, u, v, r', hlive, hr, hr', hstory, hstory', hline, hu, hv, hchanges, hhit,
    hwatches⟩ := step_seen hstep
  obtain ⟨q, hq, hruns⟩ := Command.history_runs (tells_any _) cs (start_record hstart)
  obtain rfl : r = q := Option.some.inj (hr.symm.trans hq)
  have hkept := (Kept.start id limit.toNat).runs hruns
  obtain ⟨hmem, hcompared⟩ := changesAmong_ok hchanges
  have hnames : (sights (r.watches.map (·.name)) u v).map (·.name) = r.watches.map (·.name) := by
    rw [sights, List.map_map]
    exact List.map_id _
  have hsub := (changesAmong_sublist hchanges).map (·.name)
  rw [hnames] at hsub
  refine ⟨session, r, u, v, r', hlive, hr, hr', hstory, hstory', hline, hkept.names.sublist hsub,
    fun x => ?_, fun name hname => ?_, fun target => ?_, fun target hsame => ?_, firstHit_ok hhit,
    hkept.ordered,
    hwatches ▸ looks_shown r u v⟩
  · rw [hmem, mem_sights, Story.getVariable_on hu, Story.getVariable_on hv]
    simp only [Prod.mk.injEq, Except.ok.injEq, and_true, and_assoc, eq_comm]
  · exact hcompared ⟨name, u.shown name, v.shown name⟩ (mem_sights.mpr ⟨hname, rfl, rfl⟩)
  · rw [variableChange_hit, ← List.mem_map]
    exact ⟨fun h => ⟨hsub.subset h, h⟩, And.right⟩
  · have hnot : target ∉ o.changes.map (·.name) := by
      rintro htarget
      obtain ⟨x, hx, rfl⟩ := List.mem_map.mp htarget
      obtain ⟨hsight, hdiffers⟩ := (hmem x).mp hx
      obtain ⟨-, hold, hnew⟩ := mem_sights.mp hsight
      rw [hold, hnew, hsame] at hdiffers
      cases hdiffers
    rw [BreakpointType.hit, Except.ok.injEq]
    simpa using hnot

/-- Between two steps a watched variable is written; the second step reports only what its own
line does, and hits the breakpoint on the variable that the line changes. -/
theorem step_reports_apart :
    let s := debugged "VAR x = 1\nVAR y = 1\nA\n~ y = x\nB"
    let box : Toolbox Shelf := { engine := engine false }
    let cs : List (Command Shelf "x") :=
      [.addWatch "x", .addWatch "y", .addBreakpoint "variable_change" "x",
        .addBreakpoint "variable_change" "y", .step,
        .ofRequest box (.setVariable "x" "x" (.int 5)) rfl]
    ∃ o t r', (step (engine false) "x").on
        (Command.run (engine false) cs ((start 3 "x").on s).2) = (.ok o, t) ∧
      o.changes = [⟨"y", .int 1, .int 5⟩] ∧
      FirstHit o.text (o.changes.map (·.name))
        [⟨1, .variableChange, "x", true⟩, ⟨2, .variableChange, "y", true⟩] o.hit ∧
      t.recordOf "x" = some r' ∧
      (r'.watches.map fun w => (w.name, w.last)) = [("x", .int 5), ("y", .int 5)] := by
  intro s box cs
  have hstart : (start 3 "x").on s = (.ok _, ((start 3 "x").on s).2) := rfl
  have hbreakpoints : ((Command.run (engine false) cs ((start 3 "x").on s).2).recordOf "x").map
      (·.breakpoints) = some [⟨1, .variableChange, "x", true⟩, ⟨2, .variableChange, "y", true⟩] := by
    decide +kernel
  have hdone : (((step (engine false) "x").on
      (Command.run (engine false) cs ((start 3 "x").on s).2)).1.map (·.changes)) =
        .ok [⟨"y", .int 1, .int 5⟩] := by decide +kernel
  have hlast : (((step (engine false) "x").on
      (Command.run (engine false) cs ((start 3 "x").on s).2)).2.recordOf "x").map
        (fun r => r.watches.map fun w => (w.name, w.last)) =
          some [("x", .int 5), ("y", .int 5)] := by decide +kernel
  generalize hrun : (step (engine false) "x").on _ = run at hdone hlast
  obtain ⟨res, t⟩ := run
  cases res with
  | error f => cases hdone
  | ok o =>
      obtain ⟨session, r, u, v, r', -, hr, hr', -, -, -, -, -, -, -, -, hhit, -, -⟩ :=
        step_reports hstart cs hrun
      rw [hr, Option.map_some, Option.some.injEq] at hbreakpoints
      rw [hr', Option.map_some, Option.some.injEq] at hlast
      exact ⟨o, t, r', rfl, Except.ok.inj hdone, hbreakpoints ▸ hhit, hr', hlast⟩

end Reporting

end Debug

end StoryServer
