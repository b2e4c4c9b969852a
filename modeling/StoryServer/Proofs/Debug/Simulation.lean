import StoryServer.Proofs.Debug.History
import StoryServer.Proofs.Ink.Frame

/-!
# A step tells the next line

A step of the debugger on a story that is told in process does what telling the next line does:
the line, the story after it and the fault, if there is one, are the same.

*The story on its shelf.*  `Telling` is a server on which one story of the shelf is debugged:
which story it is by now, and which breakpoints and watches there are.  Reading the watches is
all that a step does to the story besides telling the line, and it leaves the story.

*Quiet lines.*  While no comparison and no test fails (`Quiet`), a step goes to a `Telling` of
the story after the line (`step_line`); where the line fails, so does the step, with the same
fault (`step_fault`).
-/

namespace StoryServer

namespace Ink

/-- The value that a variable shows; null for an unknown one. -/
def Story.shown (s : Story) (name : String) : Json := (s.bindings.get? name).getD .null

theorem Story.getVariable_on {s : Story} (ho : s.closed = false) (name : String) :
    (Story.getVariable name).on s = (.ok (s.shown name), s) := by
  rw [Story.getVariable, Act.on_bind_of_ok (requireOpen_ok ho)]
  rfl

/-- A shelf with a story in its place. -/
def OnShelf (base : List Story) (n : StoryId) (u : Story) (x : Stage Shelf) : Prop :=
  x.engine.opened = base.set n u

/-- An operation on the story in its place puts back what it leaves. -/
theorem inStory_on {α : Type} {base : List Story} {n : StoryId} {u : Story} {x : Stage Shelf}
    (act : Act Story α) (hn : n < base.length) (hx : OnShelf base n u x) :
    (Stage.inEngine (Shelf.withStory n act)).on x =
      ((act.on u).1, { x with engine := { opened := base.set n (act.on u).2 } }) := by
  have hs : x.engine.opened[n]? = some u := by
    rw [hx, List.getElem?_set_self hn]
  rw [Stage.inEngine, Act.on_within, Shelf.withStory_on act hs, hx, List.set_set]

end Ink

namespace Debug

open Ink

/-! ## One step -/

/-- What is seen of watched variables before and after a line. -/
def sights (names : List String) (u v : Story) : List Change :=
  names.map fun name => ⟨name, u.shown name, v.shown name⟩

/-- No comparison and no test fails at a line. -/
def Quiet (names : List String) (breakpoints : List Breakpoint) (u : Story) (c : Continuation)
    (v : Story) : Prop :=
  ∃ changes hit, changesAmong (sights names u v) = .ok changes ∧
    firstHit c.text (changes.map (·.name)) breakpoints = .ok hit

/-- Whether nothing fails is found out by trying. -/
instance (names : List String) (breakpoints : List Breakpoint) (u : Story) (c : Continuation)
    (v : Story) : Decidable (Quiet names breakpoints u c v) :=
  match hc : changesAmong (sights names u v) with
  | .error f => isFalse fun ⟨_, _, h, _⟩ => by rw [hc] at h; cases h
  | .ok changes =>
    match hf : firstHit c.text (changes.map (·.name)) breakpoints with
    | .error f => isFalse fun ⟨_, _, h, h'⟩ => by
        obtain rfl := Except.ok.inj (hc.symm.trans h)
        rw [hf] at h'
        cases h'
    | .ok hit => isTrue ⟨changes, hit, hc, hf⟩

section Telling

variable (setup : Ink.Setup) {id : String} {session : Session}
variable {base : List Story} {u v : Story} {r : Record} {s : Server Shelf}
variable {breakpoints : List Breakpoint} {names : List String}

/-- A server on which one story of the shelf is debugged. -/
structure Telling (id : String) (session : Session) (base : List Story)
    (breakpoints : List Breakpoint) (names : List String) (u : Story) (s : Server Shelf) : Prop where
  live : s.sessions.find? (·.id == id) = some session
  /-- Its story has a place on the shelf. -/
  place : session.story < base.length
  shelf : OnShelf base session.story u s.stage
  isOpen : u.closed = false
  /-- The record has the breakpoints and the watches. -/
  record : ∃ r, s.recordOf id = some r ∧ r.breakpoints = breakpoints ∧
    r.watches.map (·.name) = names

/-- Reading variables gives what the story shows, and leaves the shelf. -/
theorem reads_shelf (hn : session.story < base.length) (ho : u.closed = false) :
    Reads (engine setup) session.story (OnShelf base session.story u)
      fun name v => v = u.shown name where
  note _ _ hx := hx
  read name x hx := by
    have hon : ((engine setup).getVariable session.story name).on x =
        (.ok (u.shown name), { x with engine := { opened := base.set session.story u } }) := by
      refine (inStory_on (Story.getVariable name) hn hx).trans ?_
      rw [Story.getVariable_on ho]
    rw [hon]
    exact ⟨rfl, rfl⟩

theorem values_eq {f : String → Json} {values : List (String × Json)}
    (h : ∀ p ∈ values, p.2 = f p.1) :
    values = (values.map Prod.fst).map fun name => (name, f name) := by
  rw [List.map_map]
  refine (List.map_id values).symm.trans (List.map_congr_left fun p hp => ?_)
  exact Prod.ext rfl (h p hp)

/-- The line of a step is the next line of the story. -/
theorem advance_shelf (h : s.recordOf id = some r)
    (hlive : s.sessions.find? (·.id == id) = some session)
    (hn : session.story < base.length) (hx : OnShelf base session.story u s.stage)
    (ho : u.closed = false) (hp : u.peek = .ok true) :
    ∃ t, (advance (engine setup) id).on s =
      ((Story.continueLine.on u).1.map fun told =>
        { story := session.story
          before := r.watches.map fun w => (w.name, u.shown w.name)
          told }, t) ∧
      Focus id s.sessions (OnShelf base session.story (Story.continueLine.on u).2) r t := by
  have hcan : ((engine setup).canContinue session.story).on s.stage =
      (.ok true, { s.stage with engine := { opened := base.set session.story u } }) := by
    refine (inStory_on Story.canContinue hn hx).trans ?_
    rw [Story.canContinue_on ho, hp]
  have hfocus : Focus id s.sessions (OnShelf base session.story u) r
      { s with stage := { s.stage with engine := { opened := base.set session.story u } } } :=
    ⟨h, rfl, rfl⟩
  obtain ⟨values, t, ht, hnames, hvalues, hread⟩ := readVariables_focus
    (reads_shelf setup hn ho) (r.watches.map (·.name)) hfocus
  have hbefore : values = r.watches.map fun w => (w.name, u.shown w.name) := by
    rw [values_eq hvalues, hnames, List.map_map]
    rfl
  have hline : ((engine setup).continueLine session.story).on t.stage =
      ((Story.continueLine.on u).1, { t.stage with engine :=
        { opened := base.set session.story (Story.continueLine.on u).2 } }) :=
    inStory_on Story.continueLine hn hread.stage
  refine ⟨{ t with stage := { t.stage with engine :=
    { opened := base.set session.story (Story.continueLine.on u).2 } } }, ?_,
    hread.record, hread.sessions, rfl⟩
  rw [advance, Act.on_bind_of_ok (session_on hlive), Act.on_bind_of_ok (record_on h), Act.on_bind,
    Server.onStage, Act.on_within, hcan]
  simp only [Bool.not_true, Bool.false_eq_true, if_false]
  rw [Act.on_bind_of_ok ht, Act.on_bind, Server.onStage, Act.on_within, hline, hbefore]
  cases (Story.continueLine.on u).1 <;> rfl

/-- What was seen begins what there is to be seen. -/
theorem sights_eq {seen : List Change} {rest : List (String × Json)}
    (hb : (names.map fun name => (name, u.shown name)) =
      (seen.map fun x => (x.name, x.old)) ++ rest)
    (hnew : ∀ x ∈ seen, x.new = v.shown x.name) :
    sights names u v = seen ++ rest.map fun p => ⟨p.1, p.2, v.shown p.1⟩ := by
  have hsights : sights names u v = (names.map fun name => (name, u.shown name)).map
      fun p => ⟨p.1, p.2, v.shown p.1⟩ := by
    rw [List.map_map]
    rfl
  have hseen : ((seen.map fun x => (x.name, x.old)).map fun p : String × Json =>
      (⟨p.1, p.2, v.shown p.1⟩ : Change)) = seen := by
    rw [List.map_map]
    refine (List.map_congr_left fun x hx => ?_).trans (List.map_id seen)
    rw [Function.comp, ← hnew x hx]
    rfl
  rw [hsights, hb, List.map_append, hseen]

/-- What an outcome says of the story. -/
def StepOutcome.told (o : StepOutcome) : Continuation :=
  { text := o.text, canContinue := o.canContinue, choices := o.choices, tags := o.tags }

/-- The line of a step, with the watched variables before it. -/
def passage (session : Session) (u : Story) (r : Record) (c : Continuation) : Passage :=
  { story := session.story, before := r.watches.map fun w => (w.name, u.shown w.name), told := c }

/-- Once the line is told, a step leaves the story after it, and answers if the line is judged. -/
theorem step_judged (h : Telling id session base breakpoints names u s)
    (hr : s.recordOf id = some r) (hp : u.peek = .ok true) {c : Continuation}
    (hl : Story.continueLine.on u = (.ok c, v)) :
    ∃ judged seen t, Judged r (passage session u r c) seen judged ∧
      (∀ x ∈ seen, x.new = v.shown x.name) ∧
      (step (engine setup) id).on s =
        (judged.map fun w => w.outcome c (r.paused || w.hit.isSome), t) ∧
      Telling id session base breakpoints names v t := by
  obtain ⟨r', hr', rfl, rfl⟩ := h.record
  obtain rfl : r = r' := Option.some.inj (hr.symm.trans hr')
  have hopen : v.closed = false := by
    have hfixed := Story.continueLine_fixed u
    rw [hl] at hfixed
    exact (Story.closed_of_fixed hfixed).trans h.isOpen
  obtain ⟨t, ha, hfocus⟩ := advance_shelf setup hr h.live h.place h.shelf h.isOpen hp
  rw [hl] at ha hfocus
  have hadvance : (advance (engine setup) id).on s = (.ok (passage session u r c), t) := ha
  have hreads := reads_shelf setup h.place hopen
  obtain ⟨judged, seen, w, hw, hjudged, hnew, hlook⟩ :=
    judge_focus (p := passage session u r c) hfocus hreads
  cases judged with
  | error f =>
      refine ⟨.error f, seen, w, hjudged, hnew, ?_, hlook.sessions ▸ h.live, h.place, hlook.stage,
        hopen, _, hlook.record, rfl, Record.look_names _ seen⟩
      rw [step, Act.on_bind_of_ok hadvance, Act.on_bind_of_error hw]
      rfl
  | ok verdict =>
      obtain ⟨line, hline⟩ := (Story.continueLine_told hl).text
      have hcut : beginning traceTextLimit c.text = .ok (.str (Text.first traceTextLimit line)) := by
        rw [hline]
        rfl
      obtain ⟨time, x, hx, hlast⟩ := conclude_ok (v := verdict) hlook hreads hcut
      refine ⟨.ok verdict, seen, x, hjudged, hnew, ?_, hlast.sessions ▸ h.live, h.place,
        hlast.stage, hopen, _, hlast.record, rfl, Record.look_names _ seen⟩
      rw [step, Act.on_bind_of_ok hadvance, Act.on_bind_of_ok hw]
      exact hx

/-- While nothing fails, a step tells the next line. -/
theorem step_line (h : Telling id session base breakpoints names u s) (hp : u.peek = .ok true)
    {c : Continuation} (hl : Story.continueLine.on u = (.ok c, v))
    (hq : Quiet names breakpoints u c v) :
    ∃ o t, (step (engine setup) id).on s = (.ok o, t) ∧ o.told = c ∧
      Telling id session base breakpoints names v t := by
  obtain ⟨r, hr, rfl, rfl⟩ := h.record
  obtain ⟨judged, seen, t, hjudged, hnew, hstep, htelling⟩ := step_judged setup h hr hp hl
  have hbefore : (r.watches.map (·.name)).map (fun name => (name, u.shown name)) =
      (passage session u r c).before := by
    rw [List.map_map]
    rfl
  obtain ⟨changes, hit, hc, hf⟩ := hq
  cases hjudged with
  | uncompared hseen hfail =>
      rw [sights_eq (hbefore.trans hseen) hnew, changesAmong_append_error hfail] at hc
      cases hc
  | untested hseen hchanges hfail =>
      rw [sights_eq (hbefore.trans (hseen.trans (List.append_nil _).symm)) hnew, List.map_nil,
        List.append_nil, hchanges] at hc
      obtain rfl := Except.ok.inj hc
      cases hfail.symm.trans hf
  | judged hseen hchanges htest => exact ⟨_, t, hstep, rfl, htelling⟩

/-- Where the next line fails, the step fails as it does. -/
theorem step_fault (h : Telling id session base breakpoints names u s) (hp : u.peek = .ok true)
    {f : Fault} (hl : Story.continueLine.on u = (.error f, v)) :
    ∃ t, (step (engine setup) id).on s = (.error f, t) ∧ OnShelf base session.story v t.stage := by
  obtain ⟨r, hr, -, -⟩ := h.record
  obtain ⟨t, ha, hfocus⟩ := advance_shelf setup hr h.live h.place h.shelf h.isOpen hp
  rw [hl] at ha hfocus
  exact ⟨t, (step_untold ha).1, hfocus.stage⟩

end Telling

end Debug

end StoryServer
