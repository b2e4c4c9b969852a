import StoryServer.Proofs.Debug.Account
import StoryServer.Proofs.Tool.Likeness

/-!
# Where breakpoints and watches come from

A breakpoint in a record was there before or was issued, and a watch was there before or was
set; so it is along every run of what can happen to a record (`Runs.breakpoint`,
`Runs.watch`).

A request about debugging that neither starts nor ends it is a command.  It issues a
breakpoint or sets a watch only when it asks for it, and makes no record where there is none
(`answer_record`).
-/

namespace StoryServer

namespace Debug

/-- Whether two breakpoints are the same, but perhaps for being looked at. -/
def Breakpoint.Same (a b : Breakpoint) : Prop :=
  a.number = b.number ∧ a.type = b.type ∧ a.target = b.target

/-- Whether a breakpoint is issued or a watch is set. -/
def Event.adds : Event → Bool
  | .issued _ | .watched _ => true
  | _ => false

section Happening

variable {T : Continuation → Prop} {r r' : Record} {e E : List Event}

theorem Recorded.breakpoints {p : Passage} {seen : List Change} {res : Except Fault StepOutcome}
    {x : Event} (h : Recorded r p seen res x r') : r'.breakpoints = r.breakpoints := by
  cases h <;> rfl

theorem Recorded.watches {p : Passage} {seen : List Change} {res : Except Fault StepOutcome}
    {x : Event} (h : Recorded r p seen res x r') :
    r'.watches.map (·.name) = r.watches.map (·.name) := by
  cases h <;> exact Record.look_names _ seen

theorem Happens.breakpoint (h : Happens T r e r') {b : Breakpoint} (hb : b ∈ r'.breakpoints) :
    (∃ a ∈ r.breakpoints, a.Same b) ∨ ∃ a, .issued a ∈ e ∧ a.Same b := by
  cases h with
  | nothing | watched | unwatched | resumed => exact .inl ⟨b, hb, rfl, rfl, rfl⟩
  | issued type target =>
      rcases List.mem_append.mp hb with hb | hb
      · exact .inl ⟨b, hb, rfl, rfl, rfl⟩
      · obtain rfl := List.mem_singleton.mp hb
        exact .inr ⟨_, List.mem_singleton_self _, rfl, rfl, rfl⟩
  | removed keep => exact .inl ⟨b, (List.mem_filter.mp hb).1, rfl, rfl, rfl⟩
  | enabled breakpoint enabled =>
      obtain ⟨a, ha, rfl⟩ := List.mem_map.mp hb
      refine .inl ⟨a, ha, ?_⟩
      split <;> exact ⟨rfl, rfl, rfl⟩
  | told hT hbefore hrecorded =>
      rw [hrecorded.breakpoints] at hb
      exact .inl ⟨b, hb, rfl, rfl, rfl⟩

/-- A breakpoint was there at the beginning or was issued. -/
theorem Runs.breakpoint (h : Runs T r E r') : ∀ {b : Breakpoint}, b ∈ r'.breakpoints →
    (∃ a ∈ r.breakpoints, a.Same b) ∨ ∃ a, .issued a ∈ E ∧ a.Same b := by
  induction h with
  | refl => exact fun hb => .inl ⟨_, hb, rfl, rfl, rfl⟩
  | more _ hlast ih =>
      intro b hb
      rcases hlast.breakpoint hb with ⟨a, ha, hab⟩ | ⟨a, ha, hab⟩
      · obtain ⟨hn, ht, hg⟩ := hab
        rcases ih ha with ⟨c, hc, hca⟩ | ⟨c, hc, hca⟩
        · exact .inl ⟨c, hc, hca.1.trans hn, hca.2.1.trans ht, hca.2.2.trans hg⟩
        · exact .inr ⟨c, List.mem_append_left _ hc, hca.1.trans hn, hca.2.1.trans ht,
            hca.2.2.trans hg⟩
      · exact .inr ⟨a, List.mem_append_right _ ha, hab⟩

theorem mem_of_putWatch {w v : Watch} : ∀ {ws : List Watch},
    v ∈ Record.putWatch w ws → v = w ∨ v ∈ ws
  | [], hv => .inl (List.mem_singleton.mp hv)
  | u :: rest, hv => by
      rw [Record.putWatch] at hv
      split at hv
      · rcases List.mem_cons.mp hv with rfl | hv
        · exact .inl rfl
        · exact .inr (List.mem_cons_of_mem _ hv)
      · rcases List.mem_cons.mp hv with rfl | hv
        · exact .inr List.mem_cons_self
        · exact (mem_of_putWatch hv).imp_right (List.mem_cons_of_mem _)

theorem Happens.watch (h : Happens T r e r') {name : String}
    (hw : name ∈ r'.watches.map (·.name)) :
    name ∈ r.watches.map (·.name) ∨ .watched name ∈ e := by
  cases h with
  | nothing | issued | removed | enabled | resumed => exact .inl hw
  | watched changed last =>
      obtain ⟨w, hmem, rfl⟩ := List.mem_map.mp hw
      rcases mem_of_putWatch hmem with rfl | hmem
      · exact .inr (List.mem_singleton_self _)
      · exact .inl (List.mem_map_of_mem hmem)
  | unwatched dropped =>
      obtain ⟨w, hmem, rfl⟩ := List.mem_map.mp hw
      exact .inl (List.mem_map_of_mem (List.mem_filter.mp hmem).1)
  | told hT hbefore hrecorded =>
      rw [hrecorded.watches] at hw
      exact .inl hw

/-- A variable was watched at the beginning or a watch was set on it. -/
theorem Runs.watch (h : Runs T r E r') {name : String} :
    name ∈ r'.watches.map (·.name) → name ∈ r.watches.map (·.name) ∨ .watched name ∈ E := by
  induction h with
  | refl => exact .inl
  | more _ hlast ih =>
      intro hw
      rcases hlast.watch hw with hw | hw
      · exact (ih hw).imp_right (List.mem_append_left _)
      · exact .inr (List.mem_append_right _ hw)

end Happening

/-! ## Steps -/

section Steps

variable {ε : Type} (engine : StoryEngine ε) (id : String)

theorem stepEvents_adds (s : Server ε) : ∀ e ∈ stepEvents engine id s, e.adds = false := by
  intro e he
  rw [stepEvents] at he
  split at he
  · cases he
  · split at he
    · obtain rfl := List.mem_singleton.mp he
      rfl
    · split at he
      · obtain rfl := List.mem_singleton.mp he
        rfl
      · obtain rfl := List.mem_singleton.mp he
        rfl

theorem begunEvents_adds_of {n : Nat} (hrest : ∀ (last : StepOutcome) (s : Server ε),
    ∀ e ∈ stepsEvents engine id n last s, e.adds = false) (s : Server ε) :
    ∀ e ∈ begunEvents engine id n s, e.adds = false := by
  intro e he
  rcases List.mem_append.mp he with he | he
  · exact stepEvents_adds engine id s e he
  · split at he
    · cases he
    · exact hrest _ _ e he

theorem stepsEvents_adds (n : Nat) : ∀ (last : StepOutcome) (s : Server ε),
    ∀ e ∈ stepsEvents engine id n last s, e.adds = false := by
  induction n with
  | zero => exact fun _ _ e he => nomatch he
  | succ n ih =>
      intro last s e he
      rw [stepsEvents_succ] at he
      split at he
      · cases he
      · exact begunEvents_adds_of engine id ih s e he

theorem continueEvents_adds (most : Int) (s : Server ε) :
    ∀ e ∈ continueEvents engine id most s, e.adds = false := by
  intro e he
  rw [continueEvents] at he
  split at he
  · cases he
  · rcases List.mem_append.mp he with he | he
    · obtain rfl := List.mem_singleton.mp he
      rfl
    · split at he
      · cases he
      · exact begunEvents_adds_of engine id (stepsEvents_adds engine id _) _ e he

end Steps

/-! ## Sessions that are not debugged -/

section Unrecorded

variable {ε α : Type} {engine : StoryEngine ε} {id : String} {s : Server ε}

/-- What needs a live session and its record fails without the record. -/
theorem unrecorded_bind (h : s.recordOf id = none) (next : Session → Record → Act (Server ε) α) :
    ∃ f, (do next (← Server.session id) (← Server.record id)).on s = (.error f, s) := by
  cases hs : s.sessions.find? (·.id == id) with
  | none => exact ⟨_, Act.on_bind_of_error (session_none hs)⟩
  | some session =>
      refine ⟨.noDebugSession id, ?_⟩
      rw [Act.on_bind_of_ok (session_on hs), Act.on_bind_of_error (record_none h)]

/-- A command makes no record. -/
theorem Command.unrecorded (c : Command ε id) (h : s.recordOf id = none) :
    ((c.act engine).on s).2.recordOf id = none := by
  have hfailed : ∀ {β : Type} {act : Act (Server ε) β}, (∃ f, act.on s = (.error f, s)) →
      (act.on s).2.recordOf id = none := by
    rintro β act ⟨f, hf⟩
    rwa [hf]
  cases c with
  | addBreakpoint type target =>
      rw [Command.act, on_drop, Debug.addBreakpoint]
      cases BreakpointType.ofName? type with
      | none => exact h
      | some t =>
          dsimp only
          split
          · exact h
          · exact hfailed (unrecorded_bind h _)
  | removeBreakpoint breakpoint =>
      rw [Command.act, on_drop]
      exact hfailed (unrecorded_bind h _)
  | enable breakpoint enabled => exact hfailed ⟨_, Act.on_bind_of_error (record_none h)⟩
  | breakpoints =>
      rw [Command.act, on_drop]
      exact hfailed ⟨_, Act.on_bind_of_error (record_none h)⟩
  | addWatch name =>
      rw [Command.act, on_drop]
      exact hfailed (unrecorded_bind h _)
  | removeWatch name =>
      rw [Command.act, on_drop]
      exact hfailed (unrecorded_bind h _)
  | step =>
      obtain ⟨f, hf⟩ : ∃ f, (advance engine id).on s = (.error f, s) := unrecorded_bind h _
      rw [Command.act, on_drop]
      exact hfailed ⟨f, Act.on_bind_of_error hf⟩
  | continueFor most =>
      obtain ⟨f, hf⟩ : ∃ f, (unpause id).on s = (.error f, s) := unrecorded_bind h _
      rw [Command.act, on_drop]
      exact hfailed ⟨f, Act.on_bind_of_error hf⟩
  | inspect =>
      rw [Command.act, on_drop]
      exact hfailed (unrecorded_bind h _)
  | trace n =>
      rw [Command.act, on_drop]
      exact hfailed ⟨_, Act.on_bind_of_error (record_none h)⟩
  | beside act keeps => exact (keeps s).trans h

end Unrecorded

/-! ## Requests -/

section Requests

variable {ε : Type} {engine : StoryEngine ε} {id : String} {s t : Server ε}

/-- An action whose answer is only looked at. -/
theorem on_bind_pure {α β : Type} (act : Act (Server ε) α) (view : α → β) :
    (do return view (← act) : Act (Server ε) β).on s = ((act.on s).1.map view, (act.on s).2) := by
  rw [Act.on_bind]
  generalize act.on s = run
  obtain ⟨res, u⟩ := run
  cases res <;> rfl

theorem addBreakpoint_issued {type target : String} {b : Breakpoint}
    (h : (addBreakpoint id type target).on s = (.ok b, t)) :
    BreakpointType.ofName? type = some b.type ∧ target = b.target := by
  rw [addBreakpoint] at h
  cases htype : BreakpointType.ofName? type with
  | none => rw [htype] at h; cases h
  | some bt =>
      rw [htype] at h
      dsimp only at h
      split at h
      · cases h
      · cases hs : s.sessions.find? (·.id == id) with
        | none => rw [Act.on_bind_of_error (session_none hs)] at h; cases h
        | some session =>
            rw [Act.on_bind_of_ok (session_on hs)] at h
            cases hr : s.recordOf id with
            | none => rw [Act.on_bind_of_error (record_none hr)] at h; cases h
            | some r =>
                rw [Act.on_bind_of_ok (record_on hr)] at h
                cases h
                exact ⟨rfl, rfl⟩

theorem addWatch_watched {name : String} {w : Watch}
    (h : (addWatch engine id name).on s = (.ok w, t)) : w.name = name := by
  rw [addWatch] at h
  cases hs : s.sessions.find? (·.id == id) with
  | none => rw [Act.on_bind_of_error (session_none hs)] at h; cases h
  | some session =>
      rw [Act.on_bind_of_ok (session_on hs)] at h
      cases hr : s.recordOf id with
      | none => rw [Act.on_bind_of_error (record_none hr)] at h; cases h
      | some r =>
          obtain ⟨v, u, hv, -⟩ :=
            readVariable_focus (focus_any hr) (reads_any engine session.story) name
          rw [Act.on_bind_of_ok (record_on hr), Act.on_bind_of_ok hv] at h
          cases h
          rfl

/-- What a request about debugging adds to a record. -/
structure Adds (id : String) (r : Request) (answer : Except Fault Json) (E : List Event) :
    Prop where
  issued (b : Breakpoint) : .issued b ∈ E → ∃ type, BreakpointType.ofName? type = some b.type ∧
    r = .addBreakpoint id type b.target ∧ answer = .ok b.toJson
  watched (name : String) : .watched name ∈ E → r = .addWatch id name ∧ ∃ v, answer = .ok v

theorem adds_of_quiet {r : Request} {answer : Except Fault Json} {E : List Event}
    (h : ∀ e ∈ E, e.adds = false) : Adds id r answer E where
  issued _ hb := nomatch h _ hb
  watched _ hw := nomatch h _ hw

/-- A request about debugging that neither starts nor ends it is a command. -/
theorem answer_command (box : Toolbox ε) {r : Request} (hd : r.debugs = true)
    (hid : r.session? = some id) (hstart : r ≠ .startDebug id) (hend : r ≠ .endDebug id)
    (s : Server ε) : ∃ c : Command ε id, ((box.answer r).on s).2 = ((c.act box.engine).on s).2 ∧
      Adds id r ((box.answer r).on s).1 (c.events box.engine s) := by
  have hquiet : ∀ {r : Request} {answer : Except Fault Json}, Adds id r answer [] :=
    adds_of_quiet fun e he => nomatch he
  cases r with
  | startDebug a =>
      obtain rfl := Option.some.inj hid
      exact absurd rfl hstart
  | endDebug a =>
      obtain rfl := Option.some.inj hid
      exact absurd rfl hend
  | addBreakpoint a type target =>
      obtain rfl := Option.some.inj hid
      refine ⟨.addBreakpoint type target, ?_, ?_⟩
      · rw [Toolbox.answer, on_bind_pure, Command.act, on_drop]
      · rw [Toolbox.answer, on_bind_pure, Command.events]
        cases h : (addBreakpoint a type target).on s with
        | mk res u =>
            cases res with
            | error f => exact hquiet
            | ok b =>
                obtain ⟨htype, rfl⟩ := addBreakpoint_issued h
                exact {
                  issued := fun c hc => by
                    obtain rfl : c = b := by simpa using hc
                    exact ⟨type, htype, rfl, rfl⟩
                  watched := fun name hname => by simp at hname }
  | removeBreakpoint a breakpoint =>
      obtain rfl := Option.some.inj hid
      exact ⟨.removeBreakpoint breakpoint, by rw [Toolbox.answer, on_bind_pure, Command.act, on_drop],
        hquiet⟩
  | listBreakpoints a =>
      obtain rfl := Option.some.inj hid
      exact ⟨.breakpoints, by rw [Toolbox.answer, on_bind_pure, Command.act, on_drop], hquiet⟩
  | debugStep a =>
      obtain rfl := Option.some.inj hid
      exact ⟨.step, by rw [Toolbox.answer, on_bind_pure, Command.act, on_drop],
        adds_of_quiet (stepEvents_adds _ _ _)⟩
  | debugContinue a most =>
      obtain rfl := Option.some.inj hid
      exact ⟨.continueFor most, by rw [Toolbox.answer, on_bind_pure, Command.act, on_drop],
        adds_of_quiet (continueEvents_adds _ _ _ _)⟩
  | addWatch a name =>
      obtain rfl := Option.some.inj hid
      refine ⟨.addWatch name, by rw [Toolbox.answer, on_bind_pure, Command.act, on_drop], ?_⟩
      rw [Toolbox.answer, on_bind_pure, Command.events]
      cases h : (addWatch box.engine a name).on s with
      | mk res u =>
          cases res with
          | error f => exact hquiet
          | ok w =>
              obtain rfl := addWatch_watched h
              exact {
                issued := fun b hb => by simp at hb
                watched := fun other hother => by
                  obtain rfl : other = w.name := by simpa using hother
                  exact ⟨rfl, _, rfl⟩ }
  | removeWatch a name =>
      obtain rfl := Option.some.inj hid
      exact ⟨.removeWatch name, by rw [Toolbox.answer, on_bind_pure, Command.act, on_drop], hquiet⟩
  | debugInspect a =>
      obtain rfl := Option.some.inj hid
      exact ⟨.inspect, by rw [Toolbox.answer, Command.act, on_drop], hquiet⟩
  | debugTrace a n =>
      obtain rfl := Option.some.inj hid
      exact ⟨.trace n, by rw [Toolbox.answer, on_bind_pure, Command.act, on_drop], hquiet⟩
  | _ => cases hd

/-- The breakpoints and watches of a record were there before, or the request added them. -/
theorem answer_record (box : Toolbox ε) {r : Request} (hd : r.debugs = true)
    (hid : r.session? = some id) (hstart : r ≠ .startDebug id) (hend : r ≠ .endDebug id)
    {q' : Record} (h : ((box.answer r).on s).2.recordOf id = some q') :
    ∃ q E, s.recordOf id = some q ∧ Adds id r ((box.answer r).on s).1 E ∧
      (∀ b ∈ q'.breakpoints, (∃ a ∈ q.breakpoints, a.Same b) ∨ ∃ a, .issued a ∈ E ∧ a.Same b) ∧
      ∀ name ∈ q'.watches.map (·.name), name ∈ q.watches.map (·.name) ∨ .watched name ∈ E := by
  obtain ⟨c, hstate, hadds⟩ := answer_command box hd hid hstart hend s
  rw [hstate] at h
  cases hq : s.recordOf id with
  | none =>
      rw [c.unrecorded hq] at h
      cases h
  | some q =>
      obtain ⟨q'', hq'', hruns⟩ := c.runs (tells_any box.engine) hq
      obtain rfl : q' = q'' := Option.some.inj (h.symm.trans hq'')
      exact ⟨q, _, rfl, hadds, fun b hb => hruns.breakpoint hb, fun name hname => hruns.watch hname⟩

end Requests

end Debug

end StoryServer
