import StoryServer.Proofs.Debug.Lineage

/-!
# The debug record of a story that has ended

Ending a session leaves its debug record.  What is left can be read and can be dropped, and
nothing else: every request that works on the story or on the record takes the story first,
which is not there any more.

*One call.*  A call leaves what remains as it is, unless it ends the debug session or opens a
story under the id (`Remains.after`).  It need not be a call about this session: a request of
another session does not touch the record, and a start drops the record under its own id only.

*Runs.*  `record_after_end` says what is answered after any such calls.
-/

namespace StoryServer

open Server Registry

/-- Whether a request about debugging is one for a live story, and well formed. -/
def Request.needsStory : Request → Bool
  | .startDebug _ | .removeBreakpoint .. | .debugStep _ | .debugContinue .. | .addWatch ..
  | .removeWatch .. | .debugInspect _ => true
  | .addBreakpoint _ type target =>
    (Debug.BreakpointType.ofName? type).isSome && !target.isEmpty
  | _ => false

/-- A session has ended, and its debug record is there. -/
structure Server.Remains (id : String) (q : Debug.Record) (s : Server Ink.Shelf) : Prop where
  absent : s.sessions.find? (·.id == id) = none
  record : s.recordOf id = some q

/-- A story is opened under the id, whether or not it can be played then. -/
def Exchange.Opens (setup : Ink.Setup) (traceLimit : Option Int) (author : Option Author.Settings)
    (id : String) (e : Exchange) : Prop :=
  ∃ r o u story,
    (Ink.toolbox setup traceLimit author).requested e.call.name e.call.arguments = some r ∧
    Comes setup traceLimit author e.server r o u ∧ o.begun = .ok story ∧ Chosen o.id u id

/-- A call whose request fails leaves what the request leaves, and a line in the log. -/
theorem Toolbox.after_error {ε : Type} {box : Toolbox ε} {c : ToolCall} {tool : Tool} {r : Request}
    {s t : Server ε} {f : Fault} (htool : box.find? c.name = some tool)
    (hread : Request.ofJson (argumentsOf c.arguments) tool = .ok r)
    (h : (box.answer r).on s = (.error f, t)) (hends : f ≠ .endless) :
    ∃ line, box.after c s = ((Server.note line).on t).2 := by
  have hperform : (box.perform tool c.arguments).on s = (.error f, t) := by
    rw [box.perform_read hread, h]
    rfl
  have hcaught : (Act.caught (box.perform tool c.arguments)).on s = (.ok (.error f), t) := by
    rw [Act.on_caught_of_ends, hperform]
    rw [hperform]
    simpa using hends
  rw [after, call, htool]
  dsimp only
  rw [Act.on_bind_of_ok hcaught]
  exact ⟨_, rfl⟩

section Remains

variable (setup : Ink.Setup) (traceLimit : Option Int) (author : Option Author.Settings)
variable {s : Server Ink.Shelf} {id : String} {q : Debug.Record} {r : Request} {c : ToolCall}

/-! ## Requests -/

/-- A request for a live story is refused, and does nothing. -/
theorem Server.Remains.refuses (h : s.Remains id q) (hid : r.session? = some id)
    (hr : r.needsStory = true) :
    ((Ink.toolbox setup traceLimit author).answer r).on s = (.error (.noSession id), s) := by
  have hnone := Debug.session_none h.absent
  cases r with
  | addBreakpoint a type target =>
      obtain rfl := Option.some.inj hid
      rw [Request.needsStory, Bool.and_eq_true] at hr
      obtain ⟨kind, hkind⟩ := Option.isSome_iff_exists.mp hr.1
      have htarget : target.isEmpty = false := by simpa using hr.2
      refine Act.on_bind_of_error ?_
      rw [Debug.addBreakpoint, hkind]
      simp only [htarget, Bool.false_eq_true, if_false]
      exact Act.on_bind_of_error hnone
  | startDebug a =>
      obtain rfl := Option.some.inj hid
      exact Act.on_bind_of_error hnone
  | removeBreakpoint a breakpoint =>
      obtain rfl := Option.some.inj hid
      exact Act.on_bind_of_error (Act.on_bind_of_error hnone)
  | debugStep a =>
      obtain rfl := Option.some.inj hid
      exact Act.on_bind_of_error (Act.on_bind_of_error (Act.on_bind_of_error hnone))
  | debugContinue a most =>
      obtain rfl := Option.some.inj hid
      exact Act.on_bind_of_error (Act.on_bind_of_error (Act.on_bind_of_error hnone))
  | addWatch a name =>
      obtain rfl := Option.some.inj hid
      exact Act.on_bind_of_error (Act.on_bind_of_error hnone)
  | removeWatch a name =>
      obtain rfl := Option.some.inj hid
      exact Act.on_bind_of_error (Act.on_bind_of_error hnone)
  | debugInspect a =>
      obtain rfl := Option.some.inj hid
      exact Act.on_bind_of_error hnone
  | _ => cases hr

theorem Server.Remains.trace (h : s.Remains id q) (n : Int) :
    ((Ink.toolbox setup traceLimit author).answer (.debugTrace id n)).on s =
      (.ok (.obj [("trace", .arr ((q.latest n).map Debug.Visit.toJson))]), s) := by
  have htrace : (Debug.trace id n).on s = (.ok (.arr ((q.latest n).map Debug.Visit.toJson)), s) :=
    Act.on_bind_of_ok (Debug.record_on h.record)
  exact Act.on_bind_of_ok htrace

theorem Server.Remains.breakpoints (h : s.Remains id q) :
    ((Ink.toolbox setup traceLimit author).answer (.listBreakpoints id)).on s =
      (.ok (.obj [("breakpoints", .arr (q.breakpoints.map Debug.Breakpoint.toJson))]), s) := by
  have hlist : (Debug.breakpoints id).on s = (.ok q.breakpoints, s) :=
    Act.on_bind_of_ok (Debug.record_on h.record)
  exact Act.on_bind_of_ok hlist

/-- A breakpoint of no type or without a target is refused before anything is looked at. -/
theorem addBreakpoint_malformed {type target : String}
    (h : (Request.addBreakpoint id type target).needsStory = false) (s : Server Ink.Shelf) :
    ∃ f, ((Ink.toolbox setup traceLimit author).answer (.addBreakpoint id type target)).on s =
      (.error f, s) := by
  rw [Request.needsStory] at h
  suffices hadd : ∃ f, (Debug.addBreakpoint id type target).on s = (.error f, s) by
    obtain ⟨f, hf⟩ := hadd
    exact ⟨f, Act.on_bind_of_error hf⟩
  rw [Debug.addBreakpoint]
  cases hkind : Debug.BreakpointType.ofName? type with
  | none => exact ⟨_, rfl⟩
  | some kind =>
      rw [hkind] at h
      have htarget : target.isEmpty = true := by simpa using h
      simp only [htarget, if_true]
      exact ⟨_, rfl⟩

/-- Short of ending the debug session, a request about debugging does nothing. -/
theorem Server.Remains.debugging (h : s.Remains id q) (hid : r.session? = some id)
    (hd : r.debugs = true) (hend : r ≠ .endDebug id) :
    (((Ink.toolbox setup traceLimit author).answer r).on s).2 = s := by
  cases hneeds : r.needsStory with
  | true => rw [h.refuses setup traceLimit author hid hneeds]
  | false =>
      cases r with
      | addBreakpoint a type target =>
          obtain ⟨f, hf⟩ := addBreakpoint_malformed setup traceLimit author hneeds s
          rw [hf]
      | listBreakpoints a =>
          obtain rfl := Option.some.inj hid
          rw [h.breakpoints]
      | debugTrace a n =>
          obtain rfl := Option.some.inj hid
          rw [h.trace]
      | endDebug a =>
          obtain rfl := Option.some.inj hid
          exact absurd rfl hend
      | startDebug | removeBreakpoint | debugStep | debugContinue | addWatch | removeWatch
      | debugInspect => cases hneeds
      | _ => cases hd

/-! ## Calls -/

/-- A start that succeeds opens its story. -/
theorem Exchange.Starts.opens (hs : s.Orderly)
    (h : (⟨c, s⟩ : Exchange).Starts (Ink.toolbox setup traceLimit author) id) :
    (⟨c, s⟩ : Exchange).Opens setup traceLimit author id := by
  obtain ⟨r, v, hanswered, hstarts, hid⟩ := h
  obtain ⟨-, hv⟩ := (Exchange.answered_iff hanswered.1).mp hanswered
  rcases comes_or_apart setup traceLimit author hstarts s with ⟨o, u, hcomes⟩ | ⟨-, hnone⟩
  · obtain ⟨source, res, hstarted, hanswers⟩ := hcomes.started hs
    rw [hv] at hanswers
    generalize (((Ink.toolbox setup traceLimit author).answer r).on s).2.tables = T at hstarted
    cases hstarted with
    | unopened | unplayed => exact hanswers.elim
    | @played story told name k hb hname hp =>
        have hnamed : v.get? "session_id" = some (.str name) := hanswers
        obtain rfl : name = id := by simpa using hnamed.symm.trans hid
        exact ⟨r, o, u, story, hanswered.1, hcomes, hb, hname⟩
  · rw [hnone v hv] at hid
    cases hid

/-- A call that should start a story drops no record but the one under the id of the story. -/
theorem recordOf_start (hs : s.Orderly)
    (hr : (Ink.toolbox setup traceLimit author).requested c.name c.arguments = some r)
    (hstarts : r.starts = true)
    (hopens : ¬ (⟨c, s⟩ : Exchange).Opens setup traceLimit author id) :
    ((Ink.toolbox setup traceLimit author).after c s).recordOf id = s.recordOf id := by
  have htables := Toolbox.after_tables (Ink.toolbox setup traceLimit author) c s
  rw [hr] at htables
  dsimp only at htables
  have hrecord {T : Tables} (hT : ((Ink.toolbox setup traceLimit author).after c s).tables = T) :
      ((Ink.toolbox setup traceLimit author).after c s).recordOf id =
        T.records.find? (·.session == id) :=
    congrArg (fun T => T.records.find? (·.session == id)) hT
  rcases comes_or_apart setup traceLimit author hstarts s with ⟨o, u, hcomes⟩ | ⟨hsame, -⟩
  · obtain ⟨source, res, hstarted, -⟩ := hcomes.started hs
    rw [← htables] at hstarted
    have hrecords : u.records = s.records := congrArg Tables.records hcomes.tables
    have hother : ∀ {story : Ink.Story} {name : String}, o.begun = .ok story → Chosen o.id u name →
        id ≠ name := by
      rintro story name hb hname rfl
      exact hopens ⟨r, o, u, story, hr, hcomes, hb, hname⟩
    have hkept : u.records.find? (·.session == id) = s.recordOf id := by rw [hrecords, recordOf]
    rw [← hkept]
    generalize hT : ((Ink.toolbox setup traceLimit author).after c s).tables = T at hstarted
    cases hstarted with
    | unopened hb => exact hrecord hT
    | unplayed hb hname hp =>
        exact (hrecord hT).trans (find?_recordsAfter traceLimit (hother hb hname) _)
    | played hb hname hp =>
        exact (hrecord hT).trans (find?_recordsAfter traceLimit (hother hb hname) _)
  · exact hrecord (htables.trans hsame)

/-- A session that is ended leaves its record. -/
theorem Server.Remains.ended (hs : s.Orderly) (hq : s.recordOf id = some q) {v : Json}
    (h : (⟨c, s⟩ : Exchange).Answered (Ink.toolbox setup traceLimit author) (.endSession id) v) :
    ((Ink.toolbox setup traceLimit author).after c s).Remains id q := by
  obtain ⟨t, ht, hended⟩ := endSession_tables setup id fun session hsession =>
    hs.shelved session (List.mem_of_find?_eq_some hsession)
  have htables := Toolbox.after_tables (Ink.toolbox setup traceLimit author) c s
  rw [h.1] at htables
  have hrun : (((Ink.toolbox setup traceLimit author).answer (.endSession id)).on s).2 = t := by
    rw [Toolbox.answer, Debug.on_bind_pure]
    exact congrArg Prod.snd ht
  dsimp only at htables
  rw [hrun, hended] at htables
  have hrecord := congrArg (fun T => T.records.find? (·.session == id)) htables
  have habsent := congrArg (fun T => T.sessions.find? (·.id == id)) htables
  exact ⟨habsent.trans (find?_without_self id _), hrecord.trans hq⟩

/-- A call that ends no debug session under the id and opens no story under it leaves what
remains as it is. -/
theorem Server.Remains.after (h : s.Remains id q) (hs : s.Orderly)
    (hends : ¬ (⟨c, s⟩ : Exchange).EndsDebug (Ink.toolbox setup traceLimit author) id)
    (hopens : ¬ (⟨c, s⟩ : Exchange).Opens setup traceLimit author id) :
    ((Ink.toolbox setup traceLimit author).after c s).Remains id q where
  absent := by
    rw [List.find?_eq_none]
    intro x hx hid
    obtain rfl : x.id = id := by simpa using hid
    rcases session_descends setup traceLimit author hs hx with hnew | ⟨-, y, hy, hsame, -⟩
    · exact hopens (hnew.1.opens setup traceLimit author hs)
    · exact absurd hsame (by simpa using List.find?_eq_none.mp h.absent y hy)
  record := by
    have htables := Toolbox.after_tables (Ink.toolbox setup traceLimit author) c s
    rw [← h.record]
    cases hr : (Ink.toolbox setup traceLimit author).requested c.name c.arguments with
    | none =>
        rw [hr] at htables
        exact congrArg (fun T => T.records.find? (·.session == id)) htables
    | some r =>
        rw [hr] at htables
        have hrecord : ((Ink.toolbox setup traceLimit author).after c s).recordOf id =
            (((Ink.toolbox setup traceLimit author).answer r).on s).2.recordOf id :=
          congrArg (fun T => T.records.find? (·.session == id)) htables
        cases hstarts : r.starts with
        | true => exact recordOf_start setup traceLimit author hs hr hstarts hopens
        | false =>
            rw [hrecord]
            cases hd : r.debugs with
            | false => exact answer_keeps_records setup traceLimit author hstarts hd id s
            | true =>
                obtain ⟨a, ha⟩ : ∃ a, r.session? = some a := by
                  cases r <;> first | exact ⟨_, rfl⟩ | cases hd
                have haside : r.isAside = true := by cases r <;> first | rfl | cases hd
                by_cases hid : id = a
                · subst hid
                  by_cases hend : r = .endDebug id
                  · subst hend
                    obtain ⟨b, t, ht, -⟩ := Debug.stop_tables id s
                    exact absurd ⟨_, (Exchange.answered_iff hr).mpr
                      ⟨rfl, congrArg Prod.fst (Act.on_bind_of_ok ht)⟩⟩ hends
                  · rw [h.debugging setup traceLimit author ha hd hend]
                · exact Toolbox.answer_beside_record setup traceLimit author hs hid ha haside

/-! ## Runs -/

variable {setup traceLimit author} in
/-- So do any number of such calls. -/
theorem Server.Remains.serve : ∀ (calls : List ToolCall) {s : Server Ink.Shelf},
    s.Remains id q → s.Orderly →
    (∀ e ∈ (Ink.toolbox setup traceLimit author).trail calls s,
      ¬ e.EndsDebug (Ink.toolbox setup traceLimit author) id ∧
      ¬ e.Opens setup traceLimit author id) →
    ((Ink.toolbox setup traceLimit author).serve calls s).Remains id q
  | [], _, h, _, _ => h
  | c :: rest, s, h, hs, hcalls => by
      obtain ⟨hends, hopens⟩ := hcalls ⟨c, s⟩ List.mem_cons_self
      exact serve rest (h.after setup traceLimit author hs hends hopens)
        (hs.after setup traceLimit author c) fun e he => hcalls e (List.mem_cons_of_mem _ he)

theorem Comes.starts {u : Server Ink.Shelf} {o : Outset}
    (h : Comes setup traceLimit author s r o u) : r.starts = true := by
  cases h <;> rfl

/-- Only a start opens a story. -/
theorem not_opens (hr : (Ink.toolbox setup traceLimit author).requested c.name c.arguments = some r)
    (hstarts : r.starts = false) :
    ¬ (⟨c, s⟩ : Exchange).Opens setup traceLimit author id := by
  rintro ⟨r', o, u, story, hr', hcomes, -⟩
  obtain rfl := Option.some.inj (hr.symm.trans hr')
  rw [hcomes.starts] at hstarts
  cases hstarts

/-- A call that does not name the session, and does not leave the choice of an id to the
server, neither ends its debug session nor opens a story under its id. -/
theorem spares_of_names
    (hnames : (Ink.toolbox setup traceLimit author).names id c = false)
    (hgiven : ∀ r, (Ink.toolbox setup traceLimit author).requested c.name c.arguments = some r →
      r.given = true) :
    ¬ (⟨c, s⟩ : Exchange).EndsDebug (Ink.toolbox setup traceLimit author) id ∧
      ¬ (⟨c, s⟩ : Exchange).Opens setup traceLimit author id := by
  have hother : ∀ {r : Request},
      (Ink.toolbox setup traceLimit author).requested c.name c.arguments = some r →
      r.target ≠ some id := by
    intro r hr ha
    rw [names_of_target hr ha] at hnames
    cases hnames
  have hchosen : ∀ {given : Option String} {u : Server Ink.Shelf}, (givenId given).isSome = true →
      Chosen given u id → given = some id := by
    intro given u hgiven hname
    obtain ⟨a, ha⟩ := Option.isSome_iff_exists.mp hgiven
    rw [Chosen, chooseId, ha] at hname
    exact (givenId_some ha).trans (congrArg some (Except.ok.inj hname))
  refine ⟨?_, ?_⟩
  · rintro ⟨v, hanswered⟩
    exact hother hanswered.1 rfl
  · rintro ⟨r, o, u, story, hr, hcomes, -, hname⟩
    have hgiven := hgiven r hr
    cases hcomes with
    | source source given => exact hother hr (hchosen hgiven hname)
    | compiled json given state => exact hother hr (hchosen hgiven hname)
    | generated => cases hgiven

/-- **The record of an ended story.**  A session that has a debug session is ended.  After any
calls none of which ends the debug session or opens a story under the id: the debug record is
the one that was there when the session was ended; the trace and the breakpoints are answered
from it; a request for the story is refused and leaves the server as it was, the log apart; no
request about debugging but the one that ends it does more than answer; and a call that names
another session leaves the record alone. -/
theorem record_after_end (s₀ : Server Ink.Shelf) (before : List ToolCall) (e : ToolCall)
    (rest : List ToolCall) (v : Json) :
    let box := Ink.toolbox setup traceLimit author
    let s := box.serve before s₀.bare
    let t := box.after e s
    let u := box.serve rest t
    let reply c := box.reply (fun _ v => v) c u
    s.recordOf id = some q →
    (⟨e, s⟩ : Exchange).Answered box (.endSession id) v →
    (∀ x ∈ box.trail rest t, ¬ x.EndsDebug box id ∧ ¬ x.Opens setup traceLimit author id) →
    u.recordOf id = some q ∧
    (∀ c n, box.requested c.name c.arguments = some (.debugTrace id n) →
      reply c = .answered (.ok (.obj [("trace", .arr ((q.latest n).map Debug.Visit.toJson))]))) ∧
    (∀ c, box.requested c.name c.arguments = some (.listBreakpoints id) → reply c = .answered
      (.ok (.obj [("breakpoints", .arr (q.breakpoints.map Debug.Breakpoint.toJson))]))) ∧
    (∀ c r, box.requested c.name c.arguments = some r → r.session? = some id →
      r.needsStory = true → reply c = .answered (.error (.noSession id)) ∧
        ∃ line, box.after c u = ((Server.note line).on u).2) ∧
    (∀ c r, box.requested c.name c.arguments = some r → r.session? = some id → r.debugs = true →
      r ≠ .endDebug id → (box.after c u).tables = u.tables) ∧
    ∀ c, box.names id c = false →
      (∀ r, box.requested c.name c.arguments = some r → r.given = true) →
      (box.after c u).recordOf id = some q := by
  intro box s t u reply hq hend hrest
  have hs : s.Orderly := s₀.orderly_bare.serve before
  have ht : t.Orderly := hs.after setup traceLimit author e
  have hu : u.Orderly := ht.serve rest
  have hremains : u.Remains id q :=
    (Server.Remains.ended setup traceLimit author hs hq hend).serve rest ht hrest
  have hanswer {c : ToolCall} {r : Request} {res : Except Fault Json} {t : Server Ink.Shelf}
      (hr : box.requested c.name c.arguments = some r) (h : (box.answer r).on u = (res, t)) :
      reply c = .answered res := by
    obtain ⟨tool, htool, hread⟩ := Toolbox.requested_tool hr
    obtain ⟨-, hreply, -⟩ := Toolbox.reply_made htool hread (fun _ v => v) u
    rw [h] at hreply
    refine hreply.trans ?_
    cases res <;> rfl
  refine ⟨hremains.record, fun c n hr => ?_, fun c hr => ?_, fun c r hr hid hneeds => ?_,
    fun c r hr hid hd hne => ?_, fun c hnames hgiven => ?_⟩
  · exact hanswer hr (hremains.trace setup traceLimit author n)
  · exact hanswer hr (hremains.breakpoints setup traceLimit author)
  · have hrefused := hremains.refuses setup traceLimit author hid hneeds
    obtain ⟨tool, htool, hread⟩ := Toolbox.requested_tool hr
    exact ⟨hanswer hr hrefused, Toolbox.after_error htool hread hrefused (by simp)⟩
  · have htables := Toolbox.after_tables box c u
    rw [hr] at htables
    exact htables.trans (congrArg tables (hremains.debugging setup traceLimit author hid hd hne))
  · obtain ⟨hends, hopens⟩ := spares_of_names (s := u) setup traceLimit author hnames hgiven
    exact (hremains.after setup traceLimit author hu hends hopens).record

/-- A story is stepped into a breakpoint and ended; then a step is refused, and another story
is started and debugged. -/
theorem record_after_end_stepped :
    let box := Ink.toolbox false (some 9) none
    let call (name id : String) (more : Fields) : ToolCall :=
      ⟨name, .obj (("session_id", .str id) :: more)⟩
    let source := ("source", Json.str "A\n* x -> k\n=== k\nB")
    let before := [call "start_story" "a" [source], call "start_debug" "a" [],
      call "add_breakpoint" "a" [("type", .str "pattern"), ("target", .str "B")],
      call "choose" "a" [("choice_index", .int 0), ("auto_continue", .bool false)],
      call "debug_step" "a" []]
    let s := box.serve before Ink.idle.bare
    let e := call "end_session" "a" []
    let rest := [call "debug_step" "a" [], call "start_story" "b" [source], call "start_debug" "b" []]
    let u := box.serve rest (box.after e s)
    let visit : Debug.Visit := { step := 1, text := .str "B\n", changed := [], time := 0 }
    let q : Debug.Record :=
      { session := "a", limit := 9, breakpoints := [⟨1, .pattern, "B", true⟩], trace := [visit]
        steps := 1, paused := true, lastOutput := .str "B\n", nextBreakpoint := 2 }
    let c := call "debug_trace" "a" [("last_n", .int 5)]
    s.recordOf "a" = some q ∧
    box.reply (fun _ v => v) c u = .answered (.ok (.obj [("trace", .arr [visit.toJson])])) := by
  intro box call source before s e rest u visit q c
  have hq : s.recordOf "a" = some q := by decide +kernel
  have hend : (⟨e, s⟩ : Exchange).Answered box (.endSession "a")
      (.obj [("ok", .bool true), ("session_id", .str "a"), ("ended", .bool true)]) :=
    ⟨by decide +kernel, by decide +kernel⟩
  have hrest : ∀ x ∈ box.trail rest (box.after e s),
      ¬ x.EndsDebug box "a" ∧ ¬ x.Opens false (some 9) none "a" := by
    have hother {c : ToolCall} {r : Request} (hnames : box.names "a" c = false)
        (hr : box.requested c.name c.arguments = some r) (hgiven : r.given = true)
        (s : Server Ink.Shelf) := spares_of_names (s := s) false (some 9) none hnames
      fun r' hr' => Option.some.inj (hr.symm.trans hr') ▸ hgiven
    intro x hx
    rcases List.mem_cons.mp hx with rfl | hx
    · have hstep : box.requested "debug_step" (.obj [("session_id", .str "a")]) =
          some (.debugStep "a") := by decide +kernel
      refine ⟨?_, not_opens false (some 9) none hstep rfl⟩
      rintro ⟨v, hanswered⟩
      cases hstep.symm.trans hanswered.1
    · rcases List.mem_pair.mp hx with rfl | rfl
      · exact hother (by decide +kernel)
          (r := .startStory "A\n* x -> k\n=== k\nB" (some "b")) (by decide +kernel) rfl _
      · exact hother (by decide +kernel) (r := .startDebug "b") (by decide +kernel) rfl _
  obtain ⟨-, htrace, -⟩ := record_after_end false (some 9) none Ink.idle before e rest _ hq hend hrest
  exact ⟨hq, htrace c 5 (by decide +kernel)⟩

end Remains

end StoryServer
