import StoryServer.Proofs.Debug.Origin
import StoryServer.Proofs.Tool.Outset

/-!
# A new story has no debug session

The *trail* of a run is its calls in order, each with the server on which it was made.  What
is live and what is recorded after a run is traced back along it: a live session to the call
that started its story, a debug record to the call that started the debug session, and each of
its breakpoints and watches to a later call that added it.

*One call.*  A session that is live after a call was started by it or was live before
(`session_descends`), and a record was begun by it or was there before, and then the call
started no story under its id (`record_descends`).

*Order.*  A start that succeeds leaves no record under its id.  So the start of the debug
session of a live session comes after the start of its story (`debugged_after_start`).
-/

namespace StoryServer

open Server Registry

/-- A call, and the server on which it was made. -/
structure Exchange where
  call : ToolCall
  server : Server Ink.Shelf

/-- The exchanges of a run, in order. -/
def Toolbox.trail (box : Toolbox Ink.Shelf) : List ToolCall → Server Ink.Shelf → List Exchange
  | [], _ => []
  | c :: rest, s => ⟨c, s⟩ :: box.trail rest (box.after c s)

namespace Exchange

section

variable (box : Toolbox Ink.Shelf) (id : String) (e : Exchange)

/-- A request was made and answered. -/
def Answered (r : Request) (v : Json) : Prop :=
  box.requested e.call.name e.call.arguments = some r ∧
    box.reply (fun _ v => v) e.call e.server = .answered (.ok v)

/-- A story was started under the id. -/
def Starts : Prop :=
  ∃ r v, e.Answered box r v ∧ r.starts = true ∧ v.get? "session_id" = some (.str id)

/-- A story was started under the id, and it is the one that was opened in a place. -/
def Creates (n : StoryId) : Prop :=
  e.Starts box id ∧ e.server.stage.engine.opened.length ≤ n ∧
    (box.after e.call e.server).storyOf id = some n

def StartsDebug : Prop := ∃ v, e.Answered box (.startDebug id) v

def EndsDebug : Prop := ∃ v, e.Answered box (.endDebug id) v

def AddsBreakpoint (b : Debug.Breakpoint) : Prop :=
  ∃ type v, e.Answered box (.addBreakpoint id type b.target) v ∧
    Debug.BreakpointType.ofName? type = some b.type ∧ v.get? "id" = some (.str b.id)

def AddsWatch (name : String) : Prop := ∃ v, e.Answered box (.addWatch id name) v

/-- A record is what an exchange makes of an earlier one. -/
structure Carries (q q' : Debug.Record) : Prop where
  noStart : ¬ e.Starts box id
  noDebug : ¬ e.StartsDebug box id
  noEnd : ¬ e.EndsDebug box id
  breakpoints (b : Debug.Breakpoint) : b ∈ q'.breakpoints →
    (∃ a ∈ q.breakpoints, a.Same b) ∨ e.AddsBreakpoint box id b
  watches (name : String) : name ∈ q'.watches.map (·.name) →
    name ∈ q.watches.map (·.name) ∨ e.AddsWatch box id name

end

variable {box : Toolbox Ink.Shelf} {id : String} {e : Exchange} {c : ToolCall}
variable {s : Server Ink.Shelf} {r r' : Request} {v : Json}

theorem answered_iff (hr : box.requested c.name c.arguments = some r) :
    (⟨c, s⟩ : Exchange).Answered box r' v ↔ r' = r ∧ ((box.answer r).on s).1 = .ok v := by
  obtain ⟨tool, htool, hread⟩ := Toolbox.requested_tool hr
  obtain ⟨-, hreply, -⟩ := Toolbox.reply_made htool hread (fun _ v => v) s
  rw [Answered, hreply, hr, Option.some.injEq, eq_comm]
  refine and_congr_right fun _ => ?_
  cases ((box.answer r).on s).1 with
  | error f => simp [Except.map]
  | ok w => simp [Except.map]

/-- One exchange has one request. -/
theorem answered_unique {v' : Json} (h : e.Answered box r v) (h' : e.Answered box r' v') :
    r = r' := Option.some.inj (h.1.symm.trans h'.1)

theorem not_startsDebug_of_starts {id' : String} (h : e.Starts box id) :
    ¬ e.StartsDebug box id' := by
  obtain ⟨r, v, hr, hstarts, -⟩ := h
  rintro ⟨v', hr'⟩
  obtain rfl := answered_unique hr hr'
  cases hstarts

theorem AddsBreakpoint.same {a b : Debug.Breakpoint} (h : e.AddsBreakpoint box id a)
    (hab : a.Same b) : e.AddsBreakpoint box id b := by
  obtain ⟨hnumber, htype, htarget⟩ := hab
  rw [AddsBreakpoint, Debug.Breakpoint.id, ← hnumber, ← htype, ← htarget]
  exact h

/-- What has not changed is carried by an exchange that is not about it. -/
theorem Carries.unchanged {q q' : Debug.Record} (hstart : ¬ e.Starts box id)
    (hdebug : ¬ e.StartsDebug box id) (hend : ¬ e.EndsDebug box id)
    (hb : q'.breakpoints = q.breakpoints) (hw : q'.watches = q.watches) :
    e.Carries box id q q' where
  noStart := hstart
  noDebug := hdebug
  noEnd := hend
  breakpoints b hm := .inl ⟨b, hb ▸ hm, rfl, rfl, rfl⟩
  watches _ hm := .inl (hw ▸ hm)

end Exchange

section Descent

variable (setup : Ink.Setup) (traceLimit : Option Int) (author : Option Author.Settings)
variable {s : Server Ink.Shelf} {c : ToolCall} {r : Request} {id : String}

theorem mem_withoutGiven {id : Option String} {sessions : List Session} {x : Session}
    (h : x ∈ withoutGiven id sessions) : x ∈ sessions := by
  rw [withoutGiven] at h
  split at h
  · exact h
  · exact (mem_without.mp h).1

/-- A call that should start a story does nothing, or what a start does. -/
theorem start_exchange (hs : s.Orderly)
    (hr : (Ink.toolbox setup traceLimit author).requested c.name c.arguments = some r)
    (hstarts : r.starts = true) :
    let box := Ink.toolbox setup traceLimit author
    ((box.after c s).tables = s.tables ∧ ∀ id, ¬ (⟨c, s⟩ : Exchange).Starts box id) ∨
      ∃ begun given state source u res, u.tables = s.tables ∧
        Toolbox.Started traceLimit begun given source state u res (box.after c s).tables ∧
        ∀ id, (⟨c, s⟩ : Exchange).Starts box id ↔ ∃ told, res = .ok (id, told) := by
  intro box
  have htables := Toolbox.after_tables box c s
  rw [hr] at htables
  dsimp only at htables
  rcases comes_or_apart setup traceLimit author hstarts s with ⟨o, u, hcomes⟩ | ⟨hsame, hnone⟩
  · obtain ⟨source, res, hstarted, hanswers⟩ := hcomes.started hs
    rw [← htables] at hstarted
    refine .inr ⟨_, _, _, _, u, res, hcomes.tables, hstarted, fun id => ⟨?_, ?_⟩⟩
    · rintro ⟨r', v, hanswered, -, hid⟩
      obtain ⟨-, hv⟩ := (Exchange.answered_iff hr).mp hanswered
      rw [hv] at hanswers
      cases res with
      | error f => exact hanswers.elim
      | ok p =>
          obtain ⟨name, told⟩ := p
          obtain rfl : name = id := by
            have hname : v.get? "session_id" = some (.str name) := hanswers
            simpa using hname.symm.trans hid
          exact ⟨told, rfl⟩
    · rintro ⟨told, rfl⟩
      cases hv : ((box.answer r).on s).1 with
      | error f =>
          rw [hv] at hanswers
          exact hanswers.elim
      | ok v =>
          rw [hv] at hanswers
          exact ⟨r, v, (Exchange.answered_iff hr).mpr ⟨rfl, hv⟩, hstarts, hanswers⟩
  · refine .inl ⟨htables.trans hsame, ?_⟩
    rintro id ⟨r', v, hanswered, -, hid⟩
    obtain ⟨-, hv⟩ := (Exchange.answered_iff hr).mp hanswered
    rw [hnone v hv] at hid
    cases hid

theorem not_starts (hr : (Ink.toolbox setup traceLimit author).requested c.name c.arguments = some r)
    (hstarts : r.starts = false) (id : String) :
    ¬ (⟨c, s⟩ : Exchange).Starts (Ink.toolbox setup traceLimit author) id := by
  rintro ⟨r', v, hanswered, hstarts', -⟩
  obtain ⟨rfl, -⟩ := (Exchange.answered_iff hr).mp hanswered
  rw [hstarts] at hstarts'
  cases hstarts'

/-- A session that is live after a call was started by it or was live before. -/
theorem session_descends (hs : s.Orderly) {x : Session}
    (hx : x ∈ ((Ink.toolbox setup traceLimit author).after c s).sessions) :
    let box := Ink.toolbox setup traceLimit author
    (⟨c, s⟩ : Exchange).Creates box x.id x.story ∨ ¬ (⟨c, s⟩ : Exchange).Starts box x.id ∧
      ∃ y ∈ s.sessions, y.id = x.id ∧ y.story = x.story := by
  intro box
  have htables := Toolbox.after_tables box c s
  cases hr : box.requested c.name c.arguments with
  | none =>
      rw [hr] at htables
      have hsessions : (box.after c s).sessions = s.sessions := congrArg Tables.sessions htables
      refine .inr ⟨?_, x, hsessions ▸ hx, rfl, rfl⟩
      rintro ⟨r, v, hanswered, -⟩
      rw [Exchange.Answered, hr] at hanswered
      cases hanswered.1
  | some r =>
  cases hstarts : r.starts with
  | true =>
      rcases start_exchange setup traceLimit author hs hr hstarts with ⟨hsame, hnone⟩ |
        ⟨begun, given, state, source, u, res, hsame, hstarted, hiff⟩
      · have hsessions : (box.after c s).sessions = s.sessions := congrArg Tables.sessions hsame
        exact .inr ⟨hnone x.id, x, hsessions ▸ hx, rfl, rfl⟩
      · have hsessions : u.sessions = s.sessions := congrArg Tables.sessions hsame
        have hstories : u.stage.engine.opened = s.stage.engine.opened :=
          congrArg Tables.stories hsame
        generalize hT : (box.after c s).tables = T at hstarted
        have hmem : x ∈ T.sessions := hT ▸ hx
        cases hstarted with
        | unopened | unplayed =>
            refine .inr ⟨fun hstart => ?_, x, hsessions ▸ mem_withoutGiven hmem, rfl, rfl⟩
            obtain ⟨told, h⟩ := (hiff x.id).mp hstart
            cases h
        | @played story told name k hb hname hp =>
            rcases List.mem_append.mp hmem with hold | hnew
            · refine .inr ⟨fun hstart => ?_, x, hsessions ▸ mem_withoutGiven hold, rfl, rfl⟩
              obtain ⟨told', h⟩ := (hiff x.id).mp hstart
              obtain ⟨rfl, -⟩ := Prod.mk.inj (Except.ok.inj h)
              exact hname.free (List.mem_map_of_mem hold)
            · obtain rfl := List.mem_singleton.mp hnew
              refine .inl ⟨(hiff _).mpr ⟨k, rfl⟩, ?_, ?_⟩
              · dsimp only
                rw [length_closingGiven, hstories]
              · have hafter : (box.after c s).sessions = _ := congrArg Tables.sessions hT
                rw [storyOf, hafter, List.find?_append, find?_free hname.free]
                simp
  | false =>
      refine .inr ⟨not_starts setup traceLimit author hr hstarts x.id, ?_⟩
      rw [hr] at htables
      have hsessions : (box.after c s).sessions = ((box.answer r).on s).2.sessions :=
        congrArg Tables.sessions htables
      rw [hsessions] at hx
      cases haside : r.isAside with
      | true =>
          have hkeeps : Act.Keeps (holdings Ink.Shelf.fixed) (box.answer r) :=
            Toolbox.answer_keeps (Ink.engine_keeps setup) haside
          have hheld : ((box.answer r).on s).2.held = s.held := congrArg Prod.snd (hkeeps s)
          have hpair : (x.id, x.story) ∈ s.held := hheld ▸ List.mem_map_of_mem hx
          obtain ⟨y, hy, hxy⟩ := List.mem_map.mp hpair
          obtain ⟨hid, hstory⟩ := Prod.mk.inj hxy
          exact ⟨y, hy, hid, hstory⟩
      | false =>
          cases r with
          | endSession a =>
              obtain ⟨t, ht, hended⟩ := endSession_tables setup a fun session hsession =>
                hs.shelved session (List.mem_of_find?_eq_some hsession)
              have hrun : ((box.answer (.endSession a)).on s).2 = t := by
                rw [Toolbox.answer, Debug.on_bind_pure]
                exact congrArg Prod.snd ht
              have hwithout : t.sessions = without a s.sessions := congrArg Tables.sessions hended
              rw [hrun, hwithout] at hx
              exact ⟨x, (mem_without.mp hx).1, rfl, rfl⟩
          | startStory | startStoryJson | generateCompilePlay => cases hstarts
          | _ => cases haside

/-- A debug session that cannot be started leaves the records alone. -/
theorem start_refused {limit : Int} {f : Fault} {t : Server Ink.Shelf}
    (h : (Debug.start limit id).on s = (.error f, t)) : t = s := by
  rw [Debug.start] at h
  cases hsession : s.sessions.find? (·.id == id) with
  | none =>
      rw [Act.on_bind_of_error (Debug.session_none hsession)] at h
      exact (Prod.mk.inj h).2.symm
  | some session =>
      rw [Act.on_bind_of_ok (Debug.session_on hsession), Act.on_bind, Act.on_ofExcept] at h
      cases hsize : Debug.traceSize limit with
      | error g =>
          rw [hsize] at h
          exact (Prod.mk.inj h).2.symm
      | ok n =>
          rw [hsize] at h
          cases h

section Records

variable {q' : Debug.Record}

/-- A record after a call that should start a story was there before. -/
theorem record_of_start (hs : s.Orderly) (hnone : traceLimit.isSome = false → s.records = [])
    (hr : (Ink.toolbox setup traceLimit author).requested c.name c.arguments = some r)
    (hstarts : r.starts = true)
    (hq : ((Ink.toolbox setup traceLimit author).after c s).recordOf id = some q') :
    ¬ (⟨c, s⟩ : Exchange).Starts (Ink.toolbox setup traceLimit author) id ∧
      s.recordOf id = some q' := by
  rcases start_exchange setup traceLimit author hs hr hstarts with ⟨hsame, hnostart⟩ |
    ⟨begun, given, state, source, u, res, hsame, hstarted, hiff⟩
  · exact ⟨hnostart id, (congrArg (fun T => T.records.find? (·.session == id)) hsame).symm.trans hq⟩
  · have hrecords : u.records = s.records := congrArg Tables.records hsame
    -- the record of the new session is dropped
    have hdropped : ∀ {name : String},
        (Toolbox.recordsAfter traceLimit name u.records).find? (·.session == id) = some q' →
        id ≠ name ∧ s.recordOf id = some q' := by
      intro name hfind
      rw [hrecords] at hfind
      cases hlimit : traceLimit.isSome with
      | false =>
          rw [hnone hlimit, Toolbox.recordsAfter, hlimit] at hfind
          cases hfind
      | true =>
          rw [Toolbox.recordsAfter, hlimit, if_pos rfl] at hfind
          by_cases hid : id = name
          · rw [hid, find?_forgetting_self] at hfind
            cases hfind
          · rw [find?_forgetting hid] at hfind
            exact ⟨hid, hfind⟩
    generalize hT : ((Ink.toolbox setup traceLimit author).after c s).tables = T at hstarted
    have hfind : T.records.find? (·.session == id) = some q' := hT ▸ hq
    cases hstarted with
    | unopened hb =>
        refine ⟨fun hstart => ?_, ?_⟩
        · obtain ⟨told, h⟩ := (hiff id).mp hstart
          cases h
        · rw [Server.recordOf, ← hrecords]
          exact hfind
    | unplayed hb hname hp =>
        refine ⟨fun hstart => ?_, (hdropped hfind).2⟩
        obtain ⟨told, h⟩ := (hiff id).mp hstart
        cases h
    | played hb hname hp =>
        obtain ⟨hid, hkept⟩ := hdropped hfind
        refine ⟨fun hstart => ?_, hkept⟩
        obtain ⟨told, h⟩ := (hiff id).mp hstart
        exact hid (Prod.mk.inj (Except.ok.inj h)).1.symm

/-- A record after a request about debugging was begun by it or was there before. -/
theorem record_of_debugging (hs : s.Orderly)
    (hr : (Ink.toolbox setup traceLimit author).requested c.name c.arguments = some r)
    (hd : r.debugs = true)
    (hq : (((Ink.toolbox setup traceLimit author).answer r).on s).2.recordOf id = some q') :
    let box := Ink.toolbox setup traceLimit author
    (⟨c, s⟩ : Exchange).StartsDebug box id ∧ q'.breakpoints = [] ∧ q'.watches = [] ∨
      ∃ q, s.recordOf id = some q ∧ (⟨c, s⟩ : Exchange).Carries box id q q' := by
  intro box
  have hstart := not_starts (s := s) setup traceLimit author hr (by cases r <;> first | rfl | cases hd)
    id
  have hother : ∀ {r' : Request}, r' ≠ r → ∀ v, ¬ (⟨c, s⟩ : Exchange).Answered box r' v :=
    fun hne v h => hne ((Exchange.answered_iff hr).mp h).1
  obtain ⟨a, ha⟩ : ∃ a, r.session? = some a := by
    cases r <;> first | exact ⟨_, rfl⟩ | cases hd
  by_cases hid : id = a
  · subst hid
    by_cases hbegin : r = .startDebug id
    · subst hbegin
      cases hrun : (Debug.start (traceLimit.getD Debug.defaultLimit) id).on s with
      | mk res t =>
      have hanswer : (box.answer (.startDebug id)).on s = (res, t) := hrun
      rw [hanswer] at hq
      cases res with
      | ok v =>
          have hfresh := Debug.start_record hrun
          rw [hq] at hfresh
          obtain rfl := Option.some.inj hfresh
          exact .inl ⟨⟨v, (Exchange.answered_iff hr).mpr ⟨rfl, congrArg Prod.fst hanswer⟩⟩, rfl, rfl⟩
      | error f =>
          obtain rfl := start_refused hrun
          refine .inr ⟨q', hq, .unchanged hstart ?_ ?_ rfl rfl⟩
          · rintro ⟨v, h⟩
            have hv := ((Exchange.answered_iff hr).mp h).2
            rw [hanswer] at hv
            cases hv
          · exact not_exists.mpr (hother (by simp))
    · by_cases hfinish : r = .endDebug id
      · subst hfinish
        obtain ⟨b, t, ht, hstopped⟩ := Debug.stop_tables id s
        have hrun : ((box.answer (.endDebug id)).on s).2 = t := by
          rw [Toolbox.answer, Debug.on_bind_pure, ht]
        rw [hrun] at hq
        have hrecords : t.records = Debug.forgetting id s.records := congrArg Tables.records hstopped
        rw [Server.recordOf, hrecords, find?_forgetting_self] at hq
        cases hq
      · obtain ⟨q, E, hkept, hadds, hbreakpoints, hwatches⟩ :=
          Debug.answer_record box hd ha hbegin hfinish hq
        refine .inr ⟨q, hkept, hstart, not_exists.mpr (hother (Ne.symm hbegin)),
          not_exists.mpr (hother (Ne.symm hfinish)), fun b hb => ?_, fun name hname => ?_⟩
        · rcases hbreakpoints b hb with hold | ⟨x, hx, hxb⟩
          · exact .inl hold
          · obtain ⟨type, htype, hrequest, hanswer⟩ := hadds.issued x hx
            exact .inr (Exchange.AddsBreakpoint.same ⟨type, _,
              (Exchange.answered_iff hr).mpr ⟨hrequest.symm, hanswer⟩, htype, rfl⟩ hxb)
        · rcases hwatches name hname with hold | hw
          · exact .inl hold
          · obtain ⟨hrequest, v, hanswer⟩ := hadds.watched name hw
            exact .inr ⟨v, (Exchange.answered_iff hr).mpr ⟨hrequest.symm, hanswer⟩⟩
  · -- the record of another session is the same, up to times
    have hshare := Toolbox.answer_beside setup traceLimit author hs hid ha
      (by cases r <;> first | rfl | cases hd)
    have hsame : (((box.answer r).on s).2.recordOf id).map (·.outline) =
        (s.recordOf id).map (·.outline) := congrArg Share.record hshare
    rw [hq] at hsame
    obtain ⟨q, hkept, houtline⟩ := Option.map_eq_some_iff.mp hsame.symm
    obtain ⟨-, hb, hw, -⟩ := Debug.Record.outline_eq_iff.mp houtline
    have hne : ∀ r' : Request, r'.session? = some id → r' ≠ r := by
      rintro r' hr' rfl
      exact hid (Option.some.inj (hr'.symm.trans ha))
    exact .inr ⟨q, hkept, .unchanged hstart (not_exists.mpr (hother (hne _ rfl)))
      (not_exists.mpr (hother (hne _ rfl))) hb.symm hw.symm⟩

/-- A record that is there after a call was begun by it, or the call made it of an earlier one
and started no story under its id. -/
theorem record_descends (hs : s.Orderly) (hnone : traceLimit.isSome = false → s.records = [])
    (hq : ((Ink.toolbox setup traceLimit author).after c s).recordOf id = some q') :
    let box := Ink.toolbox setup traceLimit author
    (⟨c, s⟩ : Exchange).StartsDebug box id ∧ q'.breakpoints = [] ∧ q'.watches = [] ∨
      ∃ q, s.recordOf id = some q ∧ (⟨c, s⟩ : Exchange).Carries box id q q' := by
  intro box
  have htables := Toolbox.after_tables box c s
  cases hr : box.requested c.name c.arguments with
  | none =>
      rw [hr] at htables
      have hnot : ∀ {r : Request} {v : Json}, ¬ (⟨c, s⟩ : Exchange).Answered box r v := by
        intro r v hanswered
        rw [Exchange.Answered, hr] at hanswered
        cases hanswered.1
      have hrecords : (box.after c s).records = s.records := congrArg Tables.records htables
      rw [Server.recordOf, hrecords] at hq
      refine .inr ⟨q', hq, .unchanged ?_ (not_exists.mpr fun _ => hnot) (not_exists.mpr fun _ => hnot)
        rfl rfl⟩
      rintro ⟨_, _, h, _⟩
      exact hnot h
  | some r =>
      rw [hr] at htables
      have hrecord : (box.after c s).recordOf id = ((box.answer r).on s).2.recordOf id :=
        congrArg (fun T => T.records.find? (·.session == id)) htables
      cases hd : r.debugs with
      | true => exact record_of_debugging setup traceLimit author hs hr hd (hrecord ▸ hq)
      | false =>
          have hother : ∀ {r' : Request}, r'.debugs = true →
              ∀ v, ¬ (⟨c, s⟩ : Exchange).Answered box r' v := by
            intro r' hd' v h
            obtain ⟨rfl, -⟩ := (Exchange.answered_iff hr).mp h
            rw [hd] at hd'
            cases hd'
          obtain ⟨hstart, hkept⟩ : ¬ (⟨c, s⟩ : Exchange).Starts box id ∧ s.recordOf id = some q' := by
            cases hstarts : r.starts with
            | true => exact record_of_start setup traceLimit author hs hnone hr hstarts hq
            | false =>
                refine ⟨not_starts setup traceLimit author hr hstarts id, ?_⟩
                rw [← hq, hrecord]
                exact (answer_keeps_records setup traceLimit author hstarts hd id s).symm
          exact .inr ⟨q', hkept, .unchanged hstart (not_exists.mpr (hother rfl))
            (not_exists.mpr (hother rfl)) rfl rfl⟩

end Records

/-! ## Runs -/

/-- Everything on a server is traced back to the exchanges that made it. -/
structure Traced (box : Toolbox Ink.Shelf) (E : List Exchange) (s : Server Ink.Shelf) : Prop where
  session (x : Session) : x ∈ s.sessions → ∃ before e after, E = before ++ e :: after ∧
    e.Creates box x.id x.story ∧ ∀ a ∈ after, ¬ a.Starts box x.id
  record (id : String) (q : Debug.Record) : s.recordOf id = some q →
    ∃ before e after, E = before ++ e :: after ∧ e.StartsDebug box id ∧
      (∀ a ∈ after, ¬ a.Starts box id ∧ ¬ a.StartsDebug box id ∧ ¬ a.EndsDebug box id) ∧
      (∀ b ∈ q.breakpoints, ∃ a ∈ after, a.AddsBreakpoint box id b) ∧
      ∀ name ∈ q.watches.map (·.name), ∃ a ∈ after, a.AddsWatch box id name

variable {setup traceLimit author} {E : List Exchange}

theorem Traced.after (h : Traced (Ink.toolbox setup traceLimit author) E s) (hs : s.Orderly)
    (hnone : traceLimit.isSome = false → s.records = []) (c : ToolCall) :
    Traced (Ink.toolbox setup traceLimit author) (E ++ [⟨c, s⟩])
      ((Ink.toolbox setup traceLimit author).after c s) := by
  have hmem : ∀ {P : Exchange → Prop} {after : List Exchange}, (∀ a ∈ after, P a) → P ⟨c, s⟩ →
      ∀ a ∈ after ++ [⟨c, s⟩], P a := by
    intro P after hafter hlast a ha
    rcases List.mem_append.mp ha with ha | ha
    · exact hafter a ha
    · exact List.mem_singleton.mp ha ▸ hlast
  constructor
  case session =>
    intro x hx
    rcases session_descends setup traceLimit author hs hx with hnew | ⟨hnot, y, hy, hid, hstory⟩
    · exact ⟨E, ⟨c, s⟩, [], rfl, hnew, fun a ha => nomatch ha⟩
    · obtain ⟨before, e, after, rfl, he, hafter⟩ := h.session y hy
      rw [hid] at he hafter
      rw [hstory] at he
      exact ⟨before, e, after ++ [⟨c, s⟩], by simp, he, hmem hafter hnot⟩
  case record =>
    intro id q' hq
    rcases record_descends setup traceLimit author hs hnone hq with
      ⟨hnew, hb, hw⟩ | ⟨q, hold, hcarries⟩
    · rw [hb, hw]
      refine ⟨E, ⟨c, s⟩, [], rfl, hnew, ?_, ?_, ?_⟩
      · exact fun a ha => nomatch ha
      · exact fun b hb => nomatch hb
      · exact fun name hname => nomatch hname
    · obtain ⟨before, e, after, rfl, he, hafter, hbreakpoints, hwatches⟩ := h.record id q hold
      refine ⟨before, e, after ++ [⟨c, s⟩], by simp, he,
        hmem hafter ⟨hcarries.noStart, hcarries.noDebug, hcarries.noEnd⟩, fun b hb => ?_,
        fun name hname => ?_⟩
      · rcases hcarries.breakpoints b hb with ⟨a, ha, hab⟩ | hadded
        · obtain ⟨x, hx, hadds⟩ := hbreakpoints a ha
          exact ⟨x, List.mem_append_left _ hx, hadds.same hab⟩
        · exact ⟨⟨c, s⟩, List.mem_append_right _ (List.mem_singleton_self _), hadded⟩
      · rcases hcarries.watches name hname with hname | hadded
        · obtain ⟨x, hx, hadds⟩ := hwatches name hname
          exact ⟨x, List.mem_append_left _ hx, hadds⟩
        · exact ⟨⟨c, s⟩, List.mem_append_right _ (List.mem_singleton_self _), hadded⟩

theorem Traced.serve : ∀ (calls : List ToolCall) {E : List Exchange} {s : Server Ink.Shelf},
    Traced (Ink.toolbox setup traceLimit author) E s → s.Orderly →
    (traceLimit.isSome = false → s.records = []) →
    Traced (Ink.toolbox setup traceLimit author)
      (E ++ (Ink.toolbox setup traceLimit author).trail calls s)
      ((Ink.toolbox setup traceLimit author).serve calls s)
  | [], E, s, h, _, _ => by
      rw [Toolbox.trail, List.append_nil]
      exact h
  | c :: rest, E, s, h, hs, hnone => by
      rw [Toolbox.trail, List.append_cons]
      exact Traced.serve rest (h.after hs hnone c) (hs.after setup traceLimit author c)
        fun hlimit => after_recordless hs hlimit (hnone hlimit)

/-- Where two splits of a list stand, the first of which has nothing of a kind after it. -/
theorem split_order {α : Type} {P : α → Prop} {before after before' after' : List α} {e e' : α}
    (h : before ++ e :: after = before' ++ e' :: after') (hne : e ≠ e') (he : P e)
    (hafter : ∀ a ∈ after', ¬ P a) :
    ∃ between, before' = before ++ e :: between ∧ after = between ++ e' :: after' := by
  rcases List.append_eq_append_iff.mp h with ⟨part, hbefore, hpart⟩ | ⟨part, hbefore, hpart⟩
  · cases part with
    | nil =>
        obtain ⟨he', -⟩ := List.cons.inj hpart
        exact absurd he' hne
    | cons x between =>
        obtain ⟨rfl, hrest⟩ := List.cons.inj hpart
        exact ⟨between, hbefore, hrest⟩
  · cases part with
    | nil =>
        obtain ⟨he', -⟩ := List.cons.inj hpart
        exact absurd he'.symm hne
    | cons x between =>
        obtain ⟨-, hrest⟩ := List.cons.inj hpart
        refine absurd he (hafter e ?_)
        rw [hrest]
        exact List.mem_append_right _ List.mem_cons_self

variable (setup traceLimit author)

/-- **A new story has no debug session.**  After any run of calls: a start of a story under an
id leaves no debug record under it; and where a live session is debugged, its debug session
was started after its story, and each of its breakpoints and watches was added after that. -/
theorem debugged_after_start (s₀ : Server Ink.Shelf) (calls : List ToolCall) :
    let box := Ink.toolbox setup traceLimit author
    let s := box.serve calls s₀.bare
    (∀ c id, (⟨c, s⟩ : Exchange).Starts box id → (box.after c s).recordOf id = none) ∧
    ∀ x ∈ s.sessions, ∀ q, s.recordOf x.id = some q →
      ∃ before start between debug after,
        box.trail calls s₀.bare = before ++ start :: (between ++ debug :: after) ∧
        start.Creates box x.id x.story ∧ debug.StartsDebug box x.id ∧
        (∀ e ∈ between ++ debug :: after, ¬ e.Starts box x.id) ∧
        (∀ e ∈ after, ¬ e.StartsDebug box x.id ∧ ¬ e.EndsDebug box x.id) ∧
        (∀ b ∈ q.breakpoints, ∃ e ∈ after, e.AddsBreakpoint box x.id b) ∧
        ∀ name ∈ q.watches.map (·.name), ∃ e ∈ after, e.AddsWatch box x.id name := by
  intro box s
  have hs : s.Orderly := s₀.orderly_bare.serve calls
  have hnone : traceLimit.isSome = false → s.records = [] :=
    fun hlimit => serve_recordless hlimit calls s₀.orderly_bare rfl
  have htraced : Traced box (box.trail calls s₀.bare) s :=
    Traced.serve (E := []) calls ⟨fun x hx => (nomatch hx), fun id q hq => (nomatch hq)⟩
      s₀.orderly_bare fun _ => rfl
  refine ⟨fun c id hstart => ?_, fun x hx q hq => ?_⟩
  · cases hq : (box.after c s).recordOf id with
    | none => rfl
    | some q =>
        rcases record_descends setup traceLimit author hs hnone hq with
          ⟨hdebug, -⟩ | ⟨q₀, -, hcarries⟩
        · exact absurd hdebug (Exchange.not_startsDebug_of_starts hstart)
        · exact absurd hstart hcarries.noStart
  · obtain ⟨before, start, later, htrail, hstart, hlater⟩ := htraced.session x hx
    obtain ⟨before', debug, after, htrail', hdebug, hafter, hbreakpoints, hwatches⟩ :=
      htraced.record x.id q hq
    have hne : start ≠ debug := by
      rintro rfl
      exact Exchange.not_startsDebug_of_starts hstart.1 hdebug
    obtain ⟨between, -, rfl⟩ := split_order (P := fun e => e.Starts box x.id)
      (htrail.symm.trans htrail') hne hstart.1 fun a ha => (hafter a ha).1
    exact ⟨before, start, between, debug, after, htrail, hstart, hdebug, hlater,
      fun e he => (hafter e he).2, hbreakpoints, hwatches⟩

/-- A debugged story is replaced, and the new one is debugged. -/
theorem debugged_after_start_again :
    let box := Ink.toolbox false (some 9) none
    let call (name : String) (more : Fields) : ToolCall :=
      ⟨name, .obj (("session_id", .str "a") :: more)⟩
    let source := "VAR x = 1\nA"
    let start := call "start_story" [("source", .str source)]
    let debug := call "start_debug" []
    let first := [start, debug, call "add_watch" [("variable", .str "y")]]
    let calls := first ++ [start, debug, call "add_watch" [("variable", .str "x")]]
    let s := box.serve first Ink.idle.bare
    let t := box.serve calls Ink.idle.bare
    let x : Session := { id := "a", story := 1, source }
    let q : Debug.Record := { session := "a", limit := 9, watches := [{ name := "x", last := .int 1 }] }
    ((⟨start, s⟩ : Exchange).Starts box "a" ∧ (box.after start s).recordOf "a" = none) ∧
    (x ∈ t.sessions ∧ t.recordOf "a" = some q) ∧
    ∃ before start between debug after,
      box.trail calls Ink.idle.bare = before ++ start :: (between ++ debug :: after) ∧
      start.Creates box "a" 1 ∧ debug.StartsDebug box "a" ∧
      ∃ e ∈ after, e.AddsWatch box "a" "x" := by
  intro box call source start debug first calls s t x q
  have hstarts : (⟨start, s⟩ : Exchange).Starts box "a" :=
    ⟨.startStory source (some "a"), .obj [("session_id", .str "a"), ("text", .str "A\n"),
      ("can_continue", .bool false), ("choices", .arr []), ("tags", .arr [])],
      ⟨by decide +kernel, by decide +kernel⟩, rfl, rfl⟩
  have hx : x ∈ t.sessions := by decide +kernel
  have hq : t.recordOf "a" = some q := by decide +kernel
  refine ⟨⟨hstarts, (debugged_after_start false (some 9) none Ink.idle first).1 start "a" hstarts⟩,
    ⟨hx, hq⟩, ?_⟩
  obtain ⟨before, e, between, d, after, htrail, hcreates, hdebug, -, -, -, hwatches⟩ :=
    (debugged_after_start false (some 9) none Ink.idle calls).2 x hx q hq
  exact ⟨before, e, between, d, after, htrail, hcreates, hdebug,
    hwatches "x" (List.mem_singleton_self _)⟩

end Descent

end StoryServer
