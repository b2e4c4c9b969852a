import StoryServer.Proofs.Debug.Account
import StoryServer.Proofs.Session.Separation

/-!
# Starts that fail

Three tools start a story: from a source, from a compiled text, and from a source that a model
writes.  `Comes` says what a request comes to, and on which server: the one on which it was
made or, where the story was written first, the one on which it was compiled.

*Phases.*  A start ends the session whose id it is given, opens its story, drops the debug
record under the id of the new session, and restores and continues the story.  It can fail
when the story is opened, and then no record was dropped yet; or when the story is restored
or continued, and then the new session is ended again.  `failing_start` says what each
leaves; sessions with other ids are as they were, and whatever was opened is closed.
-/

namespace StoryServer

open Server Registry

/-- What a start is given. -/
structure Outset where
  begun : Except Fault Ink.Story
  /-- The id for the session, if one is given. -/
  id : Option String
  /-- The state to go on from, if one is given. -/
  state : Option String

section Outset

variable (setup : Ink.Setup) (traceLimit : Option Int) (author : Option Author.Settings)

/-- A request that comes to the start of a story on a server. -/
inductive Comes (s : Server Ink.Shelf) : Request → Outset → Server Ink.Shelf → Prop where
  | source (source : String) (id : Option String) :
      Comes s (.startStory source id) ⟨Ink.storyOf source, id, none⟩ s
  | compiled (json : String) (id state : Option String) :
      Comes s (.startStoryJson json id state) ⟨Ink.storyOfCompiled json, id, state⟩ s
  /-- A story that a model wrote and that compiles. -/
  | generated {prompt source : String} {t u : Server Ink.Shelf} {c : Compilation}
      (hsource : ((Ink.toolbox setup traceLimit author).asAuthor
        fun a => Author.generate a prompt).on s = (.ok source, t))
      (hcompile : (Server.onStage
        ((Ink.toolbox setup traceLimit author).engine.compile source)).on t = (.ok c, u))
      (hsuccess : c.success = true) :
      Comes s (.generateCompilePlay prompt) ⟨Ink.storyOf source, none, none⟩ u

variable {setup traceLimit author} {s u : Server Ink.Shelf} {r : Request} {o : Outset}

/-- What comes before a start leaves the tables alone. -/
theorem Comes.tables (h : Comes setup traceLimit author s r o u) : u.tables = s.tables := by
  cases h with
  | source | compiled => rfl
  | @generated prompt source t u c hsource hcompile hsuccess =>
      have hauthor := Toolbox.keeps_tables_asAuthor setup traceLimit author
        (fun a => Author.generate a prompt) s
      have hstage := Toolbox.keeps_tables_compile setup traceLimit author source t
      rw [hsource] at hauthor
      rw [hcompile] at hstage
      exact hstage.trans hauthor

theorem Server.Orderly.of_tables {t : Server Ink.Shelf} (hs : s.Orderly)
    (ht : t.tables = s.tables) : t.Orderly := by
  obtain ⟨J, hJ⟩ := hs
  refine ⟨J, hJ.of_ledger ?_⟩
  have hsessions : t.sessions = s.sessions := congrArg Tables.sessions ht
  have hstories : t.stage.engine.opened = s.stage.engine.opened := congrArg Tables.stories ht
  rw [ledger, ledger, held, held, hsessions, hstories]

theorem Comes.orderly (h : Comes setup traceLimit author s r o u) (hs : s.Orderly) :
    u.Orderly := hs.of_tables h.tables

theorem Continuation.toJson_session (name : String) (told : Continuation) :
    (told.toJson name).get? "session_id" = some (.str name) := rfl

/-- The answer to a start: the fault of the start, or an object that names the session. -/
def Answers (res : Except Fault (String × Continuation)) (answer : Except Fault Json) : Prop :=
  Act.Related (· = ·) (fun p v => v.get? "session_id" = some (.str p.1)) res answer

/-- A start whose answer names its session. -/
theorem answers_startFrom {begun : Except Fault Ink.Story}
    {openStory : Act (Stage Ink.Shelf) StoryId} (ho : Ink.Opens begun openStory)
    (id : Option String) (source : String) (state : Option String) (hs : Shelved s)
    {view : String × Continuation → Json}
    (hview : ∀ p, (view p).get? "session_id" = some (.str p.1)) :
    let run := (do
      return view (← (Ink.toolbox setup traceLimit author).startFrom openStory id source state) :
      Act (Server Ink.Shelf) Json).on s
    ∃ res, Toolbox.Started traceLimit begun id source state s res run.2.tables ∧
      Answers res run.1 := by
  obtain ⟨res, t, ht, hstarted⟩ := Toolbox.startFrom_started setup traceLimit author ho id source
    state hs
  refine ⟨res, ?_⟩
  rw [Act.on_bind, ht]
  cases res with
  | error f => exact ⟨hstarted, rfl⟩
  | ok p => exact ⟨hstarted, hview p⟩

/-- What the request answers and leaves is what the start answers and leaves. -/
theorem Comes.started (h : Comes setup traceLimit author s r o u) (hs : s.Orderly) :
    let run := ((Ink.toolbox setup traceLimit author).answer r).on s
    ∃ source res, Toolbox.Started traceLimit o.begun o.id source o.state u res run.2.tables ∧
      Answers res run.1 := by
  have hu := (h.orderly hs).shelved
  cases h with
  | source source id =>
      exact ⟨source, answers_startFrom (Ink.opens_source setup source) id source none hu
        fun p => p.2.toJson_session p.1⟩
  | compiled json id state =>
      exact ⟨"", answers_startFrom (Ink.opens_compiled setup json) id "" state hu
        fun p => p.2.toJson_session p.1⟩
  | @generated prompt source t u c hsource hcompile hsuccess =>
      refine ⟨source, ?_⟩
      rw [Toolbox.answer, Toolbox.generateAndPlay, Act.on_bind_of_ok hsource,
        Act.on_bind_of_ok hcompile, hsuccess]
      exact answers_startFrom (Ink.opens_source setup source) none source none hu fun _ => rfl

/-- Whether a request starts a story. -/
def Request.starts : Request → Bool
  | .startStory .. | .startStoryJson .. | .generateCompilePlay _ => true
  | _ => false

variable (setup traceLimit author) in
/-- A request that starts a story comes to it, unless no story is written that compiles. -/
theorem comes_or_apart (hr : r.starts = true) (s : Server Ink.Shelf) :
    (∃ o u, Comes setup traceLimit author s r o u) ∨
      let run := ((Ink.toolbox setup traceLimit author).answer r).on s
      run.2.tables = s.tables ∧ ∀ v, run.1 = .ok v → v.get? "session_id" = none := by
  cases r with
  | startStory source id => exact .inl ⟨_, s, .source source id⟩
  | startStoryJson json id state => exact .inl ⟨_, s, .compiled json id state⟩
  | generateCompilePlay prompt =>
      have hauthor := Toolbox.keeps_tables_asAuthor setup traceLimit author
        (fun a => Author.generate a prompt) s
      cases hsource : ((Ink.toolbox setup traceLimit author).asAuthor
          fun a => Author.generate a prompt).on s with
      | mk res t =>
      rw [hsource] at hauthor
      cases res with
      | error f =>
          refine .inr ?_
          rw [Toolbox.answer, Toolbox.generateAndPlay, Act.on_bind_of_error hsource]
          exact ⟨hauthor, fun v hv => by cases hv⟩
      | ok source =>
          have hstage := Toolbox.keeps_tables_compile setup traceLimit author source t
          cases hcompile : (Server.onStage
              ((Ink.toolbox setup traceLimit author).engine.compile source)).on t with
          | mk res u =>
          rw [hcompile] at hstage
          cases res with
          | error f =>
              refine .inr ?_
              rw [Toolbox.answer, Toolbox.generateAndPlay, Act.on_bind_of_ok hsource,
                Act.on_bind_of_error hcompile]
              exact ⟨hstage.trans hauthor, fun v hv => by cases hv⟩
          | ok c =>
              cases hsuccess : c.success with
              | true => exact .inl ⟨_, u, .generated hsource hcompile hsuccess⟩
              | false =>
                  refine .inr ?_
                  rw [Toolbox.answer, Toolbox.generateAndPlay, Act.on_bind_of_ok hsource,
                    Act.on_bind_of_ok hcompile, hsuccess]
                  refine ⟨hstage.trans hauthor, fun v hv => ?_⟩
                  obtain rfl := Except.ok.inj hv
                  rfl
  | _ => cases hr

/-! ## Servers without a debugger -/

/-- Requests about debugging are made only where there is a debugger. -/
theorem debugger_of_debugs {c : ToolCall}
    (hr : (Ink.toolbox setup traceLimit author).requested c.name c.arguments = some r)
    (hd : r.debugs = true) : traceLimit.isSome = true := by
  obtain ⟨tool, htool, hread⟩ := Toolbox.requested_tool hr
  have hdebug : tool ∈ Tool.ofGroup .debug := by
    rcases Request.ofJson_ok hread with ⟨fields, -, hread⟩ | rfl | ⟨rfl, -⟩
    · exact Request.read_debugs r hread hd
    · cases hd
    · cases hd
  obtain ⟨group, hgroup, hmem⟩ := List.mem_flatMap.mp (List.mem_of_find?_eq_some htool)
  have hapart : ∀ group, ∀ t ∈ Tool.ofGroup .debug, t ∈ Tool.ofGroup group → group = .debug := by
    intro group
    cases group <;> decide
  obtain rfl := hapart group tool hdebug hmem
  exact (List.mem_filter.mp hgroup).2

variable (setup traceLimit author) in
/-- A request that neither starts a story nor debugs touches no record. -/
theorem answer_keeps_records (hstarts : r.starts = false) (hd : r.debugs = false) (id : String) :
    Act.Keeps (Server.recordOf id) ((Ink.toolbox setup traceLimit author).answer r) := by
  cases hbeside : r.isBeside with
  | true => exact Toolbox.answer_keeps_record _ hbeside
  | false =>
      have haside : r.isAside = true := by
        cases r <;> first | rfl | (cases hstarts; done) | cases hbeside
      have hnone : r.session? = none := by
        cases r <;> first | rfl | (cases hd; done) | cases hbeside
      exact fun s => congrArg (fun T => T.records.find? (·.session == id))
        (Toolbox.answer_tables setup traceLimit author hnone haside s)

/-- A request that does not debug makes no record. -/
theorem answer_recordless (hs : s.Orderly) (hd : r.debugs = false) (hrecords : s.records = []) :
    (((Ink.toolbox setup traceLimit author).answer r).on s).2.records = [] := by
  cases hstarts : r.starts with
  | true =>
      rcases comes_or_apart setup traceLimit author hstarts s with ⟨o, u, hc⟩ | ⟨h, -⟩
      · obtain ⟨source, res, hstarted, -⟩ := hc.started hs
        have hu : u.records = [] := (congrArg Tables.records hc.tables).trans hrecords
        have hafter : ∀ name, Toolbox.recordsAfter traceLimit name u.records = [] := by
          intro name
          rw [hu, Toolbox.recordsAfter, Debug.forgetting, List.filter_nil, ite_self]
        generalize hT : (((Ink.toolbox setup traceLimit author).answer r).on s).2.tables = T
          at hstarted
        refine (congrArg Tables.records hT).trans ?_
        cases hstarted with
        | unopened => exact hu
        | unplayed => exact hafter _
        | played => exact hafter _
      · exact (congrArg Tables.records h).trans hrecords
  | false =>
      refine List.eq_nil_iff_forall_not_mem.mpr fun q hq => ?_
      have hkept := answer_keeps_records setup traceLimit author hstarts hd q.session s
      have hnone : s.recordOf q.session = none := by
        rw [Server.recordOf, hrecords]
        rfl
      rw [hnone] at hkept
      simpa using List.find?_eq_none.mp hkept q hq

theorem after_recordless {c : ToolCall} (hs : s.Orderly) (hlimit : traceLimit.isSome = false)
    (hrecords : s.records = []) :
    ((Ink.toolbox setup traceLimit author).after c s).records = [] := by
  have htables := Toolbox.after_tables (Ink.toolbox setup traceLimit author) c s
  cases hr : (Ink.toolbox setup traceLimit author).requested c.name c.arguments with
  | none =>
      rw [hr] at htables
      exact (congrArg Tables.records htables).trans hrecords
  | some r =>
      rw [hr] at htables
      refine (congrArg Tables.records htables).trans (answer_recordless hs ?_ hrecords)
      cases hd : r.debugs with
      | false => rfl
      | true => exact absurd (debugger_of_debugs hr hd) (by simp [hlimit])

/-! ## What a failed start leaves -/

/-- Nothing is under the id of a start, and nothing else has changed. -/
structure Undone (id : Option String) (S T : Tables) : Prop where
  absent : ∀ session ∈ T.sessions, id ≠ some session.id
  sessions (a : String) : id ≠ some a → T.sessions.find? (·.id == a) = S.sessions.find? (·.id == a)
  /-- The stories of other sessions are as they were. -/
  stories (a : String) (x : Session) : id ≠ some a → S.sessions.find? (·.id == a) = some x →
    T.stories[x.story]? = S.stories[x.story]?
  records (a : String) : id ≠ some a → T.records.find? (·.session == a) = S.records.find? (·.session == a)
  /-- What was opened is closed. -/
  closed (n : StoryId) (story : Ink.Story) : S.stories.length ≤ n → T.stories[n]? = some story →
    story.closed = true

section Phases

variable {id state : Option String} {source : String} {f : Fault} {T : Tables}
variable {res : Except Fault (String × Continuation)}

theorem started_unopened (h : Toolbox.Started traceLimit (.error f) id source state s res T) :
    res = .error f ∧ T = ⟨withoutGiven id s.sessions, s.records, closingGiven s id⟩ := by
  cases h with
  | unopened hb =>
      obtain rfl := Except.error.inj hb
      exact ⟨rfl, rfl⟩
  | unplayed hb | played hb => cases hb

theorem started_unplayed {story told : Ink.Story}
    (h : Toolbox.Started traceLimit (.ok story) id source state s res T)
    (hp : (Ink.Story.resume state).on story = (.error f, told)) :
    res = .error f ∧ ∃ name, Chosen id s name ∧ T = ⟨withoutGiven id s.sessions,
      Toolbox.recordsAfter traceLimit name s.records, closingGiven s id ++ [told.close]⟩ := by
  cases h with
  | unopened hb => cases hb
  | unplayed hb hname hp' =>
      obtain rfl := Except.ok.inj hb
      rw [hp] at hp'
      obtain ⟨hf, rfl⟩ := Prod.mk.inj hp'
      obtain rfl := Except.error.inj hf
      exact ⟨rfl, _, hname, rfl⟩
  | played hb hname hp' =>
      obtain rfl := Except.ok.inj hb
      rw [hp] at hp'
      cases hp'

end Phases

theorem find?_withoutGiven {id : Option String} {a : String} (h : givenId id ≠ some a)
    (sessions : List Session) :
    (withoutGiven id sessions).find? (·.id == a) = sessions.find? (·.id == a) := by
  rw [withoutGiven]
  cases hid : givenId id with
  | none => rfl
  | some c => exact find?_without (fun hac : a = c => h (hac ▸ hid)) sessions

theorem closingGiven_other (hs : s.Orderly) {id : Option String} {a : String}
    (h : givenId id ≠ some a) {x : Session} (hx : s.sessions.find? (·.id == a) = some x) :
    (closingGiven s id)[x.story]? = s.stage.engine.opened[x.story]? := by
  rw [closingGiven]
  cases hid : givenId id with
  | none => rfl
  | some c => exact closing_other hs (fun hac : a = c => h (hac ▸ hid)) hx

theorem length_closingGiven (s : Server Ink.Shelf) (id : Option String) :
    (closingGiven s id).length = s.stage.engine.opened.length := by
  rw [closingGiven]
  split
  · rfl
  · exact length_closing s _

theorem undone_unopened (hs : s.Orderly) (id : Option String) :
    Undone (givenId id) s.tables ⟨withoutGiven id s.sessions, s.records, closingGiven s id⟩ where
  absent session hm := by
    intro hid
    rw [withoutGiven, hid] at hm
    exact (mem_without.mp hm).2 rfl
  sessions a h := find?_withoutGiven h s.sessions
  stories a x h hx := closingGiven_other hs h hx
  records a h := rfl
  closed n story hn hstory := by
    have hlt := (List.getElem?_eq_some_iff.mp hstory).1
    rw [length_closingGiven] at hlt
    exact absurd hlt (Nat.not_lt.mpr hn)

theorem Registry.Chosen.given {id : Option String} {name c : String} (h : Chosen id s name)
    (hid : givenId id = some c) : c = name := by
  rw [Chosen, chooseId, hid] at h
  exact Except.ok.inj h

theorem Registry.Chosen.withoutGiven {id : Option String} {name : String} (h : Chosen id s name) :
    Registry.withoutGiven id s.sessions = without name s.sessions := by
  have hfree := h.free
  rw [Registry.withoutGiven] at hfree ⊢
  cases hid : givenId id with
  | none =>
      rw [hid] at hfree
      exact (without_free hfree).symm
  | some c => rw [h.given hid]

theorem undone_unplayed (hs : s.Orderly) {id : Option String} {name : String}
    (hname : Chosen id s name) (told : Ink.Story) :
    Undone (some name) s.tables ⟨withoutGiven id s.sessions,
      Toolbox.recordsAfter traceLimit name s.records, closingGiven s id ++ [told.close]⟩ := by
  have hother : ∀ a, some name ≠ some a → givenId id ≠ some a := by
    intro a h hid
    exact h (congrArg some (hname.given hid).symm)
  have hfree := hname.free
  constructor
  case absent =>
    rintro session hm hid
    exact hfree (Option.some.inj hid ▸ List.mem_map_of_mem hm)
  case sessions => exact fun a h => find?_withoutGiven (hother a h) s.sessions
  case stories =>
    intro a x h hx
    have hlt := hs.shelved x (List.mem_of_find?_eq_some hx)
    rw [← length_closingGiven s id] at hlt
    dsimp only
    rw [List.getElem?_append_left hlt]
    exact closingGiven_other hs (hother a h) hx
  case records =>
    exact fun a h => find?_recordsAfter traceLimit (fun ha : a = name => h (ha ▸ rfl)) s.records
  case closed =>
    intro n story hn hstory
    have hlen : (closingGiven s id).length ≤ n := by
      rw [length_closingGiven]
      exact hn
    dsimp only at hstory
    rw [List.getElem?_append_right hlen, List.getElem?_singleton] at hstory
    split at hstory
    · obtain rfl := Option.some.inj hstory
      simp [Ink.Story.close, Ink.Story.closed]
    · cases hstory

/-! ## Runs of calls -/

theorem Server.orderly_bare (s : Server Ink.Shelf) : s.bare.Orderly := ⟨[], Ledger.Owned.start⟩

theorem Server.Orderly.serve : ∀ (calls : List ToolCall) {s : Server Ink.Shelf}, s.Orderly →
    ((Ink.toolbox setup traceLimit author).serve calls s).Orderly
  | [], _, hs => hs
  | c :: rest, _, hs => serve rest (hs.after setup traceLimit author c)

theorem serve_recordless (hlimit : traceLimit.isSome = false) : ∀ (calls : List ToolCall)
    {s : Server Ink.Shelf}, s.Orderly → s.records = [] →
      ((Ink.toolbox setup traceLimit author).serve calls s).records = []
  | [], _, _, hrecords => hrecords
  | c :: rest, _, hs, hrecords => serve_recordless hlimit rest (hs.after setup traceLimit author c)
      (after_recordless hs hlimit hrecords)

variable (setup traceLimit author)

/-- **Starts that fail.**  On a server as any calls leave it, a call that comes to a start:
when the story cannot be opened, the table is without the session whose id was given, and the
debug records are as they were; when the story cannot be restored or continued, the table and
the debug records are without the id of the new session.  Either way nothing is under the id,
everything under other ids is as it was, and what was opened is closed.  A start fails in no
other way. -/
theorem failing_start (s₀ : Server Ink.Shelf) (calls : List ToolCall) (c : ToolCall)
    (hrequested : (Ink.toolbox setup traceLimit author).requested c.name c.arguments = some r)
    (hcomes : Comes setup traceLimit author
      ((Ink.toolbox setup traceLimit author).serve calls s₀.bare) r o u) :
    let box := Ink.toolbox setup traceLimit author
    let s := box.serve calls s₀.bare
    let t := box.after c s
    let reply := box.reply (fun _ v => v) c s
    (∀ f, o.begun = .error f → reply = .answered (.error f) ∧
      t.sessions = withoutGiven o.id s.sessions ∧ t.records = s.records ∧
      Undone (givenId o.id) s.tables t.tables) ∧
    (∀ story told f, o.begun = .ok story → (Ink.Story.resume o.state).on story = (.error f, told) →
      reply = .answered (.error f) ∧ ∃ name, Chosen o.id u name ∧
        t.sessions = without name s.sessions ∧ t.records = Debug.forgetting name s.records ∧
        Undone (some name) s.tables t.tables) ∧
    ∀ f, reply = .answered (.error f) → o.begun = .error f ∨
      ∃ story told, o.begun = .ok story ∧ (Ink.Story.resume o.state).on story = (.error f, told) := by
  intro box s t reply
  have hs : s.Orderly := s₀.orderly_bare.serve calls
  have hu : u.Orderly := hcomes.orderly hs
  have hsame : u.tables = s.tables := hcomes.tables
  have hsessions : u.sessions = s.sessions := congrArg Tables.sessions hsame
  have hrecords : u.records = s.records := congrArg Tables.records hsame
  obtain ⟨tool, htool, hread⟩ := Toolbox.requested_tool hrequested
  obtain ⟨-, hreply, htables⟩ := Toolbox.reply_made htool hread (fun _ v => v) s
  obtain ⟨source, res, hstarted, hanswers⟩ := hcomes.started hs
  rw [← htables] at hstarted
  -- the reply is the fault of the start, if the start fails
  have hfault : ∀ f, res = .error f → reply = .answered (.error f) := by
    rintro f rfl
    refine hreply.trans ?_
    generalize ((box.answer r).on s).1 = answer at hanswers
    cases answer with
    | error g => rw [show f = g from hanswers]; rfl
    | ok v => exact hanswers.elim
  obtain ⟨begun, id, state⟩ := o
  refine ⟨?_, ?_, ?_⟩
  · rintro f rfl
    obtain ⟨hres, hT⟩ := started_unopened hstarted
    refine ⟨hfault f hres, ?_, ?_, ?_⟩
    · rw [← hsessions]
      exact congrArg Tables.sessions hT
    · rw [← hrecords]
      exact congrArg Tables.records hT
    · rw [← hsame]
      exact hT ▸ undone_unopened hu id
  · rintro story told f rfl hp
    obtain ⟨hres, name, hname, hT⟩ := started_unplayed hstarted hp
    refine ⟨hfault f hres, name, hname, ?_, ?_, ?_⟩
    · rw [← hsessions, ← hname.withoutGiven]
      exact congrArg Tables.sessions hT
    · refine (congrArg Tables.records hT).trans ?_
      rw [← hrecords]
      cases hlimit : traceLimit.isSome with
      | true => simp [Toolbox.recordsAfter, hlimit]
      | false =>
          -- without a debugger there are no records to drop
          have hnone : u.records = [] :=
            hrecords.trans (serve_recordless hlimit calls s₀.orderly_bare rfl)
          rw [hnone]
          simp [Toolbox.recordsAfter, Debug.forgetting]
    · rw [← hsame]
      exact hT ▸ undone_unplayed hu hname told
  · intro f hf
    have hanswer := hreply.symm.trans hf
    generalize ((box.answer r).on s).1 = answer at hanswers hanswer
    cases answer with
    | ok v => cases hanswer
    | error g =>
        obtain rfl : g = f := Except.error.inj (Reply.answered.inj hanswer)
        generalize t.tables = T at hstarted
        cases hstarted with
        | unopened hb => exact .inl (hb.trans (congrArg _ hanswers))
        | unplayed hb hname hp => exact .inr ⟨_, _, hb, hp.trans (by rw [show _ = g from hanswers])⟩
        | played => exact hanswers.elim

/-- A start under the id of a debugged session, with a state that cannot be read. -/
theorem failing_start_unread :
    let box := Ink.toolbox false (some 9) none
    let call (name id : String) (more : Fields) : ToolCall :=
      ⟨name, .obj (("session_id", .str id) :: more)⟩
    let source := ("source", Json.str "A")
    let s := box.serve [call "start_story" "a" [source], call "start_story" "b" [source],
      call "start_debug" "a" [], call "start_debug" "b" []] Ink.idle.bare
    let json := "\x7b\"source\": \"A\"\x7d"
    let c := call "start_story_json" "b" [("json", .str json), ("state_json", .str "\x7b")]
    let story := Ink.Story.start ⟨[("", [.text "A" []])], [], [], []⟩
    let f : Fault := .story (.stateText "\x7b" .propertyName 1)
    (box.requested c.name c.arguments = some (.startStoryJson json (some "b") (some "\x7b")) ∧
      Ink.storyOfCompiled json = .ok story ∧
      (Ink.Story.resume (some "\x7b")).on story = (.error f, story)) ∧
    ∃ name, Chosen (some "b") s name ∧
      (box.after c s).sessions = without name s.sessions ∧
      (box.after c s).records = Debug.forgetting name s.records ∧
      Undone (some name) s.tables (box.after c s).tables := by
  intro box call source s json c story f
  have hrequested : box.requested c.name c.arguments =
      some (.startStoryJson json (some "b") (some "\x7b")) := by decide +kernel
  have hstory : Ink.storyOfCompiled json = .ok story := by decide +kernel
  have hresume : (Ink.Story.resume (some "\x7b")).on story = (.error f, story) := by decide +kernel
  obtain ⟨-, hunplayed, -⟩ := failing_start false (some 9) none Ink.idle _ c hrequested
    (Comes.compiled json (some "b") (some "\x7b"))
  exact ⟨⟨hrequested, hstory, hresume⟩, (hunplayed story story f hstory hresume).2⟩

end Outset

end StoryServer
