import StoryServer.Proofs.Session.Registry

/-!
# Every story has an owner or is closed

`Operation` is what can be asked of a server that tells its stories in process: creating a
session, ending one, ending all, and calling a tool.  The story of a created session comes
from an `Opening`, which may itself perform operations, also creations under the same id,
to any depth.

*Running.*  `Opening.act` and `Operation.act` are the actions, and `Opening.installs` and
`Operation.installs` list what they put into the table, in order.  They go along the same
recursion, so the list speaks of the same run.

*Keeping.*  An opening takes its story in flight or fails with nothing of its own in flight,
and an operation leaves nothing in flight (`Opening.settled`, `Operation.settled`).  Both
go by induction on the two types at once.  A run from a server without sessions then stays
settled, and `stories_owned` reads off what that says.
-/

namespace StoryServer

namespace Ink

/-- A server's set-up for stories that are told in process. -/
def toolbox (setup : Ink.Setup) (traceLimit : Option Int) (author : Option Author.Settings) :
    Toolbox Shelf :=
  { engine := engine setup, traceLimit, author }

end Ink

/-! ## Operations -/

mutual

/-- How the story of a new session is opened. -/
inductive Opening where
  | source (source : String)
  | compiled (text : String)
  | failing (f : Fault)
  /-- After an operation, whose fault goes on. -/
  | after (first : Operation) (opening : Opening)
  /-- After an operation, whose fault is passed over. -/
  | trying (first : Operation) (opening : Opening)
  /-- With an operation before the story is handed over, whose fault is passed over. -/
  | handing (opening : Opening) (last : Operation)

/-- What can be asked of a server. -/
inductive Operation where
  | create (opening : Opening) (id : Option String) (source : String)
  | endSession (id : String)
  | closeAll
  | call (name : String) (arguments : Json)

end

section Acting

variable (box : Toolbox Ink.Shelf)

mutual

def Opening.act : Opening → Act (Server Ink.Shelf) StoryId
  | .source source => Server.onStage (box.engine.openSource source)
  | .compiled text => Server.onStage (box.engine.openCompiled text)
  | .failing f => throw f
  | .after first opening => do
    first.act
    opening.act
  | .trying first opening => do
    let _ ← Act.attempt first.act
    opening.act
  | .handing opening last => do
    let story ← opening.act
    let _ ← Act.attempt last.act
    return story

def Operation.act : Operation → Act (Server Ink.Shelf) Unit
  | .create opening id source => do
    let _ ← Registry.create box.engine opening.act id source
  | .endSession id => do
    let _ ← Registry.endSession box.engine id
  | .closeAll => Registry.closeAll box.engine
  | .call name arguments => do
    let _ ← box.call name arguments

end

/-! ## What is put into the table -/

/-- What a creation puts into the table itself, once there is room for it. -/
def installed (openStory : Act (Server Ink.Shelf) StoryId) (id : Option String) (source : String)
    (s : Server Ink.Shelf) : List (String × StoryId) :=
  match openStory.on s with
  | (.error _, _) => []
  | (.ok story, t) =>
    match (Registry.install box.engine story id source).on t with
    | (.error _, _) => []
    | (.ok name, _) => [(name, story)]

/-- What starting a story puts into the table. -/
def started (openStory : Act (Stage Ink.Shelf) StoryId) (id : Option String) (source : String)
    (s : Server Ink.Shelf) : List (String × StoryId) :=
  installed box (Server.onStage openStory) id source ((Registry.makeRoom box.engine id).on s).2

/-- What a request puts into the table. -/
def Request.installs (s : Server Ink.Shelf) : Request → List (String × StoryId)
  | .startStory source id => started box (box.engine.openSource source) id source s
  | .startStoryJson json id _ => started box (box.engine.openCompiled json) id "" s
  | .generateCompilePlay prompt =>
    match (box.asAuthor fun a => Author.generate a prompt).on s with
    | (.error _, _) => []
    | (.ok source, t) =>
      match (Server.onStage (box.engine.compile source)).on t with
      | (.error _, _) => []
      | (.ok c, u) => if c.success then started box (box.engine.openSource source) none source u else []
  | _ => []

/-- The request that a call makes, if it makes one. -/
def Toolbox.requested (name : String) (arguments : Json) : Option Request :=
  (box.find? name).bind fun tool => (Request.ofJson (Toolbox.argumentsOf arguments) tool).toOption

mutual

/-- What an opening puts into the table while it opens its story. -/
def Opening.installs (s : Server Ink.Shelf) : Opening → List (String × StoryId)
  | .source _ | .compiled _ | .failing _ => []
  | .after first opening =>
    first.installs s ++
      match (first.act box).on s with
      | (.error _, _) => []
      | (.ok _, t) => opening.installs t
  | .trying first opening => first.installs s ++ opening.installs ((first.act box).on s).2
  | .handing opening last =>
    opening.installs s ++
      match (opening.act box).on s with
      | (.error _, _) => []
      | (.ok _, t) => last.installs t

/-- What an operation puts into the table, first installed first. -/
def Operation.installs (s : Server Ink.Shelf) : Operation → List (String × StoryId)
  | .create opening id source =>
    let t := ((Registry.makeRoom box.engine id).on s).2
    opening.installs t ++ installed box (opening.act box) id source t
  | .endSession _ | .closeAll => []
  | .call name arguments =>
    match box.requested name arguments with
    | none => []
    | some request => request.installs box s

end

/-! ## Runs -/

/-- The server after some operations. -/
def Operation.run : List Operation → Server Ink.Shelf → Server Ink.Shelf
  | [], s => s
  | first :: rest, s => run rest ((first.act box).on s).2

/-- What a run puts into the table. -/
def Operation.runInstalls : List Operation → Server Ink.Shelf → List (String × StoryId)
  | [], _ => []
  | first :: rest, s => first.installs box s ++ runInstalls rest ((first.act box).on s).2

end Acting

/-- A server before any story was opened. -/
def Server.fresh (s : Server Ink.Shelf) : Server Ink.Shelf :=
  { s with stage := { s.stage with engine := {} }, sessions := [] }

/-! ## Opening a story -/

namespace Ink.Shelf

/-- A source that has errors opens nothing; any other opens a story that was not closed. -/
theorem openSource_on (source : String) (shelf : Shelf) :
    (∃ f, (openSource source).on shelf = (.error f, shelf)) ∨
      ∃ story : Story, story.closings = 0 ∧ (openSource source).on shelf =
        (.ok shelf.opened.length, { opened := shelf.opened ++ [story] }) := by
  rw [openSource, Act.on_bind, Act.on_ofExcept]
  cases Program.parse source with
  | error f => exact Or.inl ⟨f, rfl⟩
  | ok p =>
      dsimp only
      split
      · exact Or.inl ⟨_, rfl⟩
      · exact Or.inr ⟨Story.start p, rfl, rfl⟩

theorem openCompiled_on (text : String) (shelf : Shelf) :
    (∃ f, (openCompiled text).on shelf = (.error f, shelf)) ∨
      ∃ source, (openCompiled text).on shelf = (openSource source).on shelf := by
  rw [openCompiled, Act.on_bind, Act.on_ofExcept]
  cases (readJson text).bind (·.item "source") with
  | error f => exact Or.inl ⟨f, rfl⟩
  | ok v =>
      cases v with
      | str source => exact Or.inr ⟨source, rfl⟩
      | _ => exact Or.inl ⟨_, rfl⟩

end Ink.Shelf

section Settling

open Server

variable {J J' : List (String × StoryId)} {pending : List StoryId} {s : Server Ink.Shelf}
variable {α β : Type}

/-- A run of an opening: it has its story in flight, or failed and has nothing in flight. -/
def Opens (installed : List (String × StoryId)) (pending : List StoryId) :
    Except Fault StoryId × Server Ink.Shelf → Prop
  | (.ok story, t) => t.Settled installed (story :: pending)
  | (.error _, t) => t.Settled installed pending

/-- What a run of an opening leaves, when its fault goes on and when it does not. -/
theorem settled_bind {act : Act (Server Ink.Shelf) α} {next : α → Act (Server Ink.Shelf) β}
    (h : (act.on s).2.Settled J pending)
    (hn : ∀ a t, t.Settled J pending → ((next a).on t).2.Settled J pending) :
    ((act >>= next).on s).2.Settled J pending := by
  rw [Act.on_bind]
  generalize act.on s = run at h
  obtain ⟨r, t⟩ := run
  cases r with
  | ok a => exact hn a t h
  | error f => exact h

theorem settled_orElseDo {act : Act (Server Ink.Shelf) α} {rescue : Act (Server Ink.Shelf) Unit}
    (h : (act.on s).2.Settled J pending)
    (hr : ∀ t, t.Settled J pending → (rescue.on t).2.Settled J pending) :
    ((Act.orElseDo act rescue).on s).2.Settled J pending := by
  have hattempt : ((Act.attempt act).on s).2.Settled J pending := h
  refine settled_bind hattempt fun r t ht => ?_
  cases r with
  | ok a => exact ht
  | error f => exact settled_bind (hr t ht) fun _ _ hu => hu

/-- A story that is put on the shelf is in flight. -/
theorem opens_of_shelf (act : Act Ink.Shelf StoryId) (h : s.Settled J pending)
    (ha : (∃ f, act.on s.stage.engine = (.error f, s.stage.engine)) ∨
      ∃ story : Ink.Story, story.closings = 0 ∧ act.on s.stage.engine =
        (.ok s.stage.engine.opened.length, { opened := s.stage.engine.opened ++ [story] })) :
    Opens J pending ((Server.onStage (Stage.inEngine act)).on s) := by
  rw [Server.onStage, Act.on_within, Stage.inEngine, Act.on_within]
  rcases ha with ⟨f, hf⟩ | ⟨story, hzero, hok⟩
  · rw [hf]
    exact h
  · rw [hok]
    have hl := Ledger.Owned.opening h
    rw [ledger, List.length_map, Ledger.opening] at hl
    refine (?_ : Ledger.Owned _ _ _)
    rw [ledger, List.map_append, List.map_cons, List.map_nil, hzero]
    exact hl

variable (setup : Ink.Setup) (traceLimit : Option Int) (author : Option Author.Settings)

theorem openSource_opens (source : String) (h : s.Settled J pending) :
    Opens J pending ((Server.onStage ((Ink.engine setup).openSource source)).on s) :=
  opens_of_shelf (Ink.Shelf.openSource source) h (Ink.Shelf.openSource_on source _)

theorem openCompiled_opens (text : String) (h : s.Settled J pending) :
    Opens J pending ((Server.onStage ((Ink.engine setup).openCompiled text)).on s) := by
  refine opens_of_shelf (Ink.Shelf.openCompiled text) h ?_
  rcases Ink.Shelf.openCompiled_on text s.stage.engine with hf | ⟨source, hs⟩
  · exact Or.inl hf
  · rw [hs]
    exact Ink.Shelf.openSource_on source _

/-! ## Creating a session -/

/-- A creation keeps the ledger owned whatever its opening did in between. -/
theorem create_settled {openStory : Act (Server Ink.Shelf) StoryId} {id : Option String}
    (source : String) {t : Server Ink.Shelf}
    (hroom : (Registry.makeRoom (Ink.engine setup) id).on s = (.ok (), t))
    (ho : Opens J pending (openStory.on t)) :
    ((Registry.create (Ink.engine setup) openStory id source).on s).2.Settled
      (J ++ installed (Ink.toolbox setup traceLimit author) openStory id source t) pending := by
  rw [Registry.create, Act.on_bind_of_ok hroom, Act.on_bind, installed]
  generalize openStory.on t = run at ho
  obtain ⟨r, u⟩ := run
  cases r with
  | error f =>
      rw [List.append_nil]
      exact ho
  | ok story =>
      obtain ⟨name, v, hv, hsettled⟩ := Registry.install_settled setup id source ho
      simp only [Ink.toolbox, hv]
      exact hsettled

/-- A new session is played or ended. -/
theorem play_settled (id : String) (state : Option String) (h : s.Settled J pending) :
    (((Ink.toolbox setup traceLimit author).play id state).on s).2.Settled J pending := by
  have hkeeps : Act.Keeps (holdings Ink.Shelf.fixed)
      (Toolbox.withStory id ((Ink.toolbox setup traceLimit author).resume state)) :=
    Toolbox.keeps_withStory id fun story => Toolbox.keeps_resume (Ink.engine_keeps setup) state story
  refine settled_orElseDo (h.keeps hkeeps) fun t ht => ?_
  obtain ⟨b, u, hu, hsettled⟩ := Registry.endSession_settled setup id ht
  rw [Ink.toolbox, Act.on_bind_of_ok hu]
  exact hsettled

/-- Starting a story creates a session, and ends it when its story cannot be continued. -/
theorem startFrom_settled {openStory : Act (Stage Ink.Shelf) StoryId} (id : Option String)
    (source : String) (state : Option String)
    (ho : ∀ t : Server Ink.Shelf, t.Settled J pending →
      Opens J pending ((Server.onStage openStory).on t))
    (h : s.Settled J pending) :
    (((Ink.toolbox setup traceLimit author).startFrom openStory id source state).on s).2.Settled
      (J ++ started (Ink.toolbox setup traceLimit author) openStory id source s) pending := by
  obtain ⟨t, hroom, ht⟩ := Registry.makeRoom_settled setup id h
  have hcreate := create_settled setup traceLimit author source hroom (ho t ht)
  have hstarted : started (Ink.toolbox setup traceLimit author) openStory id source s =
      installed (Ink.toolbox setup traceLimit author) (Server.onStage openStory) id source t := by
    rw [started, Ink.toolbox, hroom]
  rw [hstarted]
  refine settled_bind hcreate fun name u hu => ?_
  dsimp only
  split
  · exact settled_bind (hu.keeps (Debug.keeps_stop name)) fun _ v hv =>
      settled_bind (play_settled setup traceLimit author name state hv) fun _ _ hw => hw
  · exact settled_bind (play_settled setup traceLimit author name state hu) fun _ _ hw => hw

/-! ## Requests and calls -/

theorem generateAndPlay_settled (prompt : String) (h : s.Settled J pending) :
    (((Ink.toolbox setup traceLimit author).generateAndPlay prompt).on s).2.Settled
      (J ++ (Request.generateCompilePlay prompt).installs (Ink.toolbox setup traceLimit author) s)
      pending := by
  have hkeeps : Act.Keeps (holdings Ink.Shelf.fixed) ((Ink.toolbox setup traceLimit
      author).asAuthor fun a => Author.generate a prompt) := Toolbox.keeps_asAuthor _
  have hauthor := h.keeps hkeeps
  rw [Toolbox.generateAndPlay, Act.on_bind, Request.installs]
  generalize ((Ink.toolbox setup traceLimit author).asAuthor _).on s = run at hauthor
  obtain ⟨r, t⟩ := run
  cases r with
  | error f =>
      rw [List.append_nil]
      exact hauthor
  | ok source =>
      have hcompile := hauthor.keeps (Server.keeps_onStage ((Ink.engine_keeps setup).compile source))
      dsimp only
      rw [Act.on_bind, Ink.toolbox]
      generalize (Server.onStage ((Ink.engine setup).compile source)).on t = run at hcompile
      obtain ⟨r, u⟩ := run
      cases r with
      | error f =>
          rw [List.append_nil]
          exact hcompile
      | ok c =>
          dsimp only
          cases c.success with
          | false =>
              rw [if_neg Bool.false_ne_true, List.append_nil]
              exact hcompile
          | true =>
              exact settled_bind (startFrom_settled setup traceLimit author none source none
                (fun v hv => openSource_opens setup source hv) hcompile) fun _ _ hw => hw

theorem answer_settled (r : Request) (h : s.Settled J pending) :
    (((Ink.toolbox setup traceLimit author).answer r).on s).2.Settled
      (J ++ r.installs (Ink.toolbox setup traceLimit author) s) pending := by
  have haside : r.isAside = true → (((Ink.toolbox setup traceLimit author).answer r).on s).2.Settled
      J pending := fun hr => h.keeps (Toolbox.answer_keeps (Ink.engine_keeps setup) hr)
  have hnone : r.installs (Ink.toolbox setup traceLimit author) s = [] →
      J ++ r.installs (Ink.toolbox setup traceLimit author) s = J :=
    fun hr => by rw [hr, List.append_nil]
  cases r with
  | startStory source id =>
      exact settled_bind (startFrom_settled setup traceLimit author id source none
        (fun t ht => openSource_opens setup source ht) h) fun _ _ hu => hu
  | startStoryJson json id state =>
      exact settled_bind (startFrom_settled setup traceLimit author id "" state
        (fun t ht => openCompiled_opens setup json ht) h) fun _ _ hu => hu
  | endSession id =>
      obtain ⟨b, t, ht, hsettled⟩ := Registry.endSession_settled setup id h
      rw [hnone rfl, Toolbox.answer, Ink.toolbox, Act.on_bind_of_ok ht]
      exact hsettled
  | generateCompilePlay prompt => exact generateAndPlay_settled setup traceLimit author prompt h
  | _ =>
      rw [hnone rfl]
      exact haside rfl

theorem call_settled (name : String) (arguments : Json) (h : s.Settled J pending) :
    (((Ink.toolbox setup traceLimit author).call name arguments).on s).2.Settled
      (J ++ (Operation.call name arguments).installs (Ink.toolbox setup traceLimit author) s)
      pending := by
  rw [Operation.installs, Toolbox.requested, Toolbox.call]
  cases (Ink.toolbox setup traceLimit author).find? name with
  | none =>
      rw [Option.bind_none, List.append_nil]
      exact h
  | some tool =>
      have hperform : ((Act.caught ((Ink.toolbox setup traceLimit author).perform tool
          arguments)).on s).2.Settled (J ++ match (Request.ofJson (Toolbox.argumentsOf arguments)
            tool).toOption with
            | none => []
            | some request => request.installs (Ink.toolbox setup traceLimit author) s)
          pending := by
        rw [Act.after_caught, Toolbox.perform, Act.on_bind, Act.on_ofExcept]
        cases Request.ofJson (Toolbox.argumentsOf arguments) tool with
        | error f =>
            rw [Except.toOption, List.append_nil]
            exact h
        | ok r =>
            exact settled_bind (answer_settled setup traceLimit author r h) fun v t ht =>
              ht.keeps (Act.keeps_ofExcept _)
      refine settled_bind hperform fun r t ht => ?_
      cases r with
      | ok text => exact ht
      | error f => exact settled_bind (ht.keeps (keeps_note _)) fun _ _ hu => hu

/-! ## Operations -/

mutual

/-- An opening has its story in flight or failed, whatever it did in between. -/
theorem Opening.settled : ∀ (o : Opening) {J : List (String × StoryId)} {pending : List StoryId}
    {s : Server Ink.Shelf}, s.Settled J pending →
      Opens (J ++ o.installs (Ink.toolbox setup traceLimit author) s) pending
        ((o.act (Ink.toolbox setup traceLimit author)).on s)
  | .source source, J, pending, s, h => by
      rw [Opening.installs, List.append_nil]
      exact openSource_opens setup source h
  | .compiled text, J, pending, s, h => by
      rw [Opening.installs, List.append_nil]
      exact openCompiled_opens setup text h
  | .failing f, J, pending, s, h => by
      rw [Opening.installs, List.append_nil]
      exact h
  | .after first opening, J, pending, s, h => by
      have hfirst := first.settled h
      rw [Opening.installs, Opening.act, Act.on_bind]
      generalize (first.act (Ink.toolbox setup traceLimit author)).on s = run at hfirst
      obtain ⟨r, t⟩ := run
      cases r with
      | error f =>
          rw [List.append_nil]
          exact hfirst
      | ok u =>
          rw [← List.append_assoc]
          exact opening.settled hfirst
  | .trying first opening, J, pending, s, h => by
      have hfirst := first.settled h
      rw [Opening.installs, Opening.act, ← List.append_assoc]
      exact opening.settled hfirst
  | .handing opening last, J, pending, s, h => by
      have hopening := opening.settled h
      rw [Opening.installs, Opening.act, Act.on_bind]
      generalize (opening.act (Ink.toolbox setup traceLimit author)).on s = run at hopening
      obtain ⟨r, t⟩ := run
      cases r with
      | error f =>
          rw [List.append_nil]
          exact hopening
      | ok story =>
          rw [← List.append_assoc]
          exact last.settled hopening

/-- An operation leaves nothing in flight that was not before. -/
theorem Operation.settled : ∀ (op : Operation) {J : List (String × StoryId)}
    {pending : List StoryId} {s : Server Ink.Shelf}, s.Settled J pending →
      ((op.act (Ink.toolbox setup traceLimit author)).on s).2.Settled
        (J ++ op.installs (Ink.toolbox setup traceLimit author) s) pending
  | .create opening id source, J, pending, s, h => by
      obtain ⟨t, hroom, ht⟩ := Registry.makeRoom_settled setup id h
      have hcreate := create_settled setup traceLimit author source hroom (opening.settled ht)
      have hroom' : (Registry.makeRoom (Ink.toolbox setup traceLimit author).engine id).on s =
          (.ok (), t) := hroom
      rw [Operation.installs, Operation.act, hroom', ← List.append_assoc]
      exact settled_bind hcreate fun _ _ hu => hu
  | .endSession id, J, pending, s, h => by
      obtain ⟨b, t, ht, hsettled⟩ := Registry.endSession_settled setup id h
      rw [Operation.installs, List.append_nil, Operation.act, Ink.toolbox, Act.on_bind_of_ok ht]
      exact hsettled
  | .closeAll, J, pending, s, h => by
      obtain ⟨t, ht, hsettled⟩ := Registry.closeAll_settled setup h
      rw [Operation.installs, List.append_nil, Operation.act, Ink.toolbox, ht]
      exact hsettled
  | .call name arguments, J, pending, s, h => by
      rw [Operation.act]
      exact settled_bind (call_settled setup traceLimit author name arguments h) fun _ _ hu => hu

end

theorem run_settled : ∀ (ops : List Operation) {J : List (String × StoryId)}
    {s : Server Ink.Shelf}, s.Settled J [] →
      (Operation.run (Ink.toolbox setup traceLimit author) ops s).Settled
        (J ++ Operation.runInstalls (Ink.toolbox setup traceLimit author) ops s) []
  | [], J, s, h => by
      rw [Operation.runInstalls, List.append_nil]
      exact h
  | first :: rest, J, s, h => by
      rw [Operation.run, Operation.runInstalls, ← List.append_assoc]
      exact run_settled rest (first.settled setup traceLimit author h)

/-! ## What a settled server is like -/

theorem stories_of_settled (t : Server Ink.Shelf) :
    t.ledger.stories ++ [] = t.sessions.map (·.story) := by
  rw [List.append_nil, Ledger.stories, ledger, held, List.map_map]
  rfl

theorem count_sessions (t : Server Ink.Shelf) (n : StoryId) :
    t.sessions.countP (·.story == n) = (t.ledger.stories ++ []).count n := by
  rw [stories_of_settled, List.count, List.countP_map]
  rfl

theorem closings_of_story {t : Server Ink.Shelf} {n : StoryId} {story : Ink.Story}
    (hs : t.stage.engine.opened[n]? = some story) :
    t.ledger.closings[n]? = some story.closings := by
  rw [ledger, List.getElem?_map, hs]
  rfl

/-- A story that no session has was closed once. -/
theorem closed_once {t : Server Ink.Shelf} (h : t.Settled J []) {n : StoryId} {story : Ink.Story}
    (hs : t.stage.engine.opened[n]? = some story)
    (hnone : t.sessions.countP (·.story == n) = 0) : story.closings = 1 := by
  rw [count_sessions, List.count_eq_zero] at hnone
  exact Ledger.Owned.closed h n _ (closings_of_story hs) hnone

/-- A story is unclosed exactly when one session has it. -/
theorem unclosed_iff {t : Server Ink.Shelf} (h : t.Settled J []) {n : StoryId} {story : Ink.Story}
    (hs : t.stage.engine.opened[n]? = some story) :
    story.closed = false ↔ t.sessions.countP (·.story == n) = 1 := by
  constructor
  · intro hopen
    rw [count_sessions]
    rw [List.Nodup.count (Ledger.Owned.owners h), if_pos]
    refine Decidable.byContradiction fun hm => ?_
    have hzero := (count_sessions t n).trans (List.count_eq_zero.mpr hm)
    rw [Ink.Story.closed, closed_once h hs hzero] at hopen
    cases hopen
  · intro hone
    have hm : n ∈ t.ledger.stories ++ [] := by
      rw [← List.count_pos_iff, ← count_sessions, hone]
      exact Nat.one_pos
    have hzero := Ledger.Owned.unclosed h n hm
    rw [closings_of_story hs, Option.some.injEq] at hzero
    rw [Ink.Story.closed, hzero]
    rfl

/-- The story of a session is on the shelf, and was put last under its id. -/
theorem story_of_session {t : Server Ink.Shelf} (h : t.Settled J []) {session : Session}
    (hs : session ∈ t.sessions) : (∃ story, t.stage.engine.opened[session.story]? = some story) ∧
      latest J session.id = some session.story := by
  have hm : (session.id, session.story) ∈ t.ledger.held := List.mem_map_of_mem hs
  refine ⟨?_, Ledger.Owned.installed h _ hm⟩
  have hstory : session.story ∈ t.ledger.stories ++ [] :=
    stories_of_settled t ▸ List.mem_map_of_mem hs
  have hzero := Ledger.Owned.unclosed h session.story hstory
  rw [ledger, List.getElem?_map] at hzero
  obtain ⟨story, hstory, -⟩ := Option.map_eq_some_iff.mp hzero
  exact ⟨story, hstory⟩

/-- After any run from a server without sessions: a story that was opened is unclosed exactly
when one session has it, and was closed once when none has it; no two sessions have the same
id, and each has the story that was put last under its id.  A creation without an id takes
one that is not live, and closes no story for it. -/
theorem stories_owned (s : Server Ink.Shelf) (ops : List Operation) :
    let box := Ink.toolbox setup traceLimit author
    let t := Operation.run box ops s.fresh
    (∀ n story, t.stage.engine.opened[n]? = some story →
      (story.closed = false ↔ t.sessions.countP (·.story == n) = 1) ∧
      (t.sessions.countP (·.story == n) = 0 → story.closings = 1)) ∧
    (t.sessions.map (·.id)).Nodup ∧
    (∀ session ∈ t.sessions, (∃ story, t.stage.engine.opened[session.story]? = some story) ∧
      latest (Operation.runInstalls box ops s.fresh) session.id = some session.story) ∧
    ∀ (u : Server Ink.Shelf) (opening : Opening) (source : String), ∀ id ∈ [none, some ""],
      match (opening.act box).on u with
      | (.error f, v) =>
        (Registry.create box.engine (opening.act box) id source).on u = (.error f, v)
      | (.ok story, v) => ∃ name w,
        (Registry.create box.engine (opening.act box) id source).on u = (.ok name, w) ∧
        name ∉ v.sessions.map (·.id) ∧ w.stage.engine = v.stage.engine ∧
        w.sessions = v.sessions ++ [{ id := name, story, source }] := by
  intro box t
  have ht : t.Settled (Operation.runInstalls box ops s.fresh) [] := by
    have hrun := run_settled setup traceLimit author ops (s := s.fresh) Ledger.Owned.start
    rw [List.nil_append] at hrun
    exact hrun
  refine ⟨fun n story hs => ⟨unclosed_iff ht hs, closed_once ht hs⟩, ?_,
    fun session hs => story_of_session ht hs, fun u opening source id hid => ?_⟩
  · rw [← ledger_ids]
    exact Ledger.Owned.ids ht
  · have hgiven : Registry.givenId id = none := by
      rcases List.mem_cons.mp hid with rfl | hid
      · rfl
      · obtain rfl := List.mem_singleton.mp hid
        rfl
    have hnew := Registry.create_new box.engine (opening.act box) hgiven source u
    generalize (opening.act box).on u = run at hnew
    obtain ⟨r, v⟩ := run
    cases r with
    | error f => exact hnew
    | ok story => exact hnew

/-- The opening creates a session under the same id; that session is replaced, and its story
closed once. -/
example (s : Server Ink.Shelf) :
    let nested := Opening.after (.create (.source "A") (some "x") "A") (.source "B")
    let t := Operation.run (Ink.toolbox false none none) [.create nested (some "x") "B"] s.fresh
    t.held = [("x", 1)] ∧ t.stage.engine.opened.map (·.closings) = [1, 0] := ⟨rfl, rfl⟩

end Settling

end StoryServer
