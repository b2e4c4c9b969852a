import StoryServer.Proofs.Tool.Naming
import StoryServer.Proofs.Tool.Share

/-!
# Sessions do not interfere

A call *names* a session if its tool takes the id of a session and the call gives this one.
The answers to the calls that name a session, and what becomes of the session, depend on
these calls alone (`sessions_separate`), as long as every start is given its id: a new id is
one that is not live, so a start without an id looks at all sessions.

*Requests.*  A request of another session leaves the share of a session alone
(`request_beside`), and a request of the session itself depends on the share alone
(`request_twins`).

*Calls.*  A call is the request in its arguments.  Giving another id for the session changes
the request in the same way and nothing else (`Request.read_named`), so that two sessions,
perhaps of two servers, can be compared by calls that differ in the id only.

*Runs.*  `replies_own` puts a run of calls beside the calls of it that name one session.  It
goes by induction on the run, in which the two runs have the same share of the session.
-/

namespace StoryServer

/-! ## Requests of a session -/

/-- Whether a request that starts a story is given an id for it. -/
def Request.given : Request → Bool
  | .startStory _ id => (Registry.givenId id).isSome
  | .startStoryJson _ id _ => (Registry.givenId id).isSome
  | .generateCompilePlay _ => false
  | _ => true

section Requests

open Server Registry

variable (setup : Ink.Setup) (traceLimit : Option Int) (author : Option Author.Settings)
variable {s t : Server Ink.Shelf} {a b : String} {r : Request}

theorem givenId_some {id : Option String} {c : String} (h : givenId id = some c) : id = some c :=
  (Option.filter_eq_some_iff.mp h).1

/-- What a start answers and leaves, when it is given its id. -/
theorem start_share {begun : Except Fault Ink.Story} {openStory : Act (Stage Ink.Shelf) StoryId}
    (ho : Ink.Opens begun openStory) {id : Option String} {c : String} (hid : givenId id = some c)
    (source : String) (state : Option String) (hs : s.Orderly) :
    let run := (do
      let (id, told) ← (Ink.toolbox setup traceLimit author).startFrom openStory id source state
      return told.toJson id : Act (Server Ink.Shelf) Json).on s
    run.1 = ((s.share c).restarted traceLimit begun state).1.map (·.toJson c) ∧
    run.2.share c = ((s.share c).restarted traceLimit begun state).2 ∧
    ∀ a ≠ c, run.2.share a = s.share a := by
  obtain ⟨res, u, hu, hstarted⟩ := Toolbox.startFrom_started setup traceLimit author ho id source
    state hs.shelved
  obtain ⟨hres, hself, hothers⟩ := Started.share hstarted hs hid
  rw [Act.on_bind, hu, hres]
  generalize ((s.share c).restarted traceLimit begun state).1 = told
  cases told with
  | error f => exact ⟨rfl, hself, hothers⟩
  | ok told => exact ⟨rfl, hself, hothers⟩

theorem end_share (c : String) (hs : s.Orderly) :
    let run := ((Ink.toolbox setup traceLimit author).answer (.endSession c)).on s
    run.1 = .ok (.obj [("ok", .bool true), ("session_id", .str c),
      ("ended", .bool (s.share c).live.isSome)]) ∧
    run.2.share c = { s.share c with live := none } ∧ ∀ a ≠ c, run.2.share a = s.share a := by
  obtain ⟨u, hu, htables⟩ := endSession_tables setup c fun session hsession =>
    hs.shelved session (List.mem_of_find?_eq_some hsession)
  have hended : (s.sessions.find? (·.id == c)).isSome = (s.share c).live.isSome := by
    cases hx : s.sessions.find? (·.id == c) with
    | none => rw [share_absent hx]; rfl
    | some x =>
        obtain ⟨story, -, hlive⟩ := Comparison.live_story hs.shelved hx
        rw [hlive]
        rfl
  have hrun : ((Ink.toolbox setup traceLimit author).answer (.endSession c)).on s =
      (.ok (.obj [("ok", .bool true), ("session_id", .str c),
        ("ended", .bool (s.sessions.find? (·.id == c)).isSome)]), u) := Act.on_bind_of_ok hu
  obtain ⟨hself, hothers⟩ := share_ended hs c
  rw [← htables] at hself hothers
  rw [hrun, hended]
  exact ⟨rfl, hself, hothers⟩

/-- A request of another session leaves the share of a session alone. -/
theorem request_beside (hs : s.Orderly) (hgiven : r.given = true) (hne : r.target ≠ some a) :
    (((Ink.toolbox setup traceLimit author).answer r).on s).2.share a = s.share a := by
  have hstart : ∀ {begun : Except Fault Ink.Story} {openStory : Act (Stage Ink.Shelf) StoryId},
      Ink.Opens begun openStory → ∀ {id : Option String} (source : String) (state : Option String),
      (givenId id).isSome = true → id ≠ some a → ((do
        let (id, told) ← (Ink.toolbox setup traceLimit author).startFrom openStory id source state
        return told.toJson id : Act (Server Ink.Shelf) Json).on s).2.share a = s.share a := by
    intro begun openStory ho id source state hgiven hne
    obtain ⟨c, hc⟩ := Option.isSome_iff_exists.mp hgiven
    obtain ⟨-, -, hothers⟩ := start_share setup traceLimit author ho hc source state hs
    exact hothers a fun h => hne (h ▸ givenId_some hc)
  cases hr : r.isAside with
  | true =>
      have htarget : r.target = r.session? := by cases r <;> first | rfl | cases hr
      rw [htarget] at hne
      cases hid : r.session? with
      | none =>
          exact congrArg (Tables.share a)
            (Toolbox.answer_tables setup traceLimit author hid hr s)
      | some c =>
          exact Toolbox.answer_beside setup traceLimit author hs (fun h => hne (h ▸ hid)) hid hr
  | false =>
      cases r with
      | startStory source id => exact hstart (Ink.opens_source setup source) source none hgiven hne
      | startStoryJson json id state =>
          exact hstart (Ink.opens_compiled setup json) "" state hgiven hne
      | endSession id =>
          exact (end_share setup traceLimit author id hs).2.2 a fun h => hne (h ▸ rfl)
      | generateCompilePlay => cases hgiven
      | _ => cases hr

/-- A request of a session depends on the share of the session alone. -/
theorem request_twins {debugging : Bool} {saved : Json → Json → Prop} (hv : ∀ v, saved v v)
    (hs : s.Orderly) (ht : t.Orderly) (h : (s.share a).Like debugging saved (t.share b))
    (hid : r.target = some a) (hgiven : r.given = true) (hgiven' : (r.named b).given = true)
    (hd : r.recalls = true → debugging = true) :
    let run := ((Ink.toolbox setup traceLimit author).answer r).on s
    let run' := ((Ink.toolbox setup traceLimit author).answer (r.named b)).on t
    Act.Related (Fault.Alike a b) (fun v w => (r.untimed v).Alike a b (r.untimed w)) run.1 run'.1 ∧
      (run.2.share a).Like debugging saved (run'.2.share b) := by
  have htold : ∀ told : Continuation, (told.toJson a).Alike a b (told.toJson b) :=
    fun told => ⟨rfl, fun h => by rw [h]⟩
  have hrestarted : ∀ (begun : Except Fault Ink.Story) (state : Option String),
      ((s.share a).restarted traceLimit begun state).1 =
        ((t.share b).restarted traceLimit begun state).1 ∧
      (((s.share a).restarted traceLimit begun state).2).Like debugging saved
        ((t.share b).restarted traceLimit begun state).2 := by
    intro begun state
    have hrecord : debugging = true → (if traceLimit.isSome then none else (s.share a).record) =
        if traceLimit.isSome then none else (t.share b).record := fun hd => by rw [h.record hd]
    cases begun with
    | error f => exact ⟨rfl, trivial, h.record⟩
    | ok story =>
        rw [Share.restarted, Share.restarted]
        generalize (Ink.Story.resume state).on story = run
        obtain ⟨res, told⟩ := run
        cases res with
        | error f => exact ⟨rfl, trivial, hrecord⟩
        | ok c => exact ⟨rfl, ⟨rfl, hv _⟩, hrecord⟩
  have hstart : ∀ {begun : Except Fault Ink.Story} {openStory : Act (Stage Ink.Shelf) StoryId},
      Ink.Opens begun openStory → ∀ (source : String) (state : Option String),
      (givenId (some a)).isSome = true → (givenId (some b)).isSome = true →
      let run (id : String) (s : Server Ink.Shelf) := (do
        let (id, told) ← (Ink.toolbox setup traceLimit author).startFrom openStory (some id) source
          state
        return told.toJson id : Act (Server Ink.Shelf) Json).on s
      Act.Related (Fault.Alike a b) (Json.Alike a b) (run a s).1 (run b t).1 ∧
        ((run a s).2.share a).Like debugging saved ((run b t).2.share b) := by
    intro begun openStory ho source state hgiven hgiven'
    have hsome : ∀ {id : String}, (givenId (some id)).isSome = true → givenId (some id) = some id := by
      intro id h
      obtain ⟨c, hc⟩ := Option.isSome_iff_exists.mp h
      rw [hc, ← givenId_some hc]
    have hga := hsome hgiven
    have hgb := hsome hgiven'
    obtain ⟨hres, hself, -⟩ := start_share setup traceLimit author ho hga source state hs
    obtain ⟨hres', hself', -⟩ := start_share setup traceLimit author ho hgb source state ht
    obtain ⟨hsame, hlike⟩ := hrestarted begun state
    dsimp only
    rw [hres, hres', hself, hself', hsame]
    refine ⟨?_, hlike⟩
    cases ((t.share b).restarted traceLimit begun state).1 with
    | error f => exact Fault.alike_refl f
    | ok told => exact htold told
  cases hr : r.isAside with
  | true =>
      have htarget : r.target = r.session? := by cases r <;> first | rfl | cases hr
      exact Toolbox.answer_twins setup traceLimit author hv hs.shelved ht.shelved h
        (htarget ▸ hid) hr hd
  | false =>
      cases r with
      | startStory source id =>
          obtain rfl : id = some a := hid
          exact hstart (Ink.opens_source setup source) source none hgiven hgiven'
      | startStoryJson json id state =>
          obtain rfl : id = some a := hid
          exact hstart (Ink.opens_compiled setup json) "" state hgiven hgiven'
      | endSession id =>
          obtain rfl := Option.some.inj hid
          obtain ⟨hres, hself, -⟩ := end_share setup traceLimit author id hs
          obtain ⟨hres', hself', -⟩ := end_share setup traceLimit author b ht
          have hended : (s.share id).live.isSome = (t.share b).live.isSome := by
            have hlive := h.live
            revert hlive
            cases (s.share id).live <;> cases (t.share b).live <;> simp
          dsimp only [Request.named]
          rw [hres, hres', hself, hself', hended]
          exact ⟨⟨rfl, fun h => by rw [h]⟩, trivial, h.record⟩
      | generateCompilePlay => cases hgiven
      | _ => cases hr

/-- A request of a session is itself with the id of this session. -/
theorem named_target (hid : r.target = some a) : r.named a = r := by
  cases r <;> first | rfl | (cases hid; rfl)

end Requests

/-! ## Calls -/

/-- A call of a tool. -/
structure ToolCall where
  name : String
  arguments : Json
  deriving DecidableEq, Repr

/-- The call with another id for its session. -/
def ToolCall.named (id : String) (c : ToolCall) : ToolCall where
  name := c.name
  arguments :=
    match Toolbox.argumentsOf c.arguments with
    | .obj fields => .obj (Fields.put fields "session_id" (.str id))
    | v => v

/-- What a call says. -/
inductive Reply where
  /-- No tool has the name. -/
  | unknown (name : String)
  | answered (r : Except Fault Json)
  deriving DecidableEq, Repr

namespace Reply

/-- What is said, as a client sees it. -/
def result : Reply → Except Fault ToolResult
  | .unknown name => .ok { text := s!"Unknown tool: {name}", isError := true }
  | .answered r => ToolResult.made (r.bind Toolbox.resultText)

/-- What is said of another session. -/
def named (id : String) : Reply → Reply
  | .unknown name => .unknown name
  | .answered (.ok v) => .answered (.ok (v.named id))
  | .answered (.error f) => .answered (.error (f.named id))

end Reply

namespace Toolbox

variable {ε : Type} (box : Toolbox ε)

/-- Whether a call names a session. -/
def names (id : String) (c : ToolCall) : Bool :=
  match box.find? c.name with
  | none => false
  | some tool =>
    tool.takesSession && (argumentsOf c.arguments).get? "session_id" == some (.str id)

/-- What a call says, as `see` shows the answers to its request. -/
def reply (see : Request → Json → Json) (c : ToolCall) (s : Server ε) : Reply :=
  match box.find? c.name with
  | none => .unknown c.name
  | some tool =>
    match Request.ofJson (argumentsOf c.arguments) tool with
    | .error f => .answered (.error f)
    | .ok r => .answered (((box.answer r).on s).1.map (see r))

/-- The server after a call. -/
def after (c : ToolCall) (s : Server ε) : Server ε := ((box.call c.name c.arguments).on s).2

/-- The server after some calls. -/
def serve : List ToolCall → Server ε → Server ε
  | [], s => s
  | c :: rest, s => serve rest (box.after c s)

/-- What is said to those calls that name a session, without the times in traces. -/
def replies (id : String) : List ToolCall → Server ε → List Reply
  | [], _ => []
  | c :: rest, s =>
    if box.names id c then box.reply Request.untimed c s :: replies id rest (box.after c s)
    else replies id rest (box.after c s)

/-- A client sees what a call says. -/
theorem call_reply (c : ToolCall) (s : Server ε) :
    ((box.call c.name c.arguments).on s).1 = (box.reply (fun _ v => v) c s).result := by
  rw [reply]
  cases hfind : box.find? c.name with
  | none => rw [box.call_unknown hfind, Reply.result]
  | some tool =>
      obtain ⟨log, hcall⟩ := box.call_known hfind s
      rw [hcall]
      dsimp only
      cases hread : Request.ofJson (argumentsOf c.arguments) tool with
      | error f => rw [box.perform_refused hread, Reply.result, Except.bind]
      | ok r =>
          dsimp only
          rw [box.perform_read hread, Reply.result]
          cases ((box.answer r).on s).1 <;> rfl

/-- A call leaves what its request leaves, the log apart. -/
theorem after_tables (box : Toolbox Ink.Shelf) (c : ToolCall) (s : Server Ink.Shelf) :
    (box.after c s).tables =
      match box.requested c.name c.arguments with
      | none => s.tables
      | some r => ((box.answer r).on s).2.tables := by
  rw [after, requested]
  cases hfind : box.find? c.name with
  | none => rw [box.call_unknown hfind, Option.bind_none]
  | some tool =>
      obtain ⟨log, hcall⟩ := box.call_known hfind s
      rw [hcall, Option.bind_some]
      cases hread : Request.ofJson (argumentsOf c.arguments) tool with
      | error f =>
          rw [box.perform_refused hread]
          rfl
      | ok r =>
          rw [box.perform_read hread]
          rfl

theorem reply_refused {box : Toolbox Ink.Shelf} {c : ToolCall} {tool : Tool} {f : Fault}
    (htool : box.find? c.name = some tool)
    (hread : Request.ofJson (argumentsOf c.arguments) tool = .error f)
    (see : Request → Json → Json) (s : Server Ink.Shelf) :
    box.reply see c s = .answered (.error f) ∧ (box.after c s).tables = s.tables := by
  have hrequested : box.requested c.name c.arguments = none := by
    rw [requested, htool, Option.bind_some, hread]
    rfl
  refine ⟨?_, by rw [after_tables, hrequested]⟩
  rw [reply, htool]
  dsimp only
  rw [hread]

theorem reply_made {box : Toolbox Ink.Shelf} {c : ToolCall} {tool : Tool} {r : Request}
    (htool : box.find? c.name = some tool)
    (hread : Request.ofJson (argumentsOf c.arguments) tool = .ok r)
    (see : Request → Json → Json) (s : Server Ink.Shelf) :
    box.requested c.name c.arguments = some r ∧
    box.reply see c s = .answered (((box.answer r).on s).1.map (see r)) ∧
    (box.after c s).tables = ((box.answer r).on s).2.tables := by
  have hrequested : box.requested c.name c.arguments = some r := by
    rw [requested, htool, Option.bind_some, hread]
    rfl
  refine ⟨hrequested, ?_, by rw [after_tables, hrequested]⟩
  rw [reply, htool]
  dsimp only
  rw [hread]

end Toolbox

/-! ## Runs -/

section Runs

open Server

variable (setup : Ink.Setup) (traceLimit : Option Int) (author : Option Author.Settings)
variable {s t : Server Ink.Shelf} {a b : String} {c : ToolCall}

theorem Server.Orderly.after (hs : s.Orderly) (c : ToolCall) :
    ((Ink.toolbox setup traceLimit author).after c s).Orderly := by
  obtain ⟨J, hJ⟩ := hs
  exact ⟨_, call_settled setup traceLimit author c.name c.arguments hJ⟩

/-- A request is made with the tool that has the name. -/
theorem Toolbox.requested_tool {box : Toolbox Ink.Shelf} {r : Request}
    (h : box.requested c.name c.arguments = some r) : ∃ tool, box.find? c.name = some tool ∧
      Request.ofJson (Toolbox.argumentsOf c.arguments) tool = .ok r := by
  rw [Toolbox.requested] at h
  obtain ⟨tool, htool, hr⟩ := Option.bind_eq_some_iff.mp h
  refine ⟨tool, htool, ?_⟩
  cases hread : Request.ofJson (Toolbox.argumentsOf c.arguments) tool with
  | error f => rw [hread] at hr; cases hr
  | ok q => rw [hread] at hr; rw [Option.some.inj hr]

/-- The request of a call names the session that the call names. -/
theorem names_of_target {box : Toolbox Ink.Shelf} {r : Request}
    (hr : box.requested c.name c.arguments = some r) (ha : r.target = some a) :
    box.names a c = true := by
  obtain ⟨tool, htool, hread⟩ := Toolbox.requested_tool hr
  rcases Request.ofJson_ok hread with ⟨fields, harguments, hread⟩ | rfl | ⟨rfl, -⟩
  · obtain ⟨htakes, hsession⟩ := Request.read_target r hread a ha
    have hget : (Json.obj fields).get? "session_id" = some (.str a) := hsession
    rw [Toolbox.names, htool, harguments]
    simp only [htakes, hget, beq_self_eq_true, Bool.and_self]
  · cases ha
  · cases ha

theorem after_beside (hs : s.Orderly)
    (hgiven : ∀ r, (Ink.toolbox setup traceLimit author).requested c.name c.arguments = some r →
      r.given = true)
    (hne : (Ink.toolbox setup traceLimit author).names a c = false) :
    ((Ink.toolbox setup traceLimit author).after c s).share a = s.share a := by
  rw [Server.share, Toolbox.after_tables]
  cases hr : (Ink.toolbox setup traceLimit author).requested c.name c.arguments with
  | none => rfl
  | some r =>
      refine request_beside setup traceLimit author hs (hgiven r hr) fun ha => ?_
      rw [names_of_target hr ha] at hne
      cases hne

theorem arguments_named {fields : Fields} (h : Toolbox.argumentsOf c.arguments = .obj fields)
    (b : String) :
    Toolbox.argumentsOf (c.named b).arguments = .obj (Fields.put fields "session_id" (.str b)) := by
  have htruthy : (Json.obj (Fields.put fields "session_id" (.str b))).truthy = true := by
    cases fields with
    | nil => rfl
    | cons p rest =>
        rw [Fields.put]
        split <;> rfl
  rw [ToolCall.named, h]
  exact if_pos htruthy

/-- A call with another id makes its request of the other session. -/
theorem requested_named {tool : Tool} (htakes : tool.takesSession = true)
    (hsession : (Toolbox.argumentsOf c.arguments).get? "session_id" = some (.str a)) (b : String) :
    Request.ofJson (Toolbox.argumentsOf (c.named b).arguments) tool =
      (Request.ofJson (Toolbox.argumentsOf c.arguments) tool).map (·.named b) ∧
    ∀ r, Request.ofJson (Toolbox.argumentsOf c.arguments) tool = .ok r → r.target = some a := by
  cases harguments : Toolbox.argumentsOf c.arguments with
  | obj fields =>
      rw [harguments] at hsession
      rw [arguments_named harguments b, Request.ofJson_obj, Request.ofJson_obj,
        Request.read_named b htakes hsession]
      refine ⟨by cases Request.read fields tool <;> rfl, fun r hr => ?_⟩
      refine Request.read_names htakes hsession r ?_
      cases hread : Request.read fields tool with
      | error d => rw [hread] at hr; cases hr
      | ok q => rw [hread] at hr; rw [Except.ok.inj hr]
  | _ => rw [harguments] at hsession; cases hsession

theorem names_named {box : Toolbox Ink.Shelf} (h : box.names a c = true) (b : String) :
    box.names b (c.named b) = true := by
  rw [Toolbox.names] at h ⊢
  have hname : (c.named b).name = c.name := rfl
  rw [hname]
  cases htool : box.find? c.name with
  | none => rw [htool] at h; cases h
  | some tool =>
      rw [htool] at h
      obtain ⟨htakes, hsession⟩ : tool.takesSession = true ∧
          (Toolbox.argumentsOf c.arguments).get? "session_id" = some (.str a) := by
        simpa using h
      obtain ⟨fields, harguments⟩ : ∃ fields, Toolbox.argumentsOf c.arguments = .obj fields := by
        cases harguments : Toolbox.argumentsOf c.arguments with
        | obj fields => exact ⟨fields, rfl⟩
        | _ => rw [harguments] at hsession; cases hsession
      have hget : (Json.obj (Fields.put fields "session_id" (.str b))).get? "session_id" =
          some (.str b) := Fields.get?_put_self _ _ _
      simp only [htakes, arguments_named harguments b, hget, beq_self_eq_true, Bool.and_self]

/-- What two replies have in common that differ in the session they name, if in anything. -/
def Reply.Alike (a b : String) (x y : Reply) : Prop := x.named b = y.named b ∧ (a = b → x = y)

theorem Reply.alike_of_related {see : Json → Json} {r r' : Except Fault Json}
    (h : Act.Related (Fault.Alike a b) (fun v w => (see v).Alike a b (see w)) r r') :
    Reply.Alike a b (.answered (r.map see)) (.answered (r'.map see)) := by
  cases r with
  | error f =>
      cases r' with
      | error g =>
          exact ⟨congrArg (Reply.answered ∘ Except.error) h.1,
            fun hab => congrArg (Reply.answered ∘ Except.error) (h.2 hab)⟩
      | ok w => exact h.elim
  | ok v =>
      cases r' with
      | error g => exact h.elim
      | ok w =>
          exact ⟨congrArg (Reply.answered ∘ Except.ok) h.1,
            fun hab => congrArg (Reply.answered ∘ Except.ok) (h.2 hab)⟩

/-- The request of a call that names a session is one of this session. -/
theorem target_of_names {box : Toolbox Ink.Shelf} {r : Request} (h : box.names a c = true)
    (hr : box.requested c.name c.arguments = some r) : r.target = some a := by
  obtain ⟨tool, htool, hread⟩ := Toolbox.requested_tool hr
  rw [Toolbox.names, htool] at h
  obtain ⟨htakes, hsession⟩ : tool.takesSession = true ∧
      (Toolbox.argumentsOf c.arguments).get? "session_id" = some (.str a) := by
    simpa using h
  exact (requested_named htakes hsession a).2 r hread

/-- Calls that name two sessions that are alike, and are the same but for that. -/
theorem after_twins {debugging : Bool} {saved : Json → Json → Prop} (hv : ∀ v, saved v v)
    (hs : s.Orderly) (ht : t.Orderly) (h : (s.share a).Like debugging saved (t.share b))
    (hgiven : ∀ r, (Ink.toolbox setup traceLimit author).requested c.name c.arguments = some r →
      r.given = true ∧ (r.named b).given = true ∧ (r.recalls = true → debugging = true))
    (hnames : (Ink.toolbox setup traceLimit author).names a c = true) :
    let box := Ink.toolbox setup traceLimit author
    Reply.Alike a b (box.reply Request.untimed c s) (box.reply Request.untimed (c.named b) t) ∧
      ((box.after c s).share a).Like debugging saved ((box.after (c.named b) t).share b) := by
  dsimp only
  rw [Toolbox.names] at hnames
  cases htool : (Ink.toolbox setup traceLimit author).find? c.name with
  | none => rw [htool] at hnames; cases hnames
  | some tool =>
      rw [htool] at hnames
      obtain ⟨htakes, hsession⟩ : tool.takesSession = true ∧
          (Toolbox.argumentsOf c.arguments).get? "session_id" = some (.str a) := by
        simpa using hnames
      obtain ⟨hnamed, htarget⟩ := requested_named htakes hsession b
      have htool' : (Ink.toolbox setup traceLimit author).find? (c.named b).name = some tool := htool
      cases hread : Request.ofJson (Toolbox.argumentsOf c.arguments) tool with
      | error f =>
          rw [hread] at hnamed
          obtain ⟨hreply, htables⟩ := Toolbox.reply_refused htool hread Request.untimed s
          obtain ⟨hreply', htables'⟩ := Toolbox.reply_refused htool' hnamed Request.untimed t
          rw [hreply, hreply', Server.share, Server.share, htables, htables']
          exact ⟨⟨rfl, fun _ => rfl⟩, h⟩
      | ok r =>
          rw [hread] at hnamed
          obtain ⟨hrequested, hreply, htables⟩ :=
            Toolbox.reply_made htool hread Request.untimed s
          obtain ⟨-, hreply', htables'⟩ := Toolbox.reply_made htool' hnamed Request.untimed t
          have huntimed : (r.named b).untimed = r.untimed := by cases r <;> rfl
          obtain ⟨hgiven, hgiven', hd⟩ := hgiven r hrequested
          obtain ⟨hrelated, hlike⟩ := request_twins setup traceLimit author hv hs ht h
            (htarget r hread) hgiven hgiven' hd
          rw [hreply, hreply', Server.share, Server.share, htables, htables', huntimed]
          exact ⟨Reply.alike_of_related hrelated, hlike⟩

/-- A call that names a session is itself with the id of this session. -/
theorem named_self {box : Toolbox Ink.Shelf} (h : box.names a c = true) : c.named a = c := by
  rw [Toolbox.names] at h
  cases htool : box.find? c.name with
  | none => rw [htool] at h; cases h
  | some tool =>
      rw [htool] at h
      obtain ⟨-, hsession⟩ : tool.takesSession = true ∧
          (Toolbox.argumentsOf c.arguments).get? "session_id" = some (.str a) := by
        simpa using h
      have hput : ∀ fields : Fields, fields.get? "session_id" = some (.str a) →
          fields.put "session_id" (.str a) = fields := by
        intro fields
        induction fields with
        | nil => intro h; cases h
        | cons p rest ih =>
            obtain ⟨k, v⟩ := p
            intro h
            rw [Fields.put]
            by_cases hk : k = "session_id"
            · have hv : v = .str a := by simpa [Fields.get?, hk] using h
              rw [if_pos (beq_iff_eq.mpr hk), hv]
            · have hrest : Fields.get? rest "session_id" = some (.str a) := by
                simpa [Fields.get?, hk] using h
              rw [if_neg (by simpa using hk), ih hrest]
      have hown : Toolbox.argumentsOf c.arguments = c.arguments := by
        rw [Toolbox.argumentsOf] at hsession ⊢
        split at hsession
        · next htruthy => rw [if_pos htruthy]
        · cases hsession
      rw [hown] at hsession
      obtain ⟨name, arguments⟩ := c
      rw [ToolCall.named, hown]
      cases arguments with
      | obj fields => exact congrArg (ToolCall.mk name ∘ Json.obj) (hput fields hsession)
      | _ => cases hsession

/-- A run beside those calls of it that name one session. -/
theorem replies_own : ∀ (calls : List ToolCall) {s t : Server Ink.Shelf}, s.Orderly → t.Orderly →
    s.share a = t.share a →
    (∀ c ∈ calls, ((Ink.toolbox setup traceLimit author).requested c.name c.arguments).all
      Request.given = true) →
    let box := Ink.toolbox setup traceLimit author
    let own := calls.filter (box.names a)
    box.replies a calls s = box.replies a own t ∧
      (box.serve calls s).share a = (box.serve own t).share a
  | [], _, _, _, _, h, _ => ⟨rfl, h⟩
  | c :: rest, s, t, hs, ht, h, hgiven => by
      have hrest := fun d hd => hgiven d (List.mem_cons_of_mem c hd)
      have hfirst : ∀ r, (Ink.toolbox setup traceLimit author).requested c.name c.arguments = some r →
          r.given = true := by
        intro r hr
        have hall := hgiven c List.mem_cons_self
        rwa [hr] at hall
      dsimp only
      cases hnames : (Ink.toolbox setup traceLimit author).names a c with
      | false =>
          have hbeside := after_beside setup traceLimit author hs hfirst hnames
          rw [List.filter_cons_of_neg (by simp [hnames]), Toolbox.replies, hnames]
          exact replies_own rest (hs.after setup traceLimit author c) ht (hbeside.trans h) hrest
      | true =>
          have hlike : (s.share a).Like true (· = ·) (t.share a) :=
            h ▸ Share.like_refl (fun _ => rfl) _
          obtain ⟨hreply, hafter⟩ := after_twins setup traceLimit author (fun _ => rfl) hs ht hlike
            (fun r hr => ⟨hfirst r hr, (named_target (target_of_names hnames hr)).symm ▸ hfirst r hr,
              fun _ => rfl⟩) hnames
          rw [named_self hnames] at hreply hafter
          obtain ⟨hreplies, hlast⟩ := replies_own rest (hs.after setup traceLimit author c)
            (ht.after setup traceLimit author c) (Share.eq_of_like hafter) hrest
          rw [List.filter_cons_of_pos hnames, Toolbox.replies, hnames, Toolbox.replies, hnames]
          exact ⟨congrArg₂ List.cons (hreply.2 rfl) hreplies, hlast⟩

/-- **Sessions do not interfere.**  On a server as any operations leave it: the answers to the
calls of a run that name a session, the times in traces apart, and what the server has of the
session at the end are the same as in the run of these calls alone. -/
theorem sessions_separate (ops : List Operation) (s : Server Ink.Shelf) (calls : List ToolCall)
    (id : String) (hgiven : ∀ c ∈ calls,
      ((Ink.toolbox setup traceLimit author).requested c.name c.arguments).all Request.given = true) :
    let box := Ink.toolbox setup traceLimit author
    let t := Operation.run box ops s.fresh
    let own := calls.filter (box.names id)
    box.replies id calls t = box.replies id own t ∧
      (box.serve calls t).share id = (box.serve own t).share id := by
  intro box t own
  have ht : t.Orderly := by
    have hrun := run_settled setup traceLimit author ops (s := s.fresh) Ledger.Owned.start
    exact ⟨_, hrun⟩
  exact replies_own setup traceLimit author calls ht ht rfl hgiven

/-- Another session is started, changed, debugged and ended in between. -/
theorem sessions_separate_apart :
    let box := Ink.toolbox false (some 9) none
    let call (name id : String) (more : Fields) : ToolCall :=
      ⟨name, .obj (("session_id", .str id) :: more)⟩
    let source := "VAR x = 1\nA\n* [go] -> K\n=== K ===\nB\n-> END"
    let calls := [
      call "start_story" "a" [("source", .str source)],
      call "start_story" "b" [("source", .str source)],
      call "start_debug" "a" [], call "start_debug" "b" [],
      call "set_variable" "b" [("name", .str "x"), ("value", .int 5)],
      call "choose" "b" [("choice_index", .int 0), ("auto_continue", .bool false)],
      call "debug_step" "b" [], call "end_session" "b" [],
      call "get_variable" "a" [("name", .str "x")],
      call "choose" "a" [("choice_index", .int 0), ("auto_continue", .bool false)],
      call "debug_step" "a" []]
    (∀ c ∈ calls, (box.requested c.name c.arguments).all Request.given = true) ∧
    box.replies "a" calls Ink.idle = box.replies "a" (calls.filter (box.names "a")) Ink.idle ∧
    (box.serve calls Ink.idle).share "a" =
      (box.serve (calls.filter (box.names "a")) Ink.idle).share "a" := by
  intro box call source calls
  have hgiven : ∀ c ∈ calls, (box.requested c.name c.arguments).all Request.given = true := by
    decide +kernel
  exact ⟨hgiven, sessions_separate false (some 9) none [] Ink.idle calls "a" hgiven⟩

end Runs

end StoryServer
