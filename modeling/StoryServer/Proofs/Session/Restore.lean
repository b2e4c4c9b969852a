import StoryServer.Proofs.Ink.Saved
import StoryServer.Proofs.Session.Shelves

/-!
# Saved sessions are restored

What `save_state` says of a session is enough to go on from it, in the same session, in
another one of the same source, or in a new one (`saved_session_restored`), as long as all its
variables have texts for names.

*Soundness.*  Every story on the shelf is sound after any calls (`sound_serve`), so what a live
session saves is restored exactly.

*Twins.*  Two sessions with the same story answer the same calls alike from then on
(`twins_of_stories`), those that look at a debug record once the two have had the same one.
-/

namespace StoryServer

open Server Registry

/-! ## The values that a request sets -/

namespace Request

open Argument

theorem distinct_of_scalar {fields : Fields} {key : String} {v : Json}
    (h : scalar fields key = .ok v) : v.Distinct := by
  rw [scalar] at h
  split at h
  · cases h
  · cases h
  · cases h
  · next w harr hobj _ =>
    obtain rfl := Except.ok.inj h
    cases w with
    | arr items => exact absurd rfl (harr items)
    | obj members => exact absurd rfl (hobj members)
    | _ => trivial

/-- A variable is set to no array and no object. -/
theorem read_sets {fields : Fields} {tool : Tool} :
    Reads (fun r => r.Sets Json.Distinct) (read fields tool) := by
  cases tool <;> unfold read <;>
    repeat first
      | exact reads_pure trivial
      | exact reads_pure (distinct_of_scalar ‹_›)
      | refine reads_bind fun _ _ => ?_

theorem sets_of_requested {box : Toolbox Ink.Shelf} {c : ToolCall} {r : Request}
    (h : box.requested c.name c.arguments = some r) : r.Sets Json.Distinct := by
  obtain ⟨tool, -, hread⟩ := Toolbox.requested_tool h
  rcases Request.ofJson_ok hread with ⟨fields, -, hread⟩ | rfl | ⟨rfl, -⟩
  · exact read_sets r hread
  · trivial
  · trivial

end Request

/-! ## Sound shelves -/

/-- Every story on the shelf can be told from its saved state. -/
def Server.Sound (s : Server Ink.Shelf) : Prop := ∀ story ∈ s.stage.engine.opened, story.Sound

theorem Server.Sound.of_tables {s t : Server Ink.Shelf} (h : s.Sound) (ht : t.tables = s.tables) :
    t.Sound := Shelves.of_tables h ht

section Restore

variable (setup : Ink.Setup) (traceLimit : Option Int) (author : Option Author.Settings)
variable {s t u : Server Ink.Shelf} {c : ToolCall} {r : Request} {a b : String} {story : Ink.Story}

theorem Ink.sound_close (story : Ink.Story) (h : story.Sound) : story.close.Sound :=
  ⟨h.declared, h.bindings, h.cursor, h.offers⟩

theorem Ink.sound_storyOf {source : String} (h : Ink.storyOf source = .ok story) : story.Sound := by
  rw [storyOf] at h
  split at h
  · cases h
  · next hparse =>
    split at h
    · exact Except.ok.inj h ▸ Story.sound_start (Program.sound_parse hparse)
    · cases h

theorem Ink.sound_storyOfCompiled {text : String} (h : Ink.storyOfCompiled text = .ok story) :
    story.Sound := by
  unfold storyOfCompiled at h
  split at h
  · cases h
  · exact sound_storyOf h
  · cases h

theorem Ink.sound_resume (state : Option String) (h : story.Sound) :
    ((Ink.Story.resume state).on story).2.Sound := by
  have hall : Act.Yields Ink.Story.Sound (fun _ => True) (Ink.Story.resume state) := by
    cases state with
    | none => exact Ink.Story.yields_continueStory
    | some state =>
        exact Act.yields_bind (Ink.Story.yields_loadState state) fun _ _ => Ink.Story.yields_continueStory
  exact (hall story h).1

variable {setup traceLimit author} in
theorem Comes.sound {o : Outset} (h : Comes setup traceLimit author s r o u)
    (hb : o.begun = .ok story) : story.Sound := by
  cases h with
  | source => exact Ink.sound_storyOf hb
  | compiled => exact Ink.sound_storyOfCompiled hb
  | generated => exact Ink.sound_storyOf hb

/-- A live session, its story and what it saved last. -/
theorem session_of_live {v : Json} (h : (s.share a).live = some (story, v)) :
    ∃ x, s.sessions.find? (·.id == a) = some x ∧ s.stage.engine.opened[x.story]? = some story ∧
      x.saved = v := by
  obtain ⟨x, hx, hstory⟩ := Option.bind_eq_some_iff.mp h
  obtain ⟨told, htold, heq⟩ := Option.map_eq_some_iff.mp hstory
  obtain ⟨rfl, rfl⟩ := Prod.mk.inj heq
  exact ⟨x, hx, htold, rfl⟩

theorem Server.Sound.live (h : s.Sound) {v : Json} (hlive : (s.share a).live = some (story, v)) :
    story.Sound := by
  obtain ⟨x, -, hstory, -⟩ := session_of_live hlive
  exact h story (List.mem_of_getElem? hstory)

/-- A request that neither starts nor ends a session changes one story at most. -/
theorem answer_sound (hs : s.Orderly) (h : s.Sound) (haside : r.isAside = true)
    (hset : r.Sets Json.Distinct) :
    (((Ink.toolbox setup traceLimit author).answer r).on s).2.Sound := by
  cases hid : r.session? with
  | none => exact h.of_tables (Toolbox.answer_tables setup traceLimit author hid haside s)
  | some c =>
      intro story hstory
      have hself : (s.share c).Like true (fun _ _ => True) (s.share c) :=
        Share.like_refl (fun _ => trivial) _
      have halike := Comparison.alike_of_like hs.shelved hs.shelved (fun _ _ hlive => h.live hlive)
        hself
      have hafter := (Comparison.answer_alike setup traceLimit author Ink.Story.stays_sound
        (fun _ => trivial) hid haside hset (fun _ => rfl) s s halike).2
      have hplace := Comparison.storyOf_of_alike halike hafter
      generalize (((Ink.toolbox setup traceLimit author).answer r).on s).2 = t at *
      obtain ⟨n, hn⟩ := List.getElem?_of_mem hstory
      have hbeside : t.storiesBeside c = s.storiesBeside c := congrArg Beside.stories hafter.left
      have hlive := hafter.live
      rw [Comparison.Live, Comparison.between] at hlive
      have hplace : t.storyOf c = s.storyOf c := hplace
      rw [storiesBeside, storiesBeside, hplace] at hbeside
      cases hx : s.storyOf c with
      | none =>
          rw [hx] at hbeside
          have hsame : t.stage.engine.opened[n]? = s.stage.engine.opened[n]? := congrFun hbeside n
          exact h story (List.mem_of_getElem? (hsame.symm.trans hn))
      | some m =>
          rw [hx] at hbeside hlive
          by_cases hnm : m = n
          · obtain ⟨-, -, told, -, -, -, -, htold, -, hsound, -⟩ := hlive
            rw [← hnm, htold] at hn
            exact Option.some.inj hn ▸ hsound
          · have hsame := congrFun hbeside n
            dsimp only at hsame
            rw [Ink.Shelf.others, Ink.Shelf.others, if_neg hnm, if_neg hnm] at hsame
            exact h story (List.mem_of_getElem? (hsame.symm.trans hn))

theorem start_sound (hs : s.Orderly) (h : s.Sound) (hstarts : r.starts = true) :
    (((Ink.toolbox setup traceLimit author).answer r).on s).2.Sound :=
  shelves_start setup traceLimit author hs h Ink.sound_close hstarts fun _ _ _ hcomes hb =>
    Ink.sound_resume _ (hcomes.sound hb)

theorem sound_after (hs : s.Orderly) (h : s.Sound) (c : ToolCall) :
    ((Ink.toolbox setup traceLimit author).after c s).Sound := by
  refine shelves_after h fun r hr => ?_
  cases haside : r.isAside with
  | true => exact answer_sound setup traceLimit author hs h haside (Request.sets_of_requested hr)
  | false =>
      cases r with
      | startStory | startStoryJson | generateCompilePlay =>
          exact start_sound setup traceLimit author hs h rfl
      | endSession id => exact shelves_end setup traceLimit author hs h Ink.sound_close id
      | _ => cases haside

theorem sound_serve : ∀ (calls : List ToolCall) {s : Server Ink.Shelf}, s.Orderly → s.Sound →
    ((Ink.toolbox setup traceLimit author).serve calls s).Sound
  | [], _, _, h => h
  | c :: rest, _, hs, h => sound_serve rest (hs.after setup traceLimit author c)
      (sound_after setup traceLimit author hs h c)

/-! ## Requests about a live session -/

variable {v : Json}

theorem unclosed_of_live (hs : s.Orderly) (hlive : (s.share a).live = some (story, v)) :
    story.closings = 0 := by
  obtain ⟨x, hx, hstory, -⟩ := session_of_live hlive
  obtain ⟨J, hJ⟩ := hs
  have hmem : x.story ∈ s.ledger.stories ++ [] :=
    stories_of_settled s ▸ List.mem_map_of_mem (List.mem_of_find?_eq_some hx)
  have hzero := Ledger.Owned.unclosed hJ x.story hmem
  rw [ledger, List.getElem?_map, hstory] at hzero
  exact Option.some.inj hzero

theorem closed_of_unclosed (h : story.closings = 0) : story.closed = false := by
  rw [Ink.Story.closed, h]
  rfl

/-- What is done to the story of a live session. -/
theorem onStory_live {α : Type} {act : StoryId → Act (Stage Ink.Shelf) α} {inner : Act Ink.Story α}
    (hact : ∀ n, Ink.OnStory n (act n) inner) (hlive : (s.share a).live = some (story, v)) : ∃ t,
    (Toolbox.withStory a act).on s = ((inner.on story).1, t) ∧
      (t.share a).live = some ((inner.on story).2, v) := by
  obtain ⟨x, hx, hstory, rfl⟩ := session_of_live hlive
  rw [Toolbox.withStory, Act.on_bind_of_ok (Debug.session_on hx), Server.onStage, Act.on_within,
    hact x.story _ _ hstory]
  exact ⟨_, rfl, share_live hx (List.getElem?_set_self (List.getElem?_eq_some_iff.mp hstory).1)⟩

theorem withStory_live {α : Type} (act : Act Ink.Story α)
    (hlive : (s.share a).live = some (story, v)) : ∃ t,
    (Toolbox.withStory a fun n => Stage.inEngine (Ink.Shelf.withStory n act)).on s =
      ((act.on story).1, t) ∧ (t.share a).live = some ((act.on story).2, v) :=
  onStory_live (fun n => Ink.onStory_inStory n act) hlive

theorem share_keepState (hlive : (s.share a).live = some (story, v)) (w : Json) :
    (((Registry.keepState a w).on s).2.share a).live = some (story, w) := by
  obtain ⟨x, hx, hstory, -⟩ := session_of_live hlive
  have hid : (x.id == a) = true := List.find?_some (p := fun y : Session => y.id == a) hx
  let keep (y : Session) : Session := if y.id == a then { y with saved := w } else y
  have hkept : (s.sessions.map keep).find? (·.id == a) = some { x with saved := w } := by
    have hkeep : (fun y : Session => y.id == a) ∘ keep = fun y => y.id == a := by
      funext y
      dsimp only [keep, Function.comp]
      split <;> rfl
    rw [List.find?_map, hkeep, hx, Option.map_some]
    exact congrArg some (if_pos hid)
  exact share_live (s := ((Registry.keepState a w).on s).2) hkept hstory

/-- A session that saves its state has this state afterwards. -/
theorem saved_live {t : String} (hs : s.Orderly) (hlive : (s.share a).live = some (story, v))
    (hsaved : (((Ink.toolbox setup traceLimit author).answer (.saveState a)).on s).1 =
      .ok (.obj [("session_id", .str a), ("state_json", .str t)])) :
    writeJson .ascii story.stateJson = .ok t ∧
    ((((Ink.toolbox setup traceLimit author).answer (.saveState a)).on s).2.share a).live =
      some (story, .str t) := by
  obtain ⟨u, hu, hlive'⟩ := withStory_live (Json.str <$> Ink.Story.saveState) hlive
  rw [Act.on_map, Ink.Story.saveState_on (closed_of_unclosed (unclosed_of_live hs hlive))] at hu hlive'
  cases hwrite : writeJson .ascii story.stateJson with
  | error f =>
      rw [hwrite] at hu
      have hrun : ((Ink.toolbox setup traceLimit author).answer (.saveState a)).on s = (.error f, u) :=
        Act.on_bind_of_error hu
      rw [hrun] at hsaved
      cases hsaved
  | ok text =>
      rw [hwrite] at hu
      have hrun : ((Ink.toolbox setup traceLimit author).answer (.saveState a)).on s =
          (.ok (.obj [("session_id", .str a), ("state_json", .str text)]),
            ((Registry.keepState a (.str text)).on u).2) := Act.on_bind_of_ok hu
      rw [hrun] at hsaved ⊢
      obtain rfl : text = t := by simpa using hsaved
      exact ⟨rfl, share_keepState hlive' _⟩

theorem Ink.restoredFrom_self {other : Ink.Story} (hprogram : other.program = story.program)
    (hclosings : other.closings = story.closings) : story.restoredFrom other = story := by
  obtain ⟨program, bindings, cursor, offers, closings⟩ := story
  obtain rfl : other.program = program := hprogram
  obtain rfl : other.closings = closings := hclosings
  rfl

/-- A compiled story that is started from a saved state goes on as the saved story does. -/
theorem Ink.resume_saved {t : String} (hsound : story.Sound)
    (hnames : ∀ p ∈ story.bindings, ∃ name, p.1 = .str name) (hclosings : story.closings = 0)
    (hsave : writeJson .ascii story.stateJson = .ok t) :
    (Ink.Story.resume (some t)).on (Ink.Story.start story.program) =
      Ink.Story.continueStory.on story := by
  have hopen : (Ink.Story.start story.program).closed = false := rfl
  have hload := Ink.Story.loadState_saved hsound hnames hsave hopen
  have hsame : story.restoredFrom (Story.start story.program) = story :=
    restoredFrom_self rfl hclosings.symm
  rw [hsame] at hload
  exact Act.on_bind_of_ok hload

/-- Restoring a saved state in a live session. -/
theorem load_live {t : String} {other : Ink.Story} (hu : u.Orderly)
    (hsound : story.Sound) (hnames : ∀ p ∈ story.bindings, ∃ name, p.1 = .str name)
    (hclosings : story.closings = 0) (hsave : writeJson .ascii story.stateJson = .ok t)
    (hlive : (u.share b).live = some (other, v)) (hprogram : other.program = story.program) :
    let run := ((Ink.toolbox setup traceLimit author).answer (.loadState b t)).on u
    run.1 = .ok (.obj [("ok", .bool true), ("session_id", .str b)]) ∧
      (run.2.share b).live = some (story, v) := by
  have hother := unclosed_of_live hu hlive
  have hload := Ink.Story.loadState_saved hsound hnames hsave (closed_of_unclosed hother)
  rw [Ink.restoredFrom_self hprogram (hother.trans hclosings.symm)] at hload
  obtain ⟨u', hu', hlive'⟩ := withStory_live (Ink.Story.loadState t) hlive
  rw [hload] at hu' hlive'
  have hrun : ((Ink.toolbox setup traceLimit author).answer (.loadState b t)).on u =
      (.ok (.obj [("ok", .bool true), ("session_id", .str b)]), u') := Act.on_bind_of_ok hu'
  dsimp only
  rw [hrun]
  exact ⟨rfl, hlive'⟩

/-- A request that tells the story of a live session. -/
theorem told_live {act : StoryId → Act (Stage Ink.Shelf) Continuation}
    {inner : Act Ink.Story Continuation} (hact : ∀ n, Ink.OnStory n (act n) inner)
    (hlive : (s.share a).live = some (story, v)) :
    let run := (do return (← Toolbox.withStory a act).toJson a : Act (Server Ink.Shelf) Json).on s
    run.1 = (inner.on story).1.map (·.toJson a) ∧
      (run.2.share a).live = some ((inner.on story).2, v) := by
  obtain ⟨t, ht, hlive'⟩ := onStory_live hact hlive
  have hrun : (do return (← Toolbox.withStory a act).toJson a : Act (Server Ink.Shelf) Json).on s =
      ((inner.on story).1.map (·.toJson a), t) := by
    generalize (inner.on story).1 = res at ht
    cases res with
    | error f => exact Act.on_bind_of_error ht
    | ok told => exact Act.on_bind_of_ok ht
  dsimp only
  rw [hrun]
  exact ⟨rfl, hlive'⟩

theorem continue_live (hlive : (s.share a).live = some (story, v)) :
    let run := ((Ink.toolbox setup traceLimit author).answer (.continueStory a)).on s
    run.1 = (Ink.Story.continueStory.on story).1.map (·.toJson a) ∧
      (run.2.share a).live = some ((Ink.Story.continueStory.on story).2, v) :=
  told_live (fun n => Ink.onStory_inStory n Ink.Story.continueStory) hlive

theorem Ink.storyOfCompiled_compile {source json : String} {p : Ink.Program}
    (hcompiles : Ink.Shelf.compile source = .ok { success := true, json := .str json })
    (hparse : Ink.Program.parse source = .ok p) :
    Ink.storyOfCompiled json = .ok (Ink.Story.start p) := by
  rw [Ink.Shelf.compile] at hcompiles
  obtain ⟨q, hq, hcompiles⟩ := bind_eq_ok.mp hcompiles
  obtain rfl : p = q := Except.ok.inj (hparse.symm.trans hq)
  split at hcompiles
  · next hclean =>
    obtain ⟨text, hwrite, hjson⟩ := bind_eq_ok.mp hcompiles
    obtain rfl : text = json := Json.str.inj (congrArg Compilation.json (Except.ok.inj hjson))
    have hdistinct : (Json.obj [("inkVersion", .int 21), ("source", .str source)]).Distinct := by
      have hkeys : ["inkVersion", "source"].Nodup := by decide
      exact ⟨hkeys, trivial, trivial, trivial⟩
    have hsource : storyOf source = .ok (Story.start p) := by
      rw [storyOf, hparse]
      exact if_pos hclean
    rw [storyOfCompiled, readJson_of_writeJson Json.ascii_readable hdistinct hwrite]
    exact hsource
  · cases hcompiles

/-- Starting a story, perhaps from a saved state. -/
theorem startFrom_live {openStory : Act (Stage Ink.Shelf) StoryId} {state : Option String}
    {begun told : Ink.Story} {res : Except Fault Continuation} (hu : u.Orderly)
    (hopens : Ink.Opens (.ok begun) openStory)
    (hresume : (Ink.Story.resume state).on begun = (res, told)) (id : Option String) (source : String) :
    let run := (do
      let (name, c) ← (Ink.toolbox setup traceLimit author).startFrom openStory id source state
      return c.toJson name : Act (Server Ink.Shelf) Json).on u
    match res with
    | .error f => run.1 = .error f
    | .ok c => ∃ name, run.1 = .ok (c.toJson name) ∧ (run.2.share name).live = some (told, .null) := by
  obtain ⟨r, t, ht, hstarted⟩ := Toolbox.startFrom_started setup traceLimit author hopens id source
    state hu.shelved
  generalize hT : t.tables = T at hstarted
  cases hstarted with
  | unopened hb => cases hb
  | unplayed hb hname hp =>
      obtain rfl := Except.ok.inj hb
      rw [hresume] at hp
      obtain ⟨rfl, -⟩ := Prod.mk.inj hp
      exact congrArg Prod.fst (Act.on_bind_of_error ht)
  | @played _ _ name c hb hname hp =>
      obtain rfl := Except.ok.inj hb
      rw [hresume] at hp
      obtain ⟨rfl, rfl⟩ := Prod.mk.inj hp
      refine ⟨name, congrArg Prod.fst (Act.on_bind_of_ok ht), ?_⟩
      rw [Act.on_bind_of_ok ht]
      dsimp only
      rw [Act.on_pure, Server.share, hT, Tables.share]
      dsimp only
      rw [List.find?_append, find?_free hname.free]
      simp

/-- Starting a compiled story, perhaps from a saved state. -/
theorem start_live {json : String} {state : Option String} {begun told : Ink.Story}
    {res : Except Fault Continuation} (hu : u.Orderly) (hbegun : Ink.storyOfCompiled json = .ok begun)
    (hresume : (Ink.Story.resume state).on begun = (res, told)) (id : Option String) :
    let run := ((Ink.toolbox setup traceLimit author).answer (.startStoryJson json id state)).on u
    match res with
    | .error f => run.1 = .error f
    | .ok c => ∃ name, run.1 = .ok (c.toJson name) ∧ (run.2.share name).live = some (told, .null) :=
  startFrom_live setup traceLimit author hu (hbegun ▸ Ink.opens_compiled setup json) hresume id ""

/-- A new story that begins as a live one goes on. -/
theorem start_restored {json : String} {state : Option String} {begun : Ink.Story} (hu : u.Orderly)
    (hlive : (s.share a).live = some (story, v)) (hbegun : Ink.storyOfCompiled json = .ok begun)
    (hresume : (Ink.Story.resume state).on begun = Ink.Story.continueStory.on story)
    (id : Option String) :
    let box := Ink.toolbox setup traceLimit author
    let run := (box.answer (.startStoryJson json id state)).on u
    let run' := (box.answer (.continueStory a)).on s
    ∃ res : Except Fault Continuation, run'.1 = res.map (·.toJson a) ∧
      match res with
      | .error f => run.1 = .error f
      | .ok c => ∃ name, run.1 = .ok (c.toJson name) ∧
          (run.2.share name).live.map (·.1) = (run'.2.share a).live.map (·.1) := by
  intro box run run'
  obtain ⟨hanswer, hcontinued⟩ := continue_live setup traceLimit author hlive
  cases hrun : Ink.Story.continueStory.on story with
  | mk res told =>
  rw [hrun] at hresume hanswer hcontinued
  have hstarted := start_live setup traceLimit author hu hbegun hresume id
  refine ⟨res, hanswer, ?_⟩
  cases res with
  | error f => exact hstarted
  | ok c =>
      obtain ⟨name, hname, hnew⟩ := hstarted
      exact ⟨name, hname, by rw [hnew, hcontinued]; rfl⟩

/-! ## Twins -/

/-- Two runs in which the same calls name two sessions.  Starts are given their ids, and what
depends on a debug record is asked for only after a moment at which the debug records of the two
sessions were the same. -/
structure Parallel (box : Toolbox Ink.Shelf) (a b : String) (s t : Server Ink.Shelf)
    (calls calls' : List ToolCall) : Prop where
  given : ∀ c ∈ calls ++ calls', (box.requested c.name c.arguments).all Request.given = true
  same : (calls.filter (box.names a)).map (·.named b) = calls'.filter (box.names b)
  debugging (before : List ToolCall) (c : ToolCall) : before ++ [c] <+: calls.filter (box.names a) →
    (box.requested c.name c.arguments).any Request.recalls = true → ∃ early, early <+: before ∧
    ((box.serve early s).share a).record = ((box.serve (early.map (·.named b)) t).share b).record

/-- Two sessions whose answers to the same calls are the same, but for the ids in them and the
times in traces. -/
def Twins (box : Toolbox Ink.Shelf) (a b : String) (s t : Server Ink.Shelf) : Prop :=
  ∀ calls calls', Parallel box a b s t calls calls' →
    (box.replies a calls s).map (·.named b) = (box.replies b calls' t).map (·.named b)

/-- With another id a call makes the same request of the other session. -/
theorem requested_of_names {box : Toolbox Ink.Shelf} (h : box.names a c = true) (b : String) :
    box.requested (c.named b).name (c.named b).arguments =
      (box.requested c.name c.arguments).map (·.named b) := by
  have hname : (c.named b).name = c.name := rfl
  rw [Toolbox.names] at h
  rw [Toolbox.requested, Toolbox.requested, hname]
  cases htool : box.find? c.name with
  | none => rfl
  | some tool =>
      rw [htool] at h
      obtain ⟨htakes, hsession⟩ : tool.takesSession = true ∧
          (Toolbox.argumentsOf c.arguments).get? "session_id" = some (.str a) := by
        simpa using h
      rw [Option.bind_some, Option.bind_some, (requested_named htakes hsession b).1]
      cases Request.ofJson (Toolbox.argumentsOf c.arguments) tool <;> rfl

/-- Calls of one session, made of another one with the same story.  The likeness is carried from
call to call, and once the records are the same it is one of the records too. -/
theorem replies_named : ∀ (own : List ToolCall) {debugging : Bool} {s t : Server Ink.Shelf},
    s.Orderly → t.Orderly → (s.share a).Like debugging (fun _ _ => True) (t.share b) →
    let box := Ink.toolbox setup traceLimit author
    (∀ c ∈ own, box.names a c = true ∧
      (box.requested c.name c.arguments).all Request.given = true ∧
      (box.requested (c.named b).name (c.named b).arguments).all Request.given = true) →
    (∀ before c, before ++ [c] <+: own → (box.requested c.name c.arguments).any Request.recalls = true →
      debugging = true ∨ ∃ early, early <+: before ∧ ((box.serve early s).share a).record =
        ((box.serve (early.map (·.named b)) t).share b).record) →
    (box.replies a own s).map (·.named b) = (box.replies b (own.map (·.named b)) t).map (·.named b)
  | [], _, _, _, _, _, _ => fun _ _ => rfl
  | c :: rest, debugging, s, t, hs, ht, hlike => by
      intro box hown hdebug
      obtain ⟨hnames, hgiven, hgiven'⟩ := hown c List.mem_cons_self
      obtain ⟨now, hlike, hbefore, hsame⟩ : ∃ now,
          (s.share a).Like now (fun _ _ => True) (t.share b) ∧ (debugging = true → now = true) ∧
            ((s.share a).record = (t.share b).record → now = true) := by
        by_cases hsame : (s.share a).record = (t.share b).record
        · exact ⟨true, ⟨hlike.live, fun _ => hsame⟩, fun _ => rfl, fun _ => rfl⟩
        · exact ⟨debugging, hlike, id, fun h => absurd h hsame⟩
      have hrequests : ∀ r, box.requested c.name c.arguments = some r →
          r.given = true ∧ (r.named b).given = true ∧ (r.recalls = true → now = true) := by
        intro r hr
        have hfirst := hdebug [] c (List.prefix_append [c] rest)
        rw [requested_of_names hnames b, hr] at hgiven'
        rw [hr] at hgiven hfirst
        refine ⟨hgiven, hgiven', fun hrecalls => ?_⟩
        rcases hfirst hrecalls with hd | ⟨early, hearly, hrecord⟩
        · exact hbefore hd
        · obtain rfl := List.prefix_nil.mp hearly
          exact hsame hrecord
      obtain ⟨hreply, hafter⟩ :=
        after_twins setup traceLimit author (fun _ => trivial) hs ht hlike hrequests hnames
      have hrest := replies_named rest (hs.after setup traceLimit author c)
        (ht.after setup traceLimit author (c.named b)) hafter
        (fun d hd => hown d (List.mem_cons_of_mem c hd)) fun before d hprefix hd => by
          rcases hdebug (c :: before) d (List.cons_prefix_cons.mpr ⟨rfl, hprefix⟩) hd with
            hd | ⟨early, hearly, hrecord⟩
          · exact .inl (hbefore hd)
          · rcases List.prefix_cons_iff.mp hearly with rfl | ⟨later, rfl, hlater⟩
            · exact .inl (hsame hrecord)
            · exact .inr ⟨later, hlater, hrecord⟩
      have hnames' := names_named hnames b
      rw [Toolbox.replies, hnames, List.map_cons, Toolbox.replies, hnames', if_pos rfl, if_pos rfl,
        List.map_cons, List.map_cons, hreply.1, hrest]

theorem twins_of_stories (hs : s.Orderly) (ht : t.Orderly)
    (h : (s.share a).live.map (·.1) = (t.share b).live.map (·.1)) :
    Twins (Ink.toolbox setup traceLimit author) a b s t := by
  intro calls calls' hparallel
  have hlike : (s.share a).Like false (fun _ _ => True) (t.share b) := by
    refine ⟨?_, fun h => nomatch h⟩
    cases hlive : (s.share a).live with
    | none =>
        rw [hlive] at h
        cases hlive' : (t.share b).live with
        | none => trivial
        | some q => rw [hlive'] at h; cases h
    | some p =>
        rw [hlive] at h
        cases hlive' : (t.share b).live with
        | none => rw [hlive'] at h; cases h
        | some q =>
            rw [hlive'] at h
            exact ⟨Option.some.inj h, trivial⟩
  have hgiven := fun c hc => hparallel.given c (List.mem_append_left calls' hc)
  have hgiven' := fun c hc => hparallel.given c (List.mem_append_right calls hc)
  rw [(replies_own setup traceLimit author calls hs hs rfl hgiven).1,
    (replies_own setup traceLimit author calls' ht ht rfl hgiven').1, ← hparallel.same]
  refine replies_named setup traceLimit author _ hs ht hlike (fun c hc => ?_)
    fun before c hprefix hrecalls => .inr (hparallel.debugging before c hprefix hrecalls)
  obtain ⟨hmem, hnames⟩ := List.mem_filter.mp hc
  have hmem' : c.named b ∈ calls'.filter ((Ink.toolbox setup traceLimit author).names b) :=
    hparallel.same ▸ List.mem_map_of_mem hc
  exact ⟨hnames, hgiven c hmem, hgiven' _ (List.mem_filter.mp hmem').1⟩

/-- A call makes its request. -/
theorem reply_requested {box : Toolbox Ink.Shelf}
    (hr : box.requested c.name c.arguments = some r) (s : Server Ink.Shelf) :
    box.reply (fun _ v => v) c s = .answered (((box.answer r).on s).1.map fun v => v) ∧
      ∀ a, (box.after c s).share a = ((box.answer r).on s).2.share a := by
  obtain ⟨tool, htool, hread⟩ := Toolbox.requested_tool hr
  obtain ⟨-, hreply, htables⟩ := Toolbox.reply_made htool hread (fun _ v => v) s
  exact ⟨hreply, fun a => congrArg (Tables.share a) htables⟩

/-- **Saved sessions are restored.**  A session of a source that compiles, after any calls: if
its variables have texts for names and saving it answers with a state, then, whatever is called
in between, the state can be loaded into any session of the source, which has the place, the
variables and the choices of the saved one afterwards; and the compiled source is started from
the state with the answer that continuing the saved session gives, and to the same story.  From
then on the two sessions are twins, as long as the saved one has not gone on alone. -/
theorem saved_session_restored (s₀ : Server Ink.Shelf) (calls : List ToolCall)
    {source json state a : String} {story : Ink.Story} {v : Json} {save : ToolCall}
    (hcompiles : Ink.Shelf.compile source = .ok { success := true, json := .str json })
    (hsource : Ink.Program.parse source = .ok story.program)
    (hlive : (((Ink.toolbox setup traceLimit author).serve calls s₀.bare).share a).live =
      some (story, v))
    (hnames : ∀ p ∈ story.bindings, ∃ name, p.1 = .str name)
    (hsave : (Ink.toolbox setup traceLimit author).requested save.name save.arguments =
      some (.saveState a))
    (hsaved : (Ink.toolbox setup traceLimit author).reply (fun _ v => v) save
        ((Ink.toolbox setup traceLimit author).serve calls s₀.bare) =
      .answered (.ok (.obj [("session_id", .str a), ("state_json", .str state)]))) :
    let box := Ink.toolbox setup traceLimit author
    let s := box.after save (box.serve calls s₀.bare)
    (s.share a).live = some (story, .str state) ∧
    (∀ between load b other w,
      let t := box.serve between s
      let u := box.after load t
      box.requested load.name load.arguments = some (.loadState b state) →
      (t.share b).live = some (other, w) → other.program = story.program →
      box.reply (fun _ v => v) load t =
        .answered (.ok (.obj [("ok", .bool true), ("session_id", .str b)])) ∧
      (u.share b).live = some (story, w) ∧
      ∀ later, ((box.serve later s).share a).live.map (·.1) = some story →
        Twins box a b (box.serve later s) u) ∧
    ∀ between start id proceed,
      let t := box.serve between s
      let u := box.after start t
      box.requested start.name start.arguments = some (.startStoryJson json id (some state)) →
      box.requested proceed.name proceed.arguments = some (.continueStory a) →
      (box.reply (fun _ v => v) start t).named a = (box.reply (fun _ v => v) proceed s).named a ∧
      ∀ answer b, box.reply (fun _ v => v) start t = .answered (.ok answer) →
        answer.get? "session_id" = some (.str b) →
        (u.share b).live.map (·.1) = ((box.after proceed s).share a).live.map (·.1) ∧
        ∀ later, ((box.serve later s).share a).live.map (·.1) = (u.share b).live.map (·.1) →
          Twins box a b (box.serve later s) u := by
  intro box s
  have hbefore : (box.serve calls s₀.bare).Orderly := s₀.orderly_bare.serve calls
  have hs : s.Orderly := hbefore.after setup traceLimit author save
  have hserve : ∀ later, (box.serve later s).Orderly := fun later => hs.serve later
  have hsound : story.Sound :=
    (sound_serve setup traceLimit author calls s₀.orderly_bare fun _ h => nomatch h).live hlive
  have hclosings : story.closings = 0 := unclosed_of_live hbefore hlive
  obtain ⟨hreply, hshare⟩ := reply_requested hsave (box.serve calls s₀.bare)
  obtain ⟨hwrite, hkept⟩ : writeJson .ascii story.stateJson = .ok state ∧
      (s.share a).live = some (story, .str state) := by
    rw [hshare a]
    refine saved_live setup traceLimit author hbefore hlive ?_
    have hanswer := Reply.answered.inj (hreply.symm.trans hsaved)
    generalize ((box.answer (.saveState a)).on (box.serve calls s₀.bare)).1 = res at hanswer
    cases res with
    | error f => cases hanswer
    | ok w => exact hanswer
  refine ⟨hkept, ?_, ?_⟩
  · intro between load b other w t u hload hother hprogram
    obtain ⟨hanswer, hrestored⟩ := load_live setup traceLimit author (hserve between) hsound hnames
      hclosings hwrite hother hprogram
    obtain ⟨hreply, hshare⟩ := reply_requested hload t
    have hu : (u.share b).live = some (story, w) := by
      rw [hshare b]
      exact hrestored
    refine ⟨?_, hu, fun later hsame => ?_⟩
    · rw [hreply]
      exact congrArg (fun r => Reply.answered (r.map fun v => v)) hanswer
    · refine twins_of_stories setup traceLimit author (hserve later)
        ((hserve between).after setup traceLimit author load) (hsame.trans ?_)
      rw [hu]
      rfl
  · intro between start id proceed t u hstart hproceed
    have hresume := Ink.resume_saved hsound hnames hclosings hwrite
    obtain ⟨res, hcontinued, hstarted⟩ := start_restored setup traceLimit author (hserve between)
      hkept (Ink.storyOfCompiled_compile hcompiles hsource) hresume id
    obtain ⟨hreply, hshare⟩ := reply_requested hstart t
    obtain ⟨hreply', hshare'⟩ := reply_requested hproceed s
    rw [hreply, hreply', hcontinued]
    cases res with
    | error f =>
        have hanswer : ((box.answer (.startStoryJson json id (some state))).on t).1 = .error f := hstarted
        rw [hanswer]
        exact ⟨rfl, fun _ _ h => nomatch h⟩
    | ok c =>
        obtain ⟨name, hanswer, hsame⟩ := hstarted
        have hanswer : ((box.answer (.startStoryJson json id (some state))).on t).1 =
            .ok (c.toJson name) := hanswer
        rw [hanswer]
        refine ⟨rfl, fun answer b hb hid => ?_⟩
        obtain rfl := Except.ok.inj (Reply.answered.inj hb)
        obtain rfl : name = b := by
          have hname := (Continuation.toJson_session name c).symm.trans hid
          simpa using hname
        refine ⟨?_, fun later hlater => ?_⟩
        · rw [hshare name, hshare' a]
          exact hsame
        · exact twins_of_stories setup traceLimit author (hserve later)
            ((hserve between).after setup traceLimit author start) hlater

/-- The saved session goes on, and its state is loaded into a new one. -/
theorem saved_session_restored_apart :
    let box := Ink.toolbox false (some 9) none
    let call (name id : String) (more : Fields) : ToolCall :=
      ⟨name, .obj (("session_id", .str id) :: more)⟩
    let source := "VAR x = 0.1\nVAR y = \"\"\nA\n* [go] -> K\n=== K ===\nB\n-> END"
    let calls := [call "start_story" "a" [("source", .str source)],
      call "set_variable" "a" [("name", .str "y"), ("value", .str "é\"\n😀")]]
    let save := call "save_state" "a" []
    let between := [call "choose" "a" [("choice_index", .int 0)],
      call "start_story" "b" [("source", .str source)]]
    let json := "\x7b\"inkVersion\": 21, \"source\": \"VAR x = 0.1\\nVAR y = \\\"\\\"\\nA\\n* [go] -> K" ++
      "\\n=== K ===\\nB\\n-> END\"\x7d"
    let state := "\x7b\"pc\": [\"\", 1], \"variables\": \x7b\"x\": 0.1, \"y\": " ++
      "\"\\u00e9\\\"\\n\\ud83d\\ude00\"\x7d, \"choices\": [[\"go\", \"K\"]]\x7d"
    let load := call "load_state" "b" [("state_json", .str state)]
    let x := (Json.str "x", Json.float (.finite false 1019 2702159776422298))
    let other : Ink.Story :=
      { program := ⟨[("", [.text "A" [], .choice "go" "K"]), ("K", [.text "B" [], .divert "END"])],
          [x, (.str "y", .str "")], [], []⟩
        bindings := [x, (.str "y", .str "")], cursor := .at "" 1, offers := [.option "go" "K"] }
    let story := { other with bindings := [x, (.str "y", .str "é\"\n😀")] }
    let s := box.serve calls Ink.idle.bare
    let t := box.serve between (box.after save s)
    (Ink.Shelf.compile source = .ok { success := true, json := .str json } ∧
      Ink.Program.parse source = .ok story.program ∧
      (s.share "a").live = some (story, .null) ∧
      (∀ p ∈ story.bindings, ∃ name, p.1 = .str name) ∧
      box.requested save.name save.arguments = some (.saveState "a") ∧
      box.reply (fun _ v => v) save s =
        .answered (.ok (.obj [("session_id", .str "a"), ("state_json", .str state)])) ∧
      box.requested load.name load.arguments = some (.loadState "b" state) ∧
      (t.share "b").live = some (other, .null)) ∧
    ((box.after load t).share "b").live = some (story, .null) ∧
    Twins box "a" "b" (box.after save s) (box.after load t) := by
  intro box call source calls save between json state load x other story s t
  have hcompiles : Ink.Shelf.compile source = .ok { success := true, json := .str json } := by
    decide +kernel
  have hsource : Ink.Program.parse source = .ok story.program := by decide +kernel
  have hlive : (s.share "a").live = some (story, .null) := by decide +kernel
  have hnames : ∀ p ∈ story.bindings, ∃ name, p.1 = .str name := by
    intro p hp
    rcases List.mem_cons.mp hp with rfl | hp
    · exact ⟨"x", rfl⟩
    · exact ⟨"y", congrArg Prod.fst (List.mem_singleton.mp hp)⟩
  have hsave : box.requested save.name save.arguments = some (.saveState "a") := by decide +kernel
  have hsaved : box.reply (fun _ v => v) save s =
      .answered (.ok (.obj [("session_id", .str "a"), ("state_json", .str state)])) := by decide +kernel
  have hload : box.requested load.name load.arguments = some (.loadState "b" state) := by
    decide +kernel
  have hother : (t.share "b").live = some (other, .null) := by decide +kernel
  obtain ⟨hkept, hloads, -⟩ := saved_session_restored false (some 9) none Ink.idle calls hcompiles
    hsource hlive hnames hsave hsaved
  obtain ⟨-, hrestored, htwins⟩ := hloads between load "b" other .null hload hother rfl
  have hnone : box.serve [] (box.after save s) = box.after save s := rfl
  have htwins := htwins []
  rw [hnone] at htwins
  refine ⟨⟨hcompiles, hsource, hlive, hnames, hsave, hsaved, hload, hother⟩, hrestored, htwins ?_⟩
  rw [hkept]
  rfl

/-- A variable whose name is a number is not restored, and a debug session is not saved. -/
theorem saved_session_differs :
    let box := Ink.toolbox false (some 9) none
    let call (name id : String) (more : Fields) : ToolCall :=
      ⟨name, .obj (("session_id", .str id) :: more)⟩
    let start (id : String) := call "start_story" id [("source", .str "A")]
    let load (id state : String) := call "load_state" id [("state_json", .str state)]
    let saves (id state : String) (s : Server Ink.Shelf) :=
      box.reply (fun _ v => v) (call "save_state" id []) s =
        .answered (.ok (.obj [("session_id", .str id), ("state_json", .str state)]))
    (let pairs := "\x7b\"pc\": null, \"variables\": [[1, 2]], \"choices\": []\x7d"
      let s := box.serve [start "a", load "a" pairs] Ink.idle.bare
      let state := "\x7b\"pc\": null, \"variables\": \x7b\"1\": 2\x7d, \"choices\": []\x7d"
      let read := call "get_variable" "a" [("name", .str "1")]
      let t := box.after (call "save_state" "a" []) s
      saves "a" state s ∧
        box.reply (fun _ v => v) read t =
          .answered (.ok (.obj [("name", .str "1"), ("value", .null)])) ∧
        box.reply (fun _ v => v) read (box.after (load "a" state) t) =
          .answered (.ok (.obj [("name", .str "1"), ("value", .int 2)]))) ∧
    (let s := box.serve [start "a", start "b", call "start_debug" "a" []] Ink.idle.bare
      let state := "\x7b\"pc\": [\"\", 1], \"variables\": \x7b\x7d, \"choices\": []\x7d"
      let t := box.after (load "b" state) (box.after (call "save_state" "a" []) s)
      saves "a" state s ∧
        box.reply (fun _ v => v) (call "debug_inspect" "a" []) t =
          .answered (.ok (.obj [("session_id", .str "a"), ("total_steps", .int 0),
            ("is_paused", .bool false), ("breakpoints", .int 0), ("watches", .obj []),
            ("watch_change_counts", .obj []), ("last_output", .str ""), ("visit_log_size", .int 0),
            ("recent_visits", .arr [])])) ∧
        box.reply (fun _ v => v) (call "debug_inspect" "b" []) t =
          .answered (.error (.noDebugSession "b"))) := by
  refine ⟨⟨?_, ?_, ?_⟩, ?_, ?_, ?_⟩ <;> decide +kernel

end Restore

end StoryServer
