import StoryServer.Proofs.Agreement
import StoryServer.Proofs.Session.Separation

/-!
# What requests do not look at

A *glance* at sessions shows their ids and their stories, and perhaps more of them.  Two servers
*match* at a glance when they have the same stories, debug records, ids to give out and time, and
the same sessions as far as the glance shows them; their logs may differ.

Every request does the same on servers that match (`answer_blind`), and so do calls
(`call_blind`) and runs of calls (`results_matches`), if the engine does not look at the log.
What is shown of a session need hold neither the source it was started from nor the state that
was saved last: no answer depends on these.
-/

namespace StoryServer

/-- What is shown of a session. -/
structure Glance where
  look : Session → Session
  id (x : Session) : (look x).id = x.id
  story (x : Session) : (look x).story = x.story
  /-- What is shown after a state was saved depends on what was shown before. -/
  saved (x : Session) (v : Json) : look { x with saved := v } = look { look x with saved := v }

namespace Server

variable {ε α : Type} {g : Glance} {s t : Server ε}

/-- The servers differ in their logs and in what a glance does not show of sessions, if in
anything. -/
structure Matches (g : Glance) (s t : Server ε) : Prop where
  engine : s.stage.engine = t.stage.engine
  sessions : s.sessions.map g.look = t.sessions.map g.look
  records : s.records = t.records
  ids : s.ids = t.ids
  clock : s.clock = t.clock
  author : s.author = t.author

instance : IsPreorder (Server ε) (Matches g) where
  refl _ := ⟨rfl, rfl, rfl, rfl, rfl, rfl⟩
  trans _ _ _ h h' := ⟨h.engine.trans h'.engine, h.sessions.trans h'.sessions,
    h.records.trans h'.records, h.ids.trans h'.ids, h.clock.trans h'.clock,
    h.author.trans h'.author⟩

theorem Matches.symm (h : Matches g s t) : Matches g t s :=
  ⟨h.engine.symm, h.sessions.symm, h.records.symm, h.ids.symm, h.clock.symm, h.author.symm⟩

/-- The action does the same on servers that match. -/
abbrev Blind (g : Glance) (act : Act (Server ε) α) : Prop := Act.Blind (Matches g) act

/-! ## Sessions at a glance -/

theorem Matches.names (h : Matches g s t) : s.sessions.map (·.id) = t.sessions.map (·.id) := by
  have hnames : ∀ sessions : List Session,
      sessions.map (·.id) = (sessions.map g.look).map (·.id) := by
    intro sessions
    rw [List.map_map]
    exact List.map_congr_left fun x _ => (g.id x).symm
  rw [hnames s.sessions, hnames t.sessions, h.sessions]

theorem Matches.length (h : Matches g s t) : s.sessions.length = t.sessions.length := by
  have hlength := congrArg List.length h.names
  rwa [List.length_map, List.length_map] at hlength

/-- A session is found by its id at a glance. -/
theorem Matches.found (h : Matches g s t) (id : String) :
    (s.sessions.find? (·.id == id)).map g.look = (t.sessions.find? (·.id == id)).map g.look := by
  have hfind : ∀ sessions : List Session,
      (sessions.find? (·.id == id)).map g.look = (sessions.map g.look).find? (·.id == id) := by
    intro sessions
    rw [List.find?_map]
    exact congrArg (fun p => (sessions.find? p).map g.look) (funext fun x => by simp [g.id])
  rw [hfind, hfind, h.sessions]

/-- The sessions are dropped by their ids at a glance. -/
theorem Matches.dropped (h : Matches g s t) (id : String) :
    (s.sessions.filter fun x => x.id != id).map g.look =
      (t.sessions.filter fun x => x.id != id).map g.look := by
  have hfilter : ∀ sessions : List Session, (sessions.filter fun x => x.id != id).map g.look =
      (sessions.map g.look).filter fun x => x.id != id := by
    intro sessions
    rw [List.filter_map]
    exact congrArg (fun p => (sessions.filter p).map g.look) (funext fun x => by simp [g.id])
  rw [hfilter, hfilter, h.sessions]

/-! ## Actions on a server -/

theorem alike_onStage {act act' : Act (Stage ε) α} (h : Act.Alike (Stage.Over (· = ·)) act act') :
    Act.Alike (Matches g) (onStage act) (onStage act') :=
  Act.agree_within h (fun _ _ hst => hst.engine) fun _ _ _ _ hst hxy => { hst with engine := hxy }

theorem alike_note (line line' : String) :
    Act.Alike (Matches g) (note (ε := ε) line) (note line') :=
  alike_onStage (Stage.alike_note line line')

theorem blind_onAuthor {act : Act Author.Work α} (h : Stage.Blind act) :
    Blind g (onAuthor (ε := ε) act) :=
  Act.agree_within h (fun _ _ hst => hst.author) fun _ _ _ _ hst hxy =>
    { hst with engine := hst.engine, author := hxy }

theorem blind_readClock : Blind g (readClock (ε := ε)) := by
  refine Act.agree_get_bind fun s t h => ?_
  exact ⟨congrArg Clock.now h.clock,
    { h with clock := congrArg (fun c : Clock => { c with now := c.now + c.step }) h.clock }⟩

theorem agree_session (id : String) :
    Act.Agree (Matches g) (· = ·) (fun x y => g.look x = g.look y) (session (ε := ε) id)
      (session id) := by
  refine Act.agree_get_bind fun s t h => ?_
  have hfound := h.found id
  cases hx : s.sessions.find? (·.id == id) with
  | none =>
      rw [hx] at hfound
      rw [Option.map_eq_none_iff.mp hfound.symm]
      exact ⟨rfl, h⟩
  | some x =>
      rw [hx] at hfound
      obtain ⟨y, hy, hyx⟩ := Option.map_eq_some_iff.mp hfound.symm
      rw [hy]
      exact ⟨hyx.symm, h⟩

/-- Sessions that look the same have the same story. -/
theorem story_of_look {x y : Session} (h : g.look x = g.look y) : x.story = y.story := by
  rw [← g.story x, ← g.story y, h]

/-- What is done once a session is known to be live. -/
theorem blind_live (id : String) {act : Act (Server ε) α} (h : Blind g act) :
    Blind g (session id >>= fun _ => act) := Act.agree_bind (agree_session id) fun _ _ _ => h

theorem blind_record (id : String) : Blind g (record (ε := ε) id) := by
  refine Act.agree_get_bind fun s t h => ?_
  rw [h.records]
  split
  · exact ⟨rfl, h⟩
  · exact ⟨rfl, h⟩

end Server

/-! ## The table of sessions -/

/-- Sessions look the same whichever of two sources they were started from. -/
def Glance.Overlooks (g : Glance) (a b : String) : Prop :=
  ∀ id story, g.look { id, story, source := a } = g.look { id, story, source := b }

theorem Glance.overlooks_self (g : Glance) (a : String) : g.Overlooks a a := fun _ _ => rfl

namespace Registry

open Server

variable {ε : Type} {g : Glance} {engine : StoryEngine ε}

theorem blind_newId : Blind g (newId (ε := ε)) := by
  refine Act.agree_get_bind fun s t h => ?_
  rw [h.names, h.length, h.ids]
  exact ⟨rfl, { h with ids := rfl }⟩

theorem agree_remove (id : String) :
    Act.Agree (Matches g) (· = ·) (fun x y => x.map g.look = y.map g.look) (remove (ε := ε) id)
      (remove id) := by
  intro s t h
  rw [remove_on, remove_on]
  exact ⟨h.found id, { h with sessions := h.dropped id }⟩

theorem blind_close (he : engine.Blind) {x y : Session} (h : g.look x = g.look y) :
    Act.Alike (Matches g) (close engine x) (close engine y) := by
  rw [close, close, story_of_look h]
  exact alike_onStage (he.close _)

theorem blind_endSession (he : engine.Blind) (id : String) : Blind g (endSession engine id) := by
  refine Act.agree_bind (agree_remove id) fun x y hxy => ?_
  cases x with
  | none =>
      rw [Option.map_eq_none_iff.mp hxy.symm]
      exact Act.blind_pure _
  | some x =>
      obtain ⟨y, rfl, hyx⟩ := Option.map_eq_some_iff.mp hxy.symm
      exact Act.alike_bind (blind_close he hyx.symm) fun _ => Act.alike_bind (alike_note _ _) fun _ =>
        Act.blind_pure _

theorem blind_makeRoom (he : engine.Blind) (id : Option String) :
    Blind g (makeRoom engine id) := by
  rw [makeRoom]
  cases givenId id with
  | none => exact Act.blind_pure _
  | some id => exact Act.alike_bind (blind_endSession he id) fun _ => Act.blind_pure _

theorem blind_chooseId (id : Option String) : Blind g (chooseId (ε := ε) id) := by
  rw [chooseId]
  cases givenId id with
  | none => exact blind_newId
  | some id => exact Act.blind_pure _

variable {a b : String}

theorem alike_place (he : engine.Blind) (hab : g.Overlooks a b) (story : StoryId) (id : String) :
    Act.Alike (Matches g) (place engine story id a) (place engine story id b) := by
  refine Act.agree_bind (agree_remove id) fun x y hxy => ?_
  have hput : Act.Alike (Matches g)
      (modify fun s : Server ε => { s with sessions := s.sessions ++ [{ id, story, source := a }] })
      (modify fun s : Server ε => { s with sessions := s.sessions ++ [{ id, story, source := b }] }) := by
    intro s t h
    refine ⟨rfl, { h with sessions := ?_ }⟩
    simp only [Act.on_modify, List.map_append, h.sessions, List.map_cons, hab id story, List.map_nil]
  refine Act.alike_bind hput fun _ => ?_
  cases x with
  | none =>
      rw [Option.map_eq_none_iff.mp hxy.symm]
      exact Act.blind_pure _
  | some x =>
      obtain ⟨y, rfl, hyx⟩ := Option.map_eq_some_iff.mp hxy.symm
      exact blind_close he hyx.symm

theorem alike_create (he : engine.Blind) (hab : g.Overlooks a b)
    {openStory openStory' : Act (Server ε) StoryId}
    (ho : Act.Alike (Matches g) openStory openStory') (id : Option String) :
    Act.Alike (Matches g) (create engine openStory id a) (create engine openStory' id b) :=
  Act.alike_bind (blind_makeRoom he id) fun _ => Act.alike_bind ho fun story =>
    Act.alike_bind (blind_chooseId id) fun name => Act.alike_bind (alike_place he hab story name)
      fun _ => Act.alike_bind (alike_note _ _) fun _ => Act.blind_pure _

theorem blind_ids : Blind g (ids (ε := ε)) :=
  Act.agree_get_bind fun _ _ h => ⟨h.names, h⟩

theorem blind_keepState (id : String) (state : Json) :
    Blind g (keepState (ε := ε) id state) := by
  refine Act.blind_modify fun s t h => { h with sessions := ?_ }
  let keep (x : Session) : Session := if x.id == id then { x with saved := state } else x
  let keepShown (x : Session) : Session :=
    if x.id == id then g.look { x with saved := state } else x
  have hkeep : ∀ sessions : List Session,
      (sessions.map keep).map g.look = (sessions.map g.look).map keepShown := by
    intro sessions
    rw [List.map_map, List.map_map]
    refine List.map_congr_left fun x _ => ?_
    have hid : ((g.look x).id == id) = (x.id == id) := by rw [g.id]
    dsimp only [Function.comp, keep, keepShown]
    rw [hid]
    split
    · exact g.saved x state
    · rfl
  exact (hkeep s.sessions).trans ((congrArg _ h.sessions).trans (hkeep t.sessions).symm)

end Registry

/-! ## Debugging -/

namespace Debug

open Server

variable {ε : Type} {g : Glance} {engine : StoryEngine ε}

/-- The records of servers that match are changed in the same way. -/
theorem blind_change {change : List Record → List Record} :
    Blind g (modify fun s : Server ε => { s with records := change s.records }) :=
  Act.blind_modify fun _ _ h => { h with records := congrArg change h.records }

theorem blind_update (id : String) (change : Record → Record) :
    Blind g (update (ε := ε) id change) := blind_change

theorem blind_start (limit : Int) (id : String) : Blind g (start (ε := ε) limit id) :=
  blind_live id <| Act.alike_bind (Act.blind_ofExcept _) fun _ => Act.alike_bind blind_change
    fun _ => Act.alike_bind (alike_note _ _) fun _ => Act.blind_pure _

theorem blind_stop (id : String) : Blind g (stop (ε := ε) id) := by
  refine Act.agree_get_bind fun s t h => ?_
  rw [h.records]
  split
  · exact ⟨rfl, { h with records := rfl }⟩
  · exact ⟨rfl, h⟩

theorem blind_addBreakpoint (id typeName target : String) :
    Blind g (addBreakpoint (ε := ε) id typeName target) := by
  unfold addBreakpoint
  cases BreakpointType.ofName? typeName with
  | none => exact Act.blind_throw _
  | some type =>
      dsimp only
      split
      · exact Act.blind_throw_bind _ _
      · exact blind_live id <| Act.alike_bind (blind_record id) fun _ =>
          Act.alike_bind (blind_update id _) fun _ => Act.alike_bind (alike_note _ _) fun _ =>
            Act.blind_pure _

theorem blind_removeBreakpoint (id breakpoint : String) :
    Blind g (removeBreakpoint (ε := ε) id breakpoint) :=
  blind_live id <| Act.alike_bind (blind_record id) fun _ => Act.alike_bind (blind_update id _)
    fun _ => Act.blind_pure _

theorem blind_breakpoints (id : String) : Blind g (breakpoints (ε := ε) id) :=
  Act.alike_bind (blind_record id) fun _ => Act.blind_pure _

theorem blind_readVariable (he : engine.Blind) (story : StoryId) (name : String) :
    Blind g (readVariable engine story name) := by
  refine Act.alike_bind (Act.alike_attempt (alike_onStage (he.getVariable story name))) fun r => ?_
  cases r with
  | ok v => exact Act.blind_pure v
  | error f => exact Act.alike_bind (alike_note _ _) fun _ => Act.blind_pure _

theorem blind_readVariables (he : engine.Blind) (story : StoryId) :
    ∀ names : List String, Blind g (readVariables engine story names)
  | [] => Act.blind_pure _
  | name :: rest => Act.alike_bind (blind_readVariable he story name) fun _ =>
      Act.alike_bind (blind_readVariables he story rest) fun _ => Act.blind_pure _

theorem blind_addWatch (he : engine.Blind) (id name : String) :
    Blind g (addWatch engine id name) := by
  refine Act.agree_bind (agree_session id) fun x y hxy => ?_
  rw [story_of_look hxy]
  exact Act.alike_bind (blind_record id) fun _ => Act.alike_bind (blind_readVariable he _ name)
    fun _ => Act.alike_bind (blind_update id _) fun _ => Act.blind_pure _

theorem blind_removeWatch (id name : String) : Blind g (removeWatch (ε := ε) id name) :=
  blind_live id <| Act.alike_bind (blind_record id) fun _ => Act.alike_bind (blind_update id _)
    fun _ => Act.blind_pure _

theorem blind_lookAtWatches (he : engine.Blind) (id : String) (story : StoryId)
    (before : List (String × Json)) : Blind g (lookAtWatches engine id story before) := by
  induction before with
  | nil => exact Act.blind_pure _
  | cons watch rest ih =>
      refine Act.alike_bind (blind_readVariable he story watch.1) fun new =>
        Act.alike_bind (blind_update id _) fun _ => Act.alike_bind (Act.blind_ofExcept _)
          fun same => ?_
      cases same with
      | true => exact ih
      | false => exact Act.alike_bind (blind_update id _) fun _ => Act.alike_bind ih fun _ =>
          Act.blind_pure _

theorem blind_advance (he : engine.Blind) (id : String) : Blind g (advance engine id) := by
  refine Act.agree_bind (agree_session id) fun x y hxy => ?_
  dsimp only
  rw [story_of_look hxy]
  refine Act.alike_bind (blind_record id) fun r =>
    Act.alike_bind (alike_onStage (he.canContinue _)) fun can => ?_
  cases can with
  | false => exact Act.alike_bind (alike_onStage (he.choices _)) fun _ => Act.blind_throw_bind _ _
  | true => exact Act.alike_bind (blind_readVariables he _ _) fun _ =>
      Act.alike_bind (alike_onStage (he.continueLine _)) fun _ => Act.blind_pure _

theorem blind_pauseAt (id : String) (number : Nat) :
    ∀ hit : Option Breakpoint, Blind g (pauseAt (ε := ε) id number hit)
  | none => Act.blind_pure _
  | some _ => Act.alike_bind (blind_update id _) fun _ => alike_note _ _

theorem blind_judge (he : engine.Blind) (id : String) (p : Passage) :
    Blind g (judge engine id p) :=
  Act.alike_bind (blind_record id) fun _ => Act.alike_bind (blind_update id _) fun _ =>
    Act.alike_bind (blind_lookAtWatches he id _ _) fun _ => Act.alike_bind (blind_record id)
      fun _ => Act.alike_bind (Act.blind_ofExcept _) fun _ => Act.blind_pure _

theorem blind_conclude (id : String) (told : Continuation) (v : Verdict) :
    Blind g (conclude (ε := ε) id told v) :=
  Act.alike_bind (blind_pauseAt id _ _) fun _ => Act.alike_bind (Act.blind_ofExcept _) fun _ =>
    Act.alike_bind blind_readClock fun _ => Act.alike_bind (blind_update id _) fun _ =>
      Act.alike_bind (blind_record id) fun _ => Act.blind_pure _

theorem blind_step (he : engine.Blind) (id : String) : Blind g (step engine id) :=
  Act.alike_bind (blind_advance he id) fun p => Act.alike_bind (blind_judge he id p) fun v =>
    blind_conclude id p.told v

theorem blind_steps (he : engine.Blind) (id : String) :
    ∀ (n : Nat) (last : StepOutcome), Blind g (steps engine id n last)
  | 0, last => Act.blind_pure last
  | n + 1, last => by
      rw [steps]
      split
      · exact Act.blind_pure last
      · exact Act.alike_bind (blind_step he id) fun o => blind_steps he id n o

theorem blind_unpause (id : String) : Blind g (unpause (ε := ε) id) :=
  blind_live id <| Act.alike_bind (blind_record id) fun _ => Act.alike_bind (blind_update id _)
    fun _ => Act.blind_pure _

theorem blind_continueFor (he : engine.Blind) (id : String) (most : Int) :
    Blind g (continueFor engine id most) := by
  refine Act.alike_bind (blind_unpause id) fun r => ?_
  cases most.toNat with
  | zero => exact Act.blind_pure _
  | succ n => exact Act.alike_bind (blind_step he id) fun o => blind_steps he id n o

theorem blind_inspect (he : engine.Blind) (id : String) : Blind g (inspect engine id) := by
  refine Act.agree_bind (agree_session id) fun x y hxy => ?_
  rw [story_of_look hxy]
  exact Act.alike_bind (blind_record id) fun _ => Act.alike_bind (blind_readVariables he _ _)
    fun _ => Act.alike_bind (Act.blind_ofExcept _) fun _ => Act.blind_pure _

theorem blind_trace (id : String) (n : Int) : Blind g (trace (ε := ε) id n) :=
  Act.alike_bind (blind_record id) fun _ => Act.blind_pure _

end Debug

/-! ## The author -/

namespace Author

variable {δ : Type} (pace : Pace δ) (settings : Settings)

theorem blind_request (messages : List ChatMessage) :
    Stage.Blind (request (δ := δ) settings messages) := by
  refine Act.alike_bind (Stage.blind_inEngine _) fun _ => Act.agree_get_bind fun x y h => ?_
  rw [show x.engine = y.engine from h]
  exact (Act.alike_bind (Stage.blind_inEngine _) fun _ => Act.blind_pure _) x y h

theorem blind_take (texts : List (Option String)) (usage : Option (Int × Int)) :
    Stage.Blind (take (δ := δ) texts usage) := by
  have hfirst : Stage.Blind (take (δ := δ) texts none) := by
    cases texts with
    | nil => exact Act.blind_throw _
    | cons text _ => exact Act.blind_pure _
  cases usage with
  | none => exact hfirst
  | some usage => exact Act.alike_bind (Stage.blind_inEngine _) fun _ => hfirst

theorem blind_attempts (messages : List ChatMessage) :
    ∀ left attempt, Stage.Blind (attempts pace settings messages left attempt)
  | 0, _ => Act.blind_throw _
  | left + 1, attempt => by
      refine Act.alike_bind (blind_request settings messages) fun answer => ?_
      cases answer with
      | completion texts usage => exact blind_take texts usage
      | failed message => exact Act.blind_throw _
      | status code message header =>
          dsimp only
          split
          · exact Act.blind_throw _
          · exact Act.alike_bind (Act.blind_ofExcept _) fun _ =>
              Act.alike_bind (Stage.alike_note _ _) fun _ =>
                Act.alike_bind (Stage.blind_inEngine _) fun _ => blind_attempts messages left _

theorem blind_complete (instruction data : String) :
    Stage.Blind (complete settings instruction data) :=
  Act.alike_bind (Stage.blind_inEngine _) fun _ => blind_attempts .doubles settings _ _ _

theorem blind_generate (prompt : String) : Stage.Blind (generate settings prompt) :=
  Act.alike_map _ (blind_complete settings _ _)

theorem blind_translate (source : String) : Stage.Blind (translate settings source) :=
  Act.alike_map _ (blind_complete settings _ _)

end Author

/-! ## Requests -/

namespace Toolbox

open Server

variable {ε α : Type} {g : Glance} {box : Toolbox ε}

theorem blind_withStory (id : String) {act : StoryId → Act (Stage ε) α}
    (h : ∀ story, Stage.Blind (act story)) : Blind g (withStory id act) := by
  refine Act.agree_bind (agree_session id) fun x y hxy => ?_
  rw [story_of_look hxy]
  exact alike_onStage (h _)

theorem blind_resume (he : box.engine.Blind) (state : Option String) (story : StoryId) :
    Stage.Blind (box.resume state story) := by
  cases state with
  | none => exact he.continueStory story
  | some state => exact Act.alike_bind (he.loadState story state) fun _ => he.continueStory story

theorem blind_play (he : box.engine.Blind) (id : String) (state : Option String) :
    Blind g (box.play id state) :=
  Act.alike_orElseDo (blind_withStory id (blind_resume he state))
    (Act.alike_bind (Registry.blind_endSession he id) fun _ => Act.blind_pure _)

/-- Starts do the same if what they open is the same and their sources look the same. -/
theorem alike_startFrom (he : box.engine.Blind) {a b : String} (hab : g.Overlooks a b)
    {openStory openStory' : Act (Stage ε) StoryId}
    (ho : Act.Alike (Stage.Over (· = ·)) openStory openStory') (id state : Option String) :
    Act.Alike (Matches g) (box.startFrom openStory id a state)
      (box.startFrom openStory' id b state) := by
  refine Act.alike_bind (Registry.alike_create he hab (alike_onStage ho) id) fun name => ?_
  have hplay : Blind g (do return (name, ← box.play name state)) :=
    Act.alike_bind (blind_play he name state) fun _ => Act.blind_pure _
  dsimp only
  split
  · exact Act.alike_bind (Debug.blind_stop name) fun _ => hplay
  · exact hplay

theorem blind_choose (he : box.engine.Blind) (choice : Int) (continues : Bool) (story : StoryId) :
    Stage.Blind (box.choose choice continues story) := by
  refine Act.alike_bind (he.choices story) fun choices => ?_
  dsimp only
  split
  · exact Act.blind_throw_bind _ _
  · refine Act.alike_bind (he.choose story choice) fun _ => ?_
    split
    · exact he.continueStory story
    · exact Act.alike_bind (he.canContinue story) fun _ => Act.alike_bind (he.choices story)
        fun _ => Act.blind_pure _

theorem blind_asAuthor {act : Author.Settings → Act Author.Work String}
    (h : ∀ settings, Stage.Blind (act settings)) : Blind g (box.asAuthor act) := by
  unfold asAuthor
  split
  · exact blind_onAuthor (h _)
  · exact Act.blind_throw _

theorem blind_generate (he : box.engine.Blind) (prompt : String) :
    Blind g (box.generate prompt) := by
  refine Act.alike_bind (blind_asAuthor fun settings => Author.blind_generate settings prompt)
    fun source => Act.alike_bind (Act.alike_caught (alike_onStage (he.compile source))) fun r => ?_
  cases r with
  | ok c => exact Act.alike_bind (Act.blind_pure _) fun _ => Act.blind_pure _
  | error f =>
      exact Act.alike_bind (alike_note _ _) fun _ => Act.alike_bind (Act.blind_pure _) fun _ =>
        Act.blind_pure _

theorem blind_generateAndPlay (he : box.engine.Blind) (prompt : String) :
    Blind g (box.generateAndPlay prompt) := by
  refine Act.alike_bind (blind_asAuthor fun settings => Author.blind_generate settings prompt)
    fun source => Act.alike_bind (alike_onStage (he.compile source)) fun c => ?_
  dsimp only
  split
  · exact Act.blind_pure _
  · exact Act.alike_bind (alike_startFrom he (g.overlooks_self source) (he.openSource source) none
      none) fun _ => Act.blind_pure _

theorem blind_modelInfo : Blind g (box.answer .modelInfo) := by
  rw [answer]
  split
  · refine Act.agree_get_bind fun s t h => ?_
    rw [h.author]
    exact ⟨rfl, h⟩
  · exact Act.blind_throw _

/-- Every request does the same on servers that match. -/
theorem answer_blind (he : box.engine.Blind) (r : Request) : Blind g (box.answer r) := by
  cases r with
  | compileInk source =>
      exact Act.alike_bind (alike_onStage (he.compile source)) fun _ => Act.blind_pure _
  | startStory source id =>
      exact Act.alike_bind (alike_startFrom he (g.overlooks_self source) (he.openSource source) id
        none) fun _ => Act.blind_pure _
  | startStoryJson json id state =>
      exact Act.alike_bind (alike_startFrom he (g.overlooks_self "") (he.openCompiled json) id
        state) fun _ => Act.blind_pure _
  | choose id choice continues =>
      exact Act.alike_bind (blind_withStory id (blind_choose he choice continues)) fun _ =>
        Act.blind_pure _
  | continueStory id =>
      exact Act.alike_bind (blind_withStory id he.continueStory) fun _ => Act.blind_pure _
  | getVariable id name =>
      exact Act.alike_bind (blind_withStory id fun story => he.getVariable story name) fun _ =>
        Act.blind_pure _
  | setVariable id name v =>
      exact Act.alike_bind (blind_withStory id fun story => he.setVariable story name v) fun _ =>
        Act.blind_pure _
  | saveState id =>
      exact Act.alike_bind (blind_withStory id he.saveState) fun state =>
        Act.alike_bind (Registry.blind_keepState id state) fun _ => Act.blind_pure _
  | loadState id state =>
      exact Act.alike_bind (blind_withStory id fun story => he.loadState story state) fun _ =>
        Act.blind_pure _
  | resetStory id =>
      exact Act.alike_bind (blind_withStory id fun story =>
        Act.alike_bind (he.reset story) fun _ => he.continueStory story) fun _ => Act.blind_pure _
  | evaluateFunction id function arguments =>
      exact Act.alike_bind (blind_withStory id fun story => he.evaluate story function arguments)
        fun _ => Act.alike_bind (Act.blind_ofExcept _) fun _ => Act.blind_pure _
  | getGlobalTags id =>
      exact Act.alike_bind (blind_withStory id he.globalTags) fun _ => Act.blind_pure _
  | listSessions => exact Act.alike_bind Registry.blind_ids fun _ => Act.blind_pure _
  | endSession id =>
      exact Act.alike_bind (Registry.blind_endSession he id) fun _ => Act.blind_pure _
  | bidify text => exact Act.alike_bind (alike_onStage (he.bidify text)) fun _ => Act.blind_pure _
  | stripBidi text =>
      exact Act.alike_bind (alike_onStage (he.stripBidi text)) fun _ => Act.blind_pure _
  | bidifyJson json =>
      exact Act.alike_bind (alike_onStage (he.bidifyCompiled json)) fun _ => Act.blind_pure _
  | startDebug id => exact Debug.blind_start _ id
  | addBreakpoint id type target =>
      exact Act.alike_bind (Debug.blind_addBreakpoint id type target) fun _ => Act.blind_pure _
  | removeBreakpoint id breakpoint =>
      exact Act.alike_bind (Debug.blind_removeBreakpoint id breakpoint) fun _ => Act.blind_pure _
  | listBreakpoints id =>
      exact Act.alike_bind (Debug.blind_breakpoints id) fun _ => Act.blind_pure _
  | debugStep id => exact Act.alike_bind (Debug.blind_step he id) fun _ => Act.blind_pure _
  | debugContinue id most =>
      exact Act.alike_bind (Debug.blind_continueFor he id most) fun _ => Act.blind_pure _
  | addWatch id name =>
      exact Act.alike_bind (Debug.blind_addWatch he id name) fun _ => Act.blind_pure _
  | removeWatch id name =>
      exact Act.alike_bind (Debug.blind_removeWatch id name) fun _ => Act.blind_pure _
  | debugInspect id => exact Debug.blind_inspect he id
  | debugTrace id n => exact Act.alike_bind (Debug.blind_trace id n) fun _ => Act.blind_pure _
  | endDebug id => exact Act.alike_bind (Debug.blind_stop id) fun _ => Act.blind_pure _
  | llmChat message =>
      exact Act.alike_bind (blind_asAuthor fun settings => Author.blind_complete settings _ _)
        fun _ => Act.blind_pure _
  | generateInk prompt => exact blind_generate he prompt
  | reviewInk source =>
      exact Act.alike_bind (blind_asAuthor fun settings => Author.blind_complete settings _ _)
        fun _ => Act.blind_pure _
  | translateInkHebrew source =>
      exact Act.alike_bind (blind_asAuthor fun settings => Author.blind_translate settings source)
        fun _ => Act.blind_pure _
  | generateCompilePlay prompt => exact blind_generateAndPlay he prompt
  | modelInfo => exact blind_modelInfo

/-! ## Calls -/

/-- Tools do the same with arguments whose requests do the same. -/
theorem alike_perform {tool tool' : Tool} {arguments arguments' : Json}
    (h : Act.Related (· = ·) (fun r r' => Act.Alike (Matches g) (box.answer r) (box.answer r'))
      (Request.ofJson (argumentsOf arguments) tool)
      (Request.ofJson (argumentsOf arguments') tool')) :
    Act.Alike (Matches g) (box.perform tool arguments) (box.perform tool' arguments') :=
  Act.agree_bind (Act.agree_ofExcept h) fun _ _ hanswer =>
    Act.alike_bind hanswer fun _ => Act.blind_ofExcept _

theorem blind_perform (he : box.engine.Blind) (tool : Tool) (arguments : Json) :
    Blind g (box.perform tool arguments) :=
  alike_perform (Act.related_refl (fun _ => rfl) (fun r => answer_blind he r) _)

/-- Calls of tools that do the same, which only the log tells apart. -/
theorem alike_call {name name' : String} {tool tool' : Tool} {arguments arguments' : Json}
    (htool : box.find? name = some tool) (htool' : box.find? name' = some tool')
    (h : Act.Alike (Matches g) (box.perform tool arguments) (box.perform tool' arguments')) :
    Act.Alike (Matches g) (box.call name arguments) (box.call name' arguments') := by
  rw [call, call, htool, htool']
  refine Act.alike_bind (Act.alike_caught h) fun r => ?_
  cases r with
  | ok text => exact Act.blind_pure _
  | error f => exact Act.alike_bind (alike_note _ _) fun _ => Act.blind_pure _

theorem call_blind (he : box.engine.Blind) (name : String) (arguments : Json) :
    Blind g (box.call name arguments) := by
  cases htool : box.find? name with
  | none =>
      rw [call, htool]
      exact Act.blind_pure _
  | some tool => exact alike_call htool htool (blind_perform he tool arguments)

variable (box) in
/-- What a call answers. -/
def result (c : ToolCall) (s : Server ε) : Except Fault ToolResult :=
  ((box.call c.name c.arguments).on s).1

variable (box) in
/-- What some calls answer. -/
def results : List ToolCall → Server ε → List (Except Fault ToolResult)
  | [], _ => []
  | c :: rest, s => box.result c s :: results rest (box.after c s)

variable {s t : Server ε}

/-- A call answers the same on servers that match, and leaves servers that match. -/
theorem result_matches (he : box.engine.Blind) (h : Matches g s t) (c : ToolCall) :
    box.result c s = box.result c t ∧ Matches g (box.after c s) (box.after c t) :=
  (call_blind he c.name c.arguments).run h

theorem results_matches (he : box.engine.Blind) : ∀ (calls : List ToolCall) {s t : Server ε},
    Matches g s t → box.results calls s = box.results calls t
  | [], _, _, _ => rfl
  | c :: rest, s, t, h => by
      obtain ⟨hresult, hafter⟩ := result_matches he h c
      rw [results, results, hresult, results_matches he rest hafter]

end Toolbox

/-! ## Stories told in process -/

/-- No operation on stories that are told in process looks at the log. -/
theorem Ink.engine_blind (setup : Ink.Setup) : (Ink.engine setup).Blind where
  compile _ := Act.blind_ofExcept _
  openSource _ := Stage.blind_inEngine _
  openCompiled _ := Stage.blind_inEngine _
  continueStory _ := Stage.blind_inEngine _
  continueLine _ := Stage.blind_inEngine _
  canContinue _ := Stage.blind_inEngine _
  choose _ _ := Stage.blind_inEngine _
  choices _ := Stage.blind_inEngine _
  getVariable _ _ := Stage.blind_inEngine _
  setVariable _ _ _ := Stage.blind_inEngine _
  saveState _ := Stage.blind_inEngine _
  loadState _ _ := Stage.blind_inEngine _
  reset _ := Stage.blind_inEngine _
  evaluate _ _ _ := Stage.blind_inEngine _
  globalTags _ := Stage.blind_inEngine _
  close _ := Stage.blind_inEngine _
  bidify _ := Act.blind_pure _
  stripBidi _ := Act.blind_pure _
  bidifyCompiled _ := Act.blind_ofExcept _

end StoryServer
