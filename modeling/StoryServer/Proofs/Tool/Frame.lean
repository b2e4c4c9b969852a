import StoryServer.Proofs.Frame
import StoryServer.Tool.Toolbox

/-!
# What requests leave alone

The *holdings* of a server are who holds which story, together with a view of the engine's
state.  If everything an engine does but opening and closing keeps the view, then every
request that neither starts nor ends a session keeps the holdings (`answer_leads`).
-/

namespace StoryServer

namespace Server

variable {ε α γ : Type}

/-- The live sessions with their stories. -/
def held (s : Server ε) : List (String × StoryId) := s.sessions.map fun t => (t.id, t.story)

/-- Related states of the engine, and the same live sessions with their stories. -/
def Aside (R : ε → ε → Prop) (s t : Server ε) : Prop :=
  R s.stage.engine t.stage.engine ∧ t.held = s.held

instance {R : ε → ε → Prop} [IsPreorder ε R] : IsPreorder (Server ε) (Aside R) where
  refl s := ⟨refl_of R s.stage.engine, rfl⟩
  trans _ _ _ h h' := ⟨trans_of R h.1 h'.1, h'.2.trans h.2⟩

/-- A view of the engine's state, and the live sessions with their stories. -/
def holdings (view : ε → γ) (s : Server ε) : γ × List (String × StoryId) :=
  (view s.stage.engine, s.held)

/-- The holdings are kept when the view is. -/
theorem keeps_of_leads {view : ε → γ} {act : Act (Server ε) α}
    (h : Act.Leads (Aside (Same view)) act) : Act.Keeps (holdings view) act := fun s =>
  Prod.ext (h s).1 (h s).2

section Looking

/-! A look at the tables changes nothing, so it leads along every preorder. -/

variable {T : Server ε → Server ε → Prop} [IsPreorder (Server ε) T]

theorem leads_session (id : String) : Act.Leads T (session id) := by
  refine Act.leads_bind Act.leads_get fun s => ?_
  split
  · exact Act.leads_pure _
  · exact Act.leads_throw _

theorem leads_record (id : String) : Act.Leads T (record id) := by
  refine Act.leads_bind Act.leads_get fun s => ?_
  split
  · exact Act.leads_pure _
  · exact Act.leads_throw _

end Looking

variable {R : ε → ε → Prop}

/-- An action on the stage leaves the tables alone. -/
theorem leads_onStage {act : Act (Stage ε) α} (h : Act.Leads (Stage.Over R) act) :
    Act.Leads (Aside R) (onStage act) := Act.leads_within h fun _ _ ht => ⟨ht, rfl⟩

variable [IsPreorder ε R]

theorem leads_note (line : String) : Act.Leads (Aside R) (note line) :=
  leads_onStage (Stage.leads_note line)

/-- The author has a state of its own, apart from the engine. -/
theorem leads_onAuthor (act : Act Author.Work α) : Act.Leads (Aside R) (onAuthor act) :=
  fun s => ⟨refl_of R s.stage.engine, rfl⟩

theorem leads_readClock : Act.Leads (Aside R) (readClock (ε := ε)) :=
  fun s => ⟨refl_of R s.stage.engine, rfl⟩

end Server

namespace Debug

open Server

variable {ε α : Type} {engine : StoryEngine ε}

section Looking

variable {T : Server ε → Server ε → Prop} [IsPreorder (Server ε) T]

theorem leads_breakpoints (id : String) : Act.Leads T (breakpoints id) :=
  Act.leads_bind (leads_record id) fun _ => Act.leads_pure _

theorem leads_trace (id : String) (n : Int) : Act.Leads T (trace id n) :=
  Act.leads_bind (leads_record id) fun _ => Act.leads_pure _

variable (hnote : ∀ line, Act.Leads T (note line))

include hnote

/-- Reading a variable leads as far as the engine and the log do. -/
theorem leads_readVariable (story : StoryId) (name : String)
    (hget : Act.Leads T (onStage (engine.getVariable story name))) :
    Act.Leads T (readVariable engine story name) := by
  refine Act.leads_bind (Act.leads_attempt hget) fun r => ?_
  cases r with
  | ok v => exact Act.leads_pure v
  | error f => exact Act.leads_bind (hnote _) fun _ => Act.leads_pure _

/-- By induction on the names. -/
theorem leads_readVariables (story : StoryId)
    (hget : ∀ name, Act.Leads T (onStage (engine.getVariable story name))) :
    ∀ names : List String, Act.Leads T (readVariables engine story names)
  | [] => Act.leads_pure _
  | name :: rest => Act.leads_bind (leads_readVariable hnote story name (hget name)) fun _ =>
      Act.leads_bind (leads_readVariables story hget rest) fun _ => Act.leads_pure _

/-- Inspecting reads the watched variables and changes no record. -/
theorem leads_inspect (id : String)
    (hget : ∀ story name, Act.Leads T (onStage (engine.getVariable story name))) :
    Act.Leads T (inspect engine id) :=
  Act.leads_bind (leads_session id) fun session => Act.leads_bind (leads_record id) fun _ =>
    Act.leads_bind (leads_readVariables hnote session.story (hget _) _) fun _ =>
      Act.leads_bind (Act.leads_ofExcept _) fun _ => Act.leads_pure _

end Looking

variable {R : ε → ε → Prop}

theorem leads_getVariable (he : engine.LeadsUnrestored R) (story : StoryId) (name : String) :
    Act.Leads (Aside R) (onStage (engine.getVariable story name)) :=
  leads_onStage (he.getVariable story name)

variable [IsPreorder ε R]

/-- Records are no part of the holdings. -/
theorem leads_update (id : String) (change : Record → Record) :
    Act.Leads (Aside R) (update (ε := ε) id change) := fun s => ⟨refl_of R s.stage.engine, rfl⟩

theorem leads_start (limit : Int) (id : String) :
    Act.Leads (Aside R) (start (ε := ε) limit id) :=
  Act.leads_bind (leads_session id) fun _ => Act.leads_bind (Act.leads_ofExcept _) fun _ =>
    Act.leads_bind (Act.leads_modify fun s => ⟨refl_of R s.stage.engine, rfl⟩)
      fun _ => Act.leads_bind (leads_note _) fun _ => Act.leads_pure _

theorem leads_stop (id : String) : Act.Leads (Aside R) (stop (ε := ε) id) := by
  refine Act.leads_get_bind fun s => ?_
  split <;> exact ⟨refl_of R s.stage.engine, rfl⟩

/-- A breakpoint that is refused changes nothing; one that is set goes into the record alone. -/
theorem leads_addBreakpoint (id typeName target : String) :
    Act.Leads (Aside R) (addBreakpoint (ε := ε) id typeName target) := by
  unfold addBreakpoint
  cases BreakpointType.ofName? typeName with
  | none => exact Act.leads_throw _
  | some type =>
      dsimp only
      split
      · exact Act.leads_throw_bind _ _
      · exact Act.leads_bind (leads_session id) fun _ => Act.leads_bind (leads_record id) fun _ =>
          Act.leads_bind (leads_update id _) fun _ => Act.leads_bind (leads_note _) fun _ =>
            Act.leads_pure _

theorem leads_removeBreakpoint (id breakpoint : String) :
    Act.Leads (Aside R) (removeBreakpoint (ε := ε) id breakpoint) :=
  Act.leads_bind (leads_session id) fun _ => Act.leads_bind (leads_record id) fun _ =>
    Act.leads_bind (leads_update id _) fun _ => Act.leads_pure _

/-- A new watch reads the variable once, and that is all the engine is asked. -/
theorem leads_addWatch (he : engine.LeadsUnrestored R) (id name : String) :
    Act.Leads (Aside R) (addWatch engine id name) :=
  Act.leads_bind (leads_session id) fun _ => Act.leads_bind (leads_record id) fun _ =>
    Act.leads_bind (leads_readVariable leads_note _ name (leads_getVariable he _ _)) fun _ =>
      Act.leads_bind (leads_update id _) fun _ => Act.leads_pure _

theorem leads_removeWatch (id name : String) :
    Act.Leads (Aside R) (removeWatch (ε := ε) id name) :=
  Act.leads_bind (leads_session id) fun _ => Act.leads_bind (leads_record id) fun _ =>
    Act.leads_bind (leads_update id _) fun _ => Act.leads_pure _

/-- By induction on the watches; the engine is asked for one variable at each. -/
theorem leads_lookAtWatches (he : engine.LeadsUnrestored R) (id : String) (story : StoryId)
    (before : List (String × Json)) :
    Act.Leads (Aside R) (lookAtWatches engine id story before) := by
  induction before with
  | nil => exact Act.leads_pure _
  | cons watch rest ih =>
      have hread := leads_readVariable leads_note story watch.1 (leads_getVariable he _ _)
      refine Act.leads_bind hread fun new => Act.leads_bind (leads_update id _) fun _ =>
        Act.leads_bind (Act.leads_ofExcept _) fun same => ?_
      cases same with
      | true => exact ih
      | false => exact Act.leads_bind (leads_update id _) fun _ => Act.leads_bind ih fun _ =>
          Act.leads_pure _

/-- The engine tells one line, or says what is on offer where there is none. -/
theorem leads_advance (he : engine.LeadsUnrestored R) (id : String) :
    Act.Leads (Aside R) (advance engine id) := by
  refine Act.leads_bind (leads_session id) fun session => Act.leads_bind (leads_record id) fun r =>
    Act.leads_bind (leads_onStage (he.canContinue _)) fun can => ?_
  cases can with
  | false => exact Act.leads_bind (leads_onStage (he.choices _)) fun _ => Act.leads_throw_bind _ _
  | true => exact Act.leads_bind (leads_readVariables leads_note _ (leads_getVariable he _) _) fun _ =>
      Act.leads_bind (leads_onStage (he.continueLine _)) fun _ => Act.leads_pure _

theorem leads_pauseAt (id : String) (number : Nat) :
    ∀ hit : Option Breakpoint, Act.Leads (Aside R) (pauseAt (ε := ε) id number hit)
  | none => Act.leads_pure _
  | some _ => Act.leads_bind (leads_update id _) fun _ => leads_note _

/-- Judging a line asks the engine for the watched variables only. -/
theorem leads_judge (he : engine.LeadsUnrestored R) (id : String) (p : Passage) :
    Act.Leads (Aside R) (judge engine id p) :=
  Act.leads_bind (leads_record id) fun _ => Act.leads_bind (leads_update id _) fun _ =>
    Act.leads_bind (leads_lookAtWatches he id _ _) fun _ => Act.leads_bind (leads_record id) fun _ =>
      Act.leads_bind (Act.leads_ofExcept _) fun _ => Act.leads_pure _

theorem leads_conclude (id : String) (told : Continuation) (v : Verdict) :
    Act.Leads (Aside R) (conclude (ε := ε) id told v) :=
  Act.leads_bind (leads_pauseAt id _ _) fun _ => Act.leads_bind (Act.leads_ofExcept _) fun _ =>
    Act.leads_bind leads_readClock fun _ => Act.leads_bind (leads_update id _) fun _ =>
      Act.leads_bind (leads_record id) fun _ => Act.leads_pure _

/-- A step advances, judges and concludes, and each part leads on from the one before. -/
theorem leads_step (he : engine.LeadsUnrestored R) (id : String) :
    Act.Leads (Aside R) (step engine id) :=
  Act.leads_bind (leads_advance he id) fun p => Act.leads_bind (leads_judge he id p) fun v =>
    leads_conclude id p.told v

/-- By induction on the steps that may still be made; a pause ends them. -/
theorem leads_steps (he : engine.LeadsUnrestored R) (id : String) :
    ∀ (n : Nat) (last : StepOutcome), Act.Leads (Aside R) (steps engine id n last)
  | 0, last => Act.leads_pure last
  | n + 1, last => by
      rw [steps]
      split
      · exact Act.leads_pure last
      · exact Act.leads_bind (leads_step he id) fun o => leads_steps he id n o

theorem leads_unpause (id : String) : Act.Leads (Aside R) (unpause (ε := ε) id) :=
  Act.leads_bind (leads_session id) fun _ => Act.leads_bind (leads_record id) fun _ =>
    Act.leads_bind (leads_update id _) fun _ => Act.leads_pure _

theorem leads_continueFor (he : engine.LeadsUnrestored R) (id : String) (most : Int) :
    Act.Leads (Aside R) (continueFor engine id most) := by
  refine Act.leads_bind (leads_unpause id) fun r => ?_
  cases most.toNat with
  | zero => exact Act.leads_pure _
  | succ n => exact Act.leads_bind (leads_step he id) fun o => leads_steps he id n o

end Debug

namespace Registry

variable {ε : Type} {R : ε → ε → Prop} [IsPreorder ε R]

theorem leads_ids {T : Server ε → Server ε → Prop} [IsPreorder (Server ε) T] :
    Act.Leads T ids := Act.leads_bind Act.leads_get fun _ => Act.leads_pure _

/-- A kept state changes neither the ids nor the stories of sessions. -/
theorem leads_keepState (id : String) (state : Json) :
    Act.Leads (Server.Aside R) (keepState (ε := ε) id state) := by
  intro s
  have hheld : ∀ sessions : List Session,
      ((sessions.map fun t => if t.id == id then { t with saved := state } else t).map
        fun t => (t.id, t.story)) = sessions.map fun t => (t.id, t.story) := by
    intro sessions
    rw [List.map_map]
    refine List.map_congr_left fun t _ => ?_
    simp only [Function.comp]
    split <;> rfl
  exact ⟨refl_of R s.stage.engine, hheld s.sessions⟩

end Registry

/-- Whether a request restores a state. -/
def Request.restores : Request → Bool
  | .loadState .. | .startStoryJson _ _ (some _) => true
  | _ => false

/-- Whether a request neither starts nor ends a session. -/
def Request.isAside : Request → Bool
  | .startStory .. | .startStoryJson .. | .endSession _ | .generateCompilePlay _ => false
  | _ => true

namespace Toolbox

open Server

variable {ε α : Type} {R : ε → ε → Prop} [IsPreorder ε R] {box : Toolbox ε}

/-- A request that names a session acts on its story. -/
theorem leads_withStory (id : String) {act : StoryId → Act (Stage ε) α}
    (h : ∀ story, Act.Leads (Stage.Over R) (act story)) :
    Act.Leads (Aside R) (withStory id act) :=
  Act.leads_bind (leads_session id) fun _ => leads_onStage (h _)

/-- A story that starts from a state has it restored before it is told. -/
theorem leads_resume (he : box.engine.Leads R) (state : Option String) (story : StoryId) :
    Act.Leads (Stage.Over R) (box.resume state story) := by
  cases state with
  | none => exact he.continueStory story
  | some state => exact Act.leads_bind (he.loadState story state) fun _ => he.continueStory story

/-- A choice out of range fails after the engine was asked what is on offer. -/
theorem leads_choose (he : box.engine.LeadsUnrestored R) (choice : Int) (continues : Bool)
    (story : StoryId) :
    Act.Leads (Stage.Over R) (box.choose choice continues story) := by
  refine Act.leads_bind (he.choices story) fun choices => ?_
  dsimp only
  split
  · exact Act.leads_throw_bind _ _
  · refine Act.leads_bind (he.choose story choice) fun _ => ?_
    split
    · exact he.continueStory story
    · exact Act.leads_bind (he.canContinue story) fun _ => Act.leads_bind (he.choices story)
        fun _ => Act.leads_pure _

theorem leads_asAuthor (act : Author.Settings → Act Author.Work String) :
    Act.Leads (Aside R) (box.asAuthor act) := by
  unfold asAuthor
  split
  · exact leads_onAuthor _
  · exact Act.leads_throw _

/-- What the author writes is compiled, and a compiler that fails is reported in the log. -/
theorem leads_generate (he : box.engine.LeadsUnrestored R) (prompt : String) :
    Act.Leads (Aside R) (box.generate prompt) := by
  refine Act.leads_bind (leads_asAuthor _) fun source =>
    Act.leads_bind (Act.leads_caught (leads_onStage (he.compile source))) fun r => ?_
  cases r with
  | ok c => exact Act.leads_bind (Act.leads_pure _) fun _ => Act.leads_pure _
  | error f =>
      exact Act.leads_bind (leads_note _) fun _ => Act.leads_bind (Act.leads_pure _) fun _ =>
        Act.leads_pure _

/-- A request that starts, ends and restores nothing does not change who holds which story,
and leads as far as the engine's other operations. -/
theorem answer_leads_unrestored (he : box.engine.LeadsUnrestored R) {r : Request}
    (hr : r.isAside = true) (hrestores : r.restores = false) :
    Act.Leads (Aside R) (box.answer r) := by
  cases r with
  | startStory | startStoryJson | endSession | generateCompilePlay => simp [Request.isAside] at hr
  | loadState => simp [Request.restores] at hrestores
  | compileInk source =>
      exact Act.leads_bind (leads_onStage (he.compile source)) fun _ => Act.leads_pure _
  | choose id choice continues =>
      exact Act.leads_bind (leads_withStory id (leads_choose he choice continues)) fun _ =>
        Act.leads_pure _
  | continueStory id =>
      exact Act.leads_bind (leads_withStory id he.continueStory) fun _ => Act.leads_pure _
  | getVariable id name =>
      exact Act.leads_bind (leads_withStory id fun story => he.getVariable story name) fun _ =>
        Act.leads_pure _
  | setVariable id name v =>
      exact Act.leads_bind (leads_withStory id fun story => he.setVariable story name v) fun _ =>
        Act.leads_pure _
  | saveState id =>
      exact Act.leads_bind (leads_withStory id he.saveState) fun state =>
        Act.leads_bind (Registry.leads_keepState id state) fun _ => Act.leads_pure _
  | resetStory id =>
      exact Act.leads_bind (leads_withStory id fun story =>
        Act.leads_bind (he.reset story) fun _ => he.continueStory story) fun _ => Act.leads_pure _
  | evaluateFunction id function arguments =>
      exact Act.leads_bind (leads_withStory id fun story => he.evaluate story function arguments)
        fun _ => Act.leads_bind (Act.leads_ofExcept _) fun _ => Act.leads_pure _
  | getGlobalTags id =>
      exact Act.leads_bind (leads_withStory id he.globalTags) fun _ => Act.leads_pure _
  | listSessions => exact Act.leads_bind Registry.leads_ids fun _ => Act.leads_pure _
  | bidify text =>
      exact Act.leads_bind (leads_onStage (he.bidify text)) fun _ => Act.leads_pure _
  | stripBidi text =>
      exact Act.leads_bind (leads_onStage (he.stripBidi text)) fun _ => Act.leads_pure _
  | bidifyJson json =>
      exact Act.leads_bind (leads_onStage (he.bidifyCompiled json)) fun _ => Act.leads_pure _
  | startDebug id => exact Debug.leads_start _ id
  | addBreakpoint id type target =>
      exact Act.leads_bind (Debug.leads_addBreakpoint id type target) fun _ => Act.leads_pure _
  | removeBreakpoint id breakpoint =>
      exact Act.leads_bind (Debug.leads_removeBreakpoint id breakpoint) fun _ => Act.leads_pure _
  | listBreakpoints id => exact Act.leads_bind (Debug.leads_breakpoints id) fun _ => Act.leads_pure _
  | debugStep id => exact Act.leads_bind (Debug.leads_step he id) fun _ => Act.leads_pure _
  | debugContinue id most =>
      exact Act.leads_bind (Debug.leads_continueFor he id most) fun _ => Act.leads_pure _
  | addWatch id name => exact Act.leads_bind (Debug.leads_addWatch he id name) fun _ => Act.leads_pure _
  | removeWatch id name =>
      exact Act.leads_bind (Debug.leads_removeWatch id name) fun _ => Act.leads_pure _
  | debugInspect id => exact Debug.leads_inspect leads_note id (Debug.leads_getVariable he)
  | debugTrace id n => exact Act.leads_bind (Debug.leads_trace id n) fun _ => Act.leads_pure _
  | endDebug id => exact Act.leads_bind (Debug.leads_stop id) fun _ => Act.leads_pure _
  | llmChat message => exact Act.leads_bind (leads_asAuthor _) fun _ => Act.leads_pure _
  | generateInk prompt => exact leads_generate he prompt
  | reviewInk source => exact Act.leads_bind (leads_asAuthor _) fun _ => Act.leads_pure _
  | translateInkHebrew source => exact Act.leads_bind (leads_asAuthor _) fun _ => Act.leads_pure _
  | modelInfo =>
      rw [answer]
      split
      · exact Act.leads_bind Act.leads_get fun _ => Act.leads_pure _
      · exact Act.leads_throw _

/-- A request that neither starts nor ends a session does not change who holds which story,
and leads as far as the engine's other operations. -/
theorem answer_leads (he : box.engine.Leads R) {r : Request} (hr : r.isAside = true) :
    Act.Leads (Aside R) (box.answer r) := by
  cases hrestores : r.restores with
  | false => exact answer_leads_unrestored he.toLeadsUnrestored hr hrestores
  | true =>
      cases r with
      | loadState id state =>
          exact Act.leads_bind (leads_withStory id fun story => he.loadState story state) fun _ =>
            Act.leads_pure _
      | startStoryJson => cases hr
      | _ => cases hrestores

end Toolbox

/-! ## Holdings -/

section Holdings

variable {ε α γ : Type} {view : ε → γ} {box : Toolbox ε}

theorem Server.keeps_onStage {act : Act (Stage ε) α}
    (h : Act.Keeps (fun s : Stage ε => view s.engine) act) :
    Act.Keeps (holdings view) (onStage act) := keeps_of_leads (leads_onStage h)

theorem Server.keeps_note (line : String) : Act.Keeps (holdings view) (note line) :=
  keeps_of_leads (leads_note line)

theorem Debug.keeps_stop (id : String) : Act.Keeps (Server.holdings view) (stop (ε := ε) id) :=
  Server.keeps_of_leads (leads_stop id)

namespace Toolbox

/-- What acting on a story keeps, a request that names a session keeps. -/
theorem keeps_withStory (id : String) {act : StoryId → Act (Stage ε) α}
    (h : ∀ story, Act.Keeps (fun s : Stage ε => view s.engine) (act story)) :
    Act.Keeps (Server.holdings view) (withStory id act) :=
  Server.keeps_of_leads (leads_withStory id h)

theorem keeps_resume (he : box.engine.Keeps view) (state : Option String) (story : StoryId) :
    Act.Keeps (fun s : Stage ε => view s.engine) (box.resume state story) :=
  leads_resume he state story

theorem keeps_asAuthor (act : Author.Settings → Act Author.Work String) :
    Act.Keeps (Server.holdings view) (box.asAuthor act) := Server.keeps_of_leads (leads_asAuthor act)

/-- A request that neither starts nor ends a session changes neither who holds which story
nor what the engine's other operations keep. -/
theorem answer_keeps (he : box.engine.Keeps view) {r : Request} (hr : r.isAside = true) :
    Act.Keeps (Server.holdings view) (box.answer r) := Server.keeps_of_leads (answer_leads he hr)

end Toolbox

end Holdings

end StoryServer
