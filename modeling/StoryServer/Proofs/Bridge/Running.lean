import StoryServer.Bridge.Engine
import StoryServer.Proofs.Bridge.World
import StoryServer.Proofs.Frame

/-!
# Which processes run on

No operation of a bridge but opening a story leaves a process behind: what runs after it ran before
it (`Calms`), also when it fails (`engine_leads`).  Compiling and marking texts start a process of
their own and end it.  Opening a story leaves one new process when it succeeds, and none when it
fails (`openStory_opensOne`).  A process that still belongs to a story does not run any more when it
was ended (`terminate_ends`), whether it ends when asked to or not.
-/

namespace StoryServer

namespace Bridge

variable {σ : Type}

/-- Every process that runs ran before, and belongs to its story if it did. -/
structure Calms (w w' : World σ) : Prop where
  grows : w.processes.length ≤ w'.processes.length
  ran : ∀ n, (w'.look n).running = true →
    (w.look n).running = true ∧ ((w.look n).attached = true → (w'.look n).attached = true)

instance : IsPreorder (World σ) Calms where
  refl _ := ⟨Nat.le_refl _, fun _ h => ⟨h, fun ha => ha⟩⟩
  trans _ _ _ h h' := ⟨Nat.le_trans h.grows h'.grows, fun n hn =>
    have ⟨hmid, ha'⟩ := h'.ran n hn
    have ⟨hfirst, ha⟩ := h.ran n hmid
    ⟨hfirst, ha' ∘ ha⟩⟩

namespace World

variable {w w' : World σ} {id n : StoryId}

/-- Only processes are looked at. -/
theorem look_congr (h : w'.processes = w.processes) (n : StoryId) : w'.look n = w.look n := by
  rw [look, look, h]

theorem calms_of_processes (h : w'.processes = w.processes) : Calms w w' :=
  ⟨Nat.le_of_eq (congrArg List.length h.symm), fun n hn => by
    rw [look_congr h] at hn ⊢
    exact ⟨hn, fun ha => ha⟩⟩

/-- No process is where none was started. -/
theorem look_unknown (h : w.processes.length ≤ n) :
    w.look n = { running := false, attached := false } := by
  rw [look, List.getElem?_eq_none h, Option.getD_none]

theorem known_of_running (h : (w.look n).running = true) : n < w.processes.length := by
  refine Nat.lt_of_not_le fun hle => ?_
  rw [look_unknown hle] at h
  cases h

/-- A change that starts no process and takes none from its story unless it ends it. -/
theorem calms_change {f : Process → Process} (hf : ∀ p : Process, (f p).running = true →
    p.running = true ∧ (p.attached = true → (f p).attached = true)) : Calms w (w.change id f) := by
  refine ⟨Nat.le_of_eq length_change.symm, fun n hn => ?_⟩
  by_cases hne : n = id
  · subst hne
    have hlt : n < w.processes.length := length_change (f := f) ▸ known_of_running hn
    rw [look_change hlt] at hn ⊢
    exact hf _ hn
  · rw [look_change_ne hne] at hn ⊢
    exact ⟨hn, fun ha => ha⟩

/-! ## Talking to a process -/

theorem leads_record (e : Event) : Act.Leads (Stage.Over Calms) (record (σ := σ) e) :=
  fun _ => calms_of_processes rfl

theorem leads_process (id : StoryId) : Act.Leads (Stage.Over Calms) (process (σ := σ) id) :=
  fun _ => calms_of_processes rfl

theorem leads_update {f : Process → Process} (hf : ∀ p : Process, (f p).running = true →
    p.running = true ∧ (p.attached = true → (f p).attached = true)) :
    Act.Leads (Stage.Over Calms) (update (σ := σ) id f) := fun _ => calms_change hf

theorem leads_terminate (id : StoryId) : Act.Leads (Stage.Over Calms) (terminate (σ := σ) id) := by
  intro x
  obtain ⟨events, -, hon⟩ := terminate_on id x
  rw [hon]
  have hevents : Calms x.engine { x.engine with events := events ++ x.engine.events } :=
    calms_of_processes rfl
  refine trans_of Calms hevents (calms_change fun p hp => ?_)
  rw [Process.ended, Bool.and_eq_true] at hp
  refine ⟨hp.1, fun ha => ?_⟩
  rw [ha] at hp
  cases hp.2

theorem leads_takeErrors (id : StoryId) (lines : List String) :
    Act.Leads (Stage.Over Calms) (takeErrors (σ := σ) id lines) := by
  induction lines with
  | nil => exact Act.leads_pure ()
  | cons line rest ih =>
      rw [takeErrors]
      have hkeep (p : Process) (hp : (p.keepError line).running = true) :
          p.running = true ∧ (p.attached = true → (p.keepError line).attached = true) := by
        obtain ⟨hrunning, hattached, -⟩ := Process.fields_of_bare (p.bare_keepError line)
        exact ⟨hrunning ▸ hp, fun ha => hattached.trans ha⟩
      split
      · exact Act.leads_bind (leads_update hkeep) fun _ =>
          Act.leads_bind (Stage.leads_note _) fun _ => ih
      · exact ih

/-- No reaction starts a process. -/
theorem running_of_reaction {r : Reaction} {p : Process} (h : (p.running && !r.exits) = true) :
    p.running = true := (Bool.and_eq_true _ _ ▸ h).1

theorem leads_write (peer : Peer σ) (id : StoryId) (line : String) :
    Act.Leads (Stage.Over Calms) (write peer id line) := by
  refine Act.leads_bind (leads_record _) fun _ => Act.leads_bind Act.leads_get fun x => ?_
  dsimp only
  refine Act.leads_bind (Stage.leads_inEngine (Act.leads_modify fun _ => calms_of_processes rfl))
    fun _ => ?_
  split
  · exact Act.leads_throw_bind _ _
  refine Act.leads_bind (leads_takeErrors id _) fun _ => ?_
  split
  · exact Act.leads_bind (leads_update fun p hp => ⟨running_of_reaction hp, fun ha => ha⟩)
      fun _ => Act.leads_throw _
  · exact leads_update fun p hp => ⟨running_of_reaction hp, fun ha => ha⟩

theorem leads_readLine (id : StoryId) (timeout : Json) :
    Act.Leads (Stage.Over Calms) (readLine (σ := σ) id timeout) := by
  rw [readLine]
  refine Act.leads_bind (leads_process id) fun p => ?_
  cases p.arrivals with
  | nil => exact Act.leads_bind (Stage.leads_note _) fun _ =>
      Act.leads_bind (leads_terminate id) fun _ => Act.leads_throw _
  | cons arrival rest =>
      refine Act.leads_bind (leads_update fun p hp => ⟨hp, fun ha => ha⟩) fun _ => ?_
      cases arrival with
      | line text => exact Act.leads_pure text
      | failed reason => exact Act.leads_throw _
      | closed => exact Act.leads_throw _

theorem leads_send (peer : Peer σ) (id : StoryId) (timeout command : Json) :
    Act.Leads (Stage.Over Calms) (send peer id timeout command) := by
  refine Act.leads_bind (leads_process id) fun p => ?_
  have hrest : Act.Leads (Stage.Over Calms) (do
      let text ← Act.ofExcept (writeJson .ascii command)
      write peer id (text ++ "\n")
      Act.ofExcept (answer peer.room (← readLine id timeout))) :=
    Act.leads_bind (Act.leads_ofExcept _) fun _ => Act.leads_bind (leads_write peer id _) fun _ =>
      Act.leads_bind (leads_readLine id timeout) fun _ => Act.leads_ofExcept _
  cases p.alive with
  | true => exact hrest
  | false => exact Act.leads_throw_bind _ _

/-! ## Starting and ending a process -/

/-- The world with one more process. -/
def started (e : Event) (w : World σ) : World σ :=
  { w with processes := w.processes ++ [{}], events := e :: w.events }

theorem start_on (settings : Settings) (x : Stage (World σ)) : ∃ e, (start settings).on x =
    (.ok x.engine.processes.length, { x with engine := x.engine.started e }) := ⟨_, rfl⟩

theorem look_started (e : Event) (w : World σ) :
    (w.started e).look w.processes.length = {} := by
  rw [look, started, List.getElem?_concat_length, Option.getD_some]

theorem look_started_ne (e : Event) (h : n ≠ w.processes.length) :
    (w.started e).look n = w.look n := by
  rcases Nat.lt_or_gt_of_ne h with hlt | hgt
  · rw [look, started, List.getElem?_append_left hlt, look]
  · rw [look_unknown (Nat.le_of_lt hgt), look_unknown]
    rw [started, List.length_append]
    exact hgt

/-- A process that belongs to a story does not run after it was ended. -/
theorem terminate_ends (id : StoryId) (x : Stage (World σ)) : ∃ y,
    (terminate id).on x = (.ok (), y) ∧ Calms x.engine y.engine ∧
      (((x.engine.look id).running = true → (x.engine.look id).attached = true) →
        (y.engine.look id).running = false) := by
  have hcalms := leads_terminate id x
  obtain ⟨events, -, hon⟩ := terminate_on id x
  rw [hon] at hcalms
  refine ⟨_, hon, hcalms, fun hbelongs => ?_⟩
  by_cases hlt : id < x.engine.processes.length
  · have hlook : ({ x.engine with events := events ++ x.engine.events }.change id
        Process.ended).look id = (x.engine.look id).ended := look_change hlt
    rw [hlook, Process.ended]
    cases hrunning : (x.engine.look id).running with
    | false => rfl
    | true =>
        rw [hbelongs hrunning]
        rfl
  · refine Bool.eq_false_iff.mpr fun h => hlt ?_
    exact (length_change ▸ World.known_of_running h)

end World

/-- A story in a new process, which runs only as long as it belongs to the story. -/
structure Opens (w : World σ) (n : StoryId) (w' : World σ) : Prop where
  new : n = w.processes.length
  known : n < w'.processes.length
  belongs : (w'.look n).running = true → (w'.look n).attached = true
  /-- No other process was started. -/
  others : ∀ m, m ≠ n → (w'.look m).running = true →
    (w.look m).running = true ∧ ((w.look m).attached = true → (w'.look m).attached = true)

/-- An action that leaves a new process only with the story that it opens. -/
def OpensOne (act : Act (Stage (World σ)) StoryId) : Prop := ∀ x,
  match act.on x with
  | (.ok n, y) => Opens x.engine n y.engine
  | (.error _, y) => Calms x.engine y.engine

namespace Opens

variable {w w' w'' : World σ} {n : StoryId}

theorem of_started {e : Event} (h : Calms (w.started e) w') : Opens w w.processes.length w' where
  new := rfl
  known := by
    refine Nat.lt_of_lt_of_le ?_ h.grows
    rw [World.started, List.length_append]
    exact Nat.lt_succ_self _
  belongs := fun hn => (h.ran _ hn).2 (by rw [World.look_started])
  others := fun m hm hn => by
    have hran := h.ran m hn
    rwa [World.look_started_ne e hm] at hran

/-- A new process that is ended leaves what ran before. -/
theorem ended (h : Opens w n w') (hc : Calms w' w'') (hn : (w''.look n).running = false) :
    Calms w w'' := by
  refine ⟨Nat.le_trans (Nat.le_of_lt (h.new ▸ h.known)) hc.grows, fun m hm => ?_⟩
  have hne : m ≠ n := by
    rintro rfl
    rw [hn] at hm
    cases hm
  obtain ⟨hmid, ha'⟩ := hc.ran m hm
  obtain ⟨hfirst, ha⟩ := h.others m hne hmid
  exact ⟨hfirst, ha' ∘ ha⟩

end Opens

/-! ## The engine -/

section Engine

variable (peer : Peer σ) (settings : Settings)

theorem leads_ask (id : StoryId) (op : String) (members : Fields) :
    Act.Leads (Stage.Over Calms) (ask peer settings id op members) := World.leads_send peer id _ _

/-- A process that was started and asked is the only new one. -/
theorem start_asked (op : String) (members : Fields) (x : Stage (World σ)) : ∃ x',
    (World.start settings).on x = (.ok x.engine.processes.length, x') ∧
    Opens x.engine x.engine.processes.length
      ((ask peer settings x.engine.processes.length op members).on x').2.engine := by
  obtain ⟨e, hstart⟩ := World.start_on settings x
  exact ⟨_, hstart, Opens.of_started
    (leads_ask peer settings _ op members { x with engine := x.engine.started e })⟩

/-- A process for one command is ended, whatever comes of the command. -/
theorem leads_askOnce (op : String) (members : Fields) :
    Act.Leads (Stage.Over Calms) (askOnce peer settings op members) := by
  intro x
  obtain ⟨x', hstart, hopens⟩ := start_asked peer settings op members x
  obtain ⟨y, hend, hcalms, hdead⟩ := World.terminate_ends x.engine.processes.length
    ((ask peer settings x.engine.processes.length op members).on x').2
  rw [askOnce, Act.on_bind_of_ok hstart, Act.on_andFinally hend]
  exact hopens.ended hcalms (hdead hopens.belongs)

/-- Opening a story starts a process, which is ended when there is no story. -/
theorem openStory_opensOne (op : String) (members : Fields) :
    OpensOne (openStory peer settings op members) := by
  intro x
  obtain ⟨x', hstart, hopens⟩ := start_asked peer settings op members x
  rw [openStory, Act.on_bind_of_ok hstart]
  cases hrun : (ask peer settings x.engine.processes.length op members).on x' with
  | mk r y =>
      rw [hrun] at hopens
      cases r with
      | ok fields =>
          rw [Act.on_bind_of_ok (Act.on_orElseDo_of_ok hrun)]
          exact hopens
      | error f =>
          obtain ⟨z, hend, hcalms, hdead⟩ := World.terminate_ends x.engine.processes.length y
          rw [Act.on_bind_of_error (Act.on_orElseDo_of_error hrun hend)]
          exact hopens.ended hcalms (hdead hopens.belongs)

theorem leads_marked (op key text : String) :
    Act.Leads (Stage.Over Calms) (marked peer settings op key text) := by
  rw [marked]
  split
  · exact Act.leads_bind (leads_askOnce peer settings op _) fun _ => Act.leads_ofExcept _
  · exact Act.leads_pure _

/-- No operation but opening a story leaves a process behind. -/
theorem engine_leads : (engine peer settings).Leads Calms where
  compile _ := Act.leads_bind (leads_askOnce peer settings _ _) fun _ => Act.leads_ofExcept _
  continueStory id := Act.leads_bind (leads_ask peer settings id _ _) fun _ => Act.leads_ofExcept _
  continueLine id := Act.leads_bind (leads_ask peer settings id _ _) fun _ => Act.leads_ofExcept _
  canContinue id := Act.leads_bind (leads_ask peer settings id _ _) fun _ =>
    Act.leads_bind (Act.leads_ofExcept _) fun _ => Act.leads_pure _
  choose id _ := Act.leads_bind (leads_ask peer settings id _ _) fun _ => Act.leads_pure _
  choices id := Act.leads_bind (leads_ask peer settings id _ _) fun _ =>
    Act.leads_bind (Act.leads_ofExcept _) fun _ => Act.leads_ofExcept _
  getVariable id _ := Act.leads_bind (leads_ask peer settings id _ _) fun _ => Act.leads_pure _
  setVariable id _ _ := Act.leads_bind (leads_ask peer settings id _ _) fun _ => Act.leads_pure _
  saveState id := Act.leads_bind (leads_ask peer settings id _ _) fun _ => Act.leads_ofExcept _
  loadState id _ := Act.leads_bind (leads_ask peer settings id _ _) fun _ => Act.leads_pure _
  reset id := Act.leads_bind (leads_ask peer settings id _ _) fun _ => Act.leads_pure _
  evaluate id _ _ := Act.leads_bind (leads_ask peer settings id _ _) fun _ => Act.leads_pure _
  globalTags id := Act.leads_bind (leads_ask peer settings id _ _) fun _ => Act.leads_ofExcept _
  bidify _ := leads_marked peer settings _ _ _
  stripBidi _ := leads_marked peer settings _ _ _
  bidifyCompiled _ := leads_marked peer settings _ _ _

end Engine

end Bridge

end StoryServer
