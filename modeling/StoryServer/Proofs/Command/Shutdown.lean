import StoryServer.Command.Launch
import StoryServer.Proofs.Session.Separation
import StoryServer.Proofs.Tool.Custody

/-!
# No process is left behind

Stories run in processes, and every process that runs has an owner: after any calls it is the story
of exactly one session.  What needs a process for one answer, and a story that cannot be opened,
leave none.  A run of the program ends with no process running, however it was started, whatever
came to it and whatever its processes did, also when it fails (`processes_owned`).
-/

namespace StoryServer

open Bridge Server

variable {σ : Type}

/-- A server without sessions and processes. -/
def Server.idle (s : Server (World σ)) : Server (World σ) :=
  { s with
    sessions := []
    stage := { s.stage with engine := { s.stage.engine with processes := [] } } }

theorem Server.idle_kept (s : Server (World σ)) : Kept [] s.idle where
  ids := List.nodup_nil
  owners := List.nodup_nil
  known := nofun
  owned := fun n hn => absurd hn (by rw [World.look_unknown (Nat.zero_le n)]; decide)
  belongs := fun n hn => absurd hn (by rw [World.look_unknown (Nat.zero_le n)]; decide)

/-! ## Runs -/

namespace Launch

variable (peer : Peer σ) (settings : Settings) (traceLimit : Option Int)
variable (author : Option Author.Settings)

theorem leads_receive {ε : Type} {R : Server ε → Server ε → Prop} [IsPreorder (Server ε) R]
    {p : Processor ε} (h : Handles R p.box) (v : Visits) :
    Act.Leads R (receive p v) := by
  have hall : ∀ (requests : List HttpRequest) (hub : Hub ε), R hub.server
      (requests.foldl (fun h r => (Service.serve p r h).2) hub).server := by
    intro requests
    induction requests with
    | nil => exact fun hub => refl_of R hub.server
    | cons r rest ih => exact fun hub => trans_of R (h.visit r hub) (ih _)
  intro s
  rw [receive, Act.on_bind, Act.on_get]
  dsimp only
  rw [Act.on_bind, Act.on_set]
  dsimp only
  rw [Act.on_ofExcept]
  exact hall v.requests { server := s, ids := v.channelIds }

theorem leads_serve {ε : Type} {R : Server ε → Server ε → Prop} [IsPreorder (Server ε) R]
    {p : Processor ε} (h : Handles R p.box) (o : Options) (input : String) (v : Visits) :
    Act.Leads R (serve p o input v) := by
  rw [serve]
  split
  · exact Act.leads_bind (h.serve input) fun _ => Act.leads_pure _
  · exact Act.leads_bind (h.note _) fun _ => Act.leads_bind (leads_receive h v) fun _ =>
      Act.leads_pure _

/-- A run comes to what serving comes to, and ends its processes, also when serving fails. -/
theorem attend_on (o : Options) (input : String) (v : Visits) {s : Server (World σ)}
    (hs : Kept [] s) :
    let box := Bridge.toolbox peer settings traceLimit author
    ∃ t, (attend box o input v).on s =
        (((serve { box } o input v).on ((note box.announcement).on s).2).1, t) ∧
      ∀ n, (t.stage.engine.look n).running = false := by
  intro box
  have hbox : Handles (Upholds (Kept [])) box :=
    Toolbox.handles_kept peer settings traceLimit author
  obtain ⟨t, hnote⟩ : ∃ t, (note box.announcement).on s = (.ok (), t) := ⟨_, rfl⟩
  have ht : Kept [] t := by
    have hkept := hbox.note box.announcement s hs
    rwa [hnote] at hkept
  have hserved := leads_serve (p := { box }) hbox o input v t ht
  obtain ⟨u, hclosed, hnone⟩ := Registry.closeAll_kept peer settings hserved
  refine ⟨u, ?_, hnone⟩
  rw [attend, Act.on_bind_of_ok hnote, hnote]
  exact Act.on_andFinally hclosed

theorem toolbox_of_options {o : Options} {env : Environment} {box : Toolbox (World σ)}
    (h : o.toolbox env (Bridge.engine peer settings) = .ok box) :
    ∃ traceLimit author, box = Bridge.toolbox peer settings traceLimit author := by
  rw [Options.toolbox] at h
  split at h
  · cases h
    exact ⟨_, _, rfl⟩
  · cases hauthor : Author.Settings.configured? env with
    | error f =>
        rw [hauthor] at h
        cases h
    | ok author =>
        rw [hauthor] at h
        cases h
        exact ⟨_, _, rfl⟩

theorem program_ends (env : Environment) (words : List String) (input : String) (v : Visits)
    {s : Server (World σ)} (hs : Kept [] s) (hnone : ∀ n, (s.stage.engine.look n).running = false)
    (n : StoryId) :
    (((program peer env words input v).on s).2.stage.engine.look n).running = false := by
  rw [program, Act.on_bind, Act.on_ofExcept]
  cases Options.ofEnvironment env with
  | error f => exact hnone n
  | ok usual =>
      dsimp only
      cases usual.ofWords words with
      | error halt => exact hnone n
      | ok o =>
          dsimp only
          rw [Act.on_bind, Act.on_ofExcept]
          cases hbox : o.toolbox env (Bridge.engine peer (o.processes env)) with
          | error f => exact hnone n
          | ok box =>
              obtain ⟨traceLimit, author, rfl⟩ := toolbox_of_options peer _ hbox
              obtain ⟨t, hrun, hends⟩ :=
                attend_on peer (o.processes env) traceLimit author o input v hs
              dsimp only
              rw [bind_pure_comp, Act.on_map, hrun]
              exact hends n

end Launch

/-! ## Calls -/

theorem Toolbox.serve_kept (peer : Peer σ) (settings : Settings) (traceLimit : Option Int)
    (author : Option Author.Settings) (calls : List ToolCall) {s : Server (World σ)}
    (h : Kept [] s) : Kept [] ((Bridge.toolbox peer settings traceLimit author).serve calls s) := by
  have hbox : Handles (Upholds (Kept [])) (Bridge.toolbox peer settings traceLimit author) :=
    handles_kept peer settings traceLimit author
  induction calls generalizing s with
  | nil => exact h
  | cons c rest ih => exact ih (hbox.call c.name c.arguments s h)

namespace Server

variable {pending : List StoryId} {s : Server (World σ)} {n : StoryId} {p : Process}

theorem look_of_getElem? {w : World σ} (h : w.processes[n]? = some p) : w.look n = p := by
  rw [World.look, h, Option.getD_some]

/-- A process that runs is the story of one session. -/
theorem Kept.count (h : Kept [] s) (hp : s.stage.engine.processes[n]? = some p)
    (hrun : p.running = true) : s.sessions.countP (·.story == n) = 1 := by
  have howners := Custody.owners h
  have howned := Custody.owned h n (look_of_getElem? hp ▸ hrun)
  have hstories : s.held.map Prod.snd ++ [] = s.sessions.map (·.story) := by
    rw [List.append_nil, held, List.map_map]
    rfl
  rw [hstories] at howners howned
  have hcount := List.count_eq_one_of_mem howners howned
  rwa [List.count, List.countP_map] at hcount

end Server

/-- No process runs after the action that did not run before it. -/
def Bridge.LeavesNone {α : Type} (act : Act (Stage (World σ)) α) : Prop :=
  ∀ (x : Stage (World σ)) (n : StoryId) (p : Process),
    (act.on x).2.engine.processes[n]? = some p → p.running = true →
    ∃ q, x.engine.processes[n]? = some q ∧ q.running = true

theorem Bridge.Calms.running {w w' : World σ} (h : Calms w w') {n : StoryId} {p : Process}
    (hp : w'.processes[n]? = some p) (hrun : p.running = true) :
    ∃ q, w.processes[n]? = some q ∧ q.running = true := by
  have hran := (h.ran n (Server.look_of_getElem? hp ▸ hrun)).1
  refine ⟨_, List.getElem?_eq_getElem (World.known_of_running hran), ?_⟩
  rwa [World.look, List.getElem?_eq_getElem (World.known_of_running hran), Option.getD_some] at hran

/-- **Every process that runs has an owner.**  After any calls to a server whose stories run in
processes, whatever the processes do, each process that runs is the story of exactly one session,
and no two sessions have the same process.  Compiling and marking texts leave no process, and
neither does a story that cannot be opened.  After a run of the program, which may have failed, no
process runs. -/
theorem processes_owned (peer : Peer σ) :
    (∀ settings traceLimit author calls (s : Server (World σ)),
      let t := (Bridge.toolbox peer settings traceLimit author).serve calls s.idle
      (∀ (n : StoryId) (p : Process), t.stage.engine.processes[n]? = some p → p.running = true →
        t.sessions.countP (·.story == n) = 1) ∧
      (t.sessions.map (·.story)).Nodup ∧ (t.sessions.map (·.id)).Nodup) ∧
    (∀ settings text,
      LeavesNone ((Bridge.engine peer settings).compile text) ∧
      LeavesNone ((Bridge.engine peer settings).bidify text) ∧
      LeavesNone ((Bridge.engine peer settings).stripBidi text) ∧
      LeavesNone ((Bridge.engine peer settings).bidifyCompiled text) ∧
      ∀ act ∈ [(Bridge.engine peer settings).openSource text,
          (Bridge.engine peer settings).openCompiled text],
        ∀ x f y, act.on x = (.error f, y) → ∀ (n : StoryId) (p : Process),
          y.engine.processes[n]? = some p → p.running = true →
          ∃ q, x.engine.processes[n]? = some q ∧ q.running = true) ∧
    ∀ env words input visits (s : Server (World σ)),
      ∀ p ∈ ((Launch.program peer env words input visits).on s.idle).2.stage.engine.processes,
        p.running = false := by
  refine ⟨fun settings traceLimit author calls s => ?_, fun settings text => ?_,
    fun env words input visits s p hp => ?_⟩
  · have hkept := Toolbox.serve_kept peer settings traceLimit author calls s.idle_kept
    refine ⟨fun n p hp hrun => hkept.count hp hrun, ?_, ?_⟩
    · have howners := (List.nodup_append.mp (Custody.owners hkept)).1
      rwa [held, List.map_map] at howners
    · have hids := Custody.ids hkept
      rwa [held, List.map_map] at hids
  · have hleads := engine_leads peer settings
    have hnone {α : Type} {act : Act (Stage (World σ)) α} (h : Act.Leads (Stage.Over Calms) act) :
        LeavesNone act := fun x n p hp hrun => Calms.running (h x) hp hrun
    refine ⟨hnone (hleads.compile text), hnone (hleads.bidify text), hnone (hleads.stripBidi text),
      hnone (hleads.bidifyCompiled text), fun act hact x f y hfail n p hp hrun => ?_⟩
    have hopening : OpensOne act := by
      simp only [List.mem_cons, List.not_mem_nil, or_false] at hact
      obtain rfl | rfl := hact <;> exact openStory_opensOne peer settings _ _
    have hcalms := hopening x
    rw [hfail] at hcalms
    exact Calms.running hcalms hp hrun
  · obtain ⟨n, hn⟩ := List.mem_iff_getElem?.mp hp
    have hends := Launch.program_ends peer env words input visits s.idle_kept
      (fun n => by rw [World.look_unknown (Nat.zero_le n)]) n
    rwa [look_of_getElem? hn] at hends

-- the story that is started in place of another one has a process of its own
example :
    let told : Reaction := { lines := ["\x7b\"status\": \"ok\"\x7d"] }
    let start (source : String) : ToolCall :=
      ⟨"start_story", .obj [("source", .str source), ("session_id", .str "x")]⟩
    let s : Server (World (List Reaction)) :=
      { stage := { engine := { peer := [] } }, ids := { numbered := toString }, clock := { now := 0 },
        author := { endpoint := { otherwise := .failed "" } } }
    let t := (Bridge.toolbox (Peer.scripted told) {} none none).serve [start "A", start "B"] s
    t.stage.engine.processes.map (·.running) = [false, true] ∧ t.sessions.map (·.story) = [1] := by
  decide +kernel

end StoryServer
