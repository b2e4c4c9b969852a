import StoryServer.Proofs.Tool.Blindness

/-!
# Calls that go unseen

Eleven tools look at what a server holds and change nothing that can be seen later: the only
thing any of them writes is the state that `save_state` keeps with a session, and no answer
depends on that.  Calls of these tools can be left out of a run, and the other calls answer the
same, ids and times included (`reading_unseen`).

*One request.*  A reading request leaves the server as it was, the saved states apart
(`answer_unseen`).

*Runs.*  The run with the calls and the run without them go on matching servers, so each of the
other calls answers the same in both (`result_matches`).
-/

namespace StoryServer

/-! ## Reading a story -/

/-- Looking at stories leaves the engine as it is. -/
structure StoryEngine.Still {ε : Type} (engine : StoryEngine ε) : Prop where
  compile (source : String) : Act.Keeps Stage.engine (engine.compile source)
  getVariable (id : StoryId) (name : String) : Act.Keeps Stage.engine (engine.getVariable id name)
  saveState (id : StoryId) : Act.Keeps Stage.engine (engine.saveState id)
  globalTags (id : StoryId) : Act.Keeps Stage.engine (engine.globalTags id)
  bidify (text : String) : Act.Keeps Stage.engine (engine.bidify text)
  stripBidi (text : String) : Act.Keeps Stage.engine (engine.stripBidi text)
  bidifyCompiled (text : String) : Act.Keeps Stage.engine (engine.bidifyCompiled text)

namespace Ink

theorem Shelf.still_withStory {α : Type} {act : Act Story α} (id : StoryId)
    (h : Story.Reads act) :
    Act.Keeps Stage.engine (Stage.inEngine (Shelf.withStory id act)) := by
  have hshelf : Act.Keeps (fun shelf : Shelf => shelf) (Shelf.withStory id act) := by
    intro shelf
    cases hs : shelf.opened[id]? with
    | none => rw [withStory_none act hs]
    | some story =>
        have hsame : shelf.opened.set id story = shelf.opened := by
          obtain ⟨hlt, hget⟩ := List.getElem?_eq_some_iff.mp hs
          rw [← hget, List.set_getElem_self]
        have hstory : (act.on story).2 = story := h story
        rw [withStory_on act hs, hstory, hsame]
  exact Act.keeps_within hshelf fun _ _ ht => ht

theorem engine_still (setup : Ink.Setup) : (engine setup).Still where
  compile _ := Act.keeps_ofExcept _
  getVariable id name := Shelf.still_withStory id (Story.keeps_getVariable name)
  saveState id := Shelf.still_withStory id (Act.keeps_map Story.keeps_saveState)
  globalTags id := Shelf.still_withStory id Story.keeps_globalTags
  bidify _ := Act.keeps_pure _
  stripBidi _ := Act.keeps_pure _
  bidifyCompiled _ := Act.keeps_ofExcept _

end Ink

/-! ## What is seen of a session -/

/-- All of a session but the state that was saved last. -/
def Glance.unsaved : Glance where
  look x := { x with saved := .null }
  id _ := rfl
  story _ := rfl
  saved _ _ := rfl

namespace Server

variable {ε α : Type} {g : Glance}

/-- What leaves the engine as it is leaves a server that matches. -/
theorem unseen_onStage {act : Act (Stage ε) α} (h : Act.Keeps Stage.engine act) :
    Act.Leads (Matches g) (onStage act) := fun s => ⟨(h s.stage).symm, rfl, rfl, rfl, rfl, rfl⟩

theorem unseen_note (line : String) : Act.Leads (Matches g) (note (ε := ε) line) :=
  unseen_onStage fun _ => rfl

end Server

/-! ## Reading requests -/

namespace Registry

theorem unsaved_keepState {ε : Type} (id : String) (state : Json) :
    Act.Leads (Server.Matches .unsaved) (keepState (ε := ε) id state) := by
  refine Act.leads_modify fun s => ⟨rfl, ?_, rfl, rfl, rfl, rfl⟩
  rw [List.map_map]
  refine List.map_congr_left fun x _ => ?_
  dsimp only [Function.comp]
  split <;> rfl

end Registry

/-- Whether a request only looks at what the server holds, or saves what it sees. -/
def Request.reads : Request → Bool
  | .compileInk _ | .getVariable .. | .getGlobalTags _ | .listSessions | .saveState _
  | .bidify _ | .stripBidi _ | .bidifyJson _
  | .listBreakpoints _ | .debugInspect _ | .debugTrace .. => true
  | _ => false

/-- The tools whose requests only read. -/
def Tool.reading : List String :=
  ["compile_ink", "get_variable", "get_global_tags", "list_sessions", "save_state", "bidify",
    "strip_bidi", "bidify_json", "list_breakpoints", "debug_inspect", "debug_trace"]

theorem Request.reads_of_reading {tool : Tool} (h : tool.name ∈ Tool.reading) (fields : Fields) :
    Reads (fun r => r.reads = true) (read fields tool) := by
  cases tool <;> first
    | exact absurd h (by decide)
    | (unfold read
       repeat first
         | exact reads_pure rfl
         | refine reads_bind fun _ _ => ?_)

namespace Toolbox

open Server

variable {ε α : Type} {box : Toolbox ε}

theorem unseen_withStory {g : Glance} (id : String) {act : StoryId → Act (Stage ε) α}
    (h : ∀ story, Act.Keeps Stage.engine (act story)) :
    Act.Leads (Matches g) (withStory id act) :=
  Act.leads_bind (leads_session id) fun _ => unseen_onStage (h _)

/-- A reading request leaves the server as it was, the log and what is saved apart. -/
theorem answer_unseen (he : box.engine.Still) {r : Request} (hr : r.reads = true) :
    Act.Leads (Matches .unsaved) (box.answer r) := by
  cases r with
  | compileInk source =>
      exact Act.leads_bind (unseen_onStage (he.compile source)) fun _ => Act.leads_pure _
  | getVariable id name =>
      exact Act.leads_bind (unseen_withStory id fun story => he.getVariable story name) fun _ =>
        Act.leads_pure _
  | saveState id =>
      exact Act.leads_bind (unseen_withStory id he.saveState) fun state =>
        Act.leads_bind (Registry.unsaved_keepState id state) fun _ => Act.leads_pure _
  | getGlobalTags id =>
      exact Act.leads_bind (unseen_withStory id he.globalTags) fun _ => Act.leads_pure _
  | listSessions => exact Act.leads_bind Registry.leads_ids fun _ => Act.leads_pure _
  | bidify text =>
      exact Act.leads_bind (unseen_onStage (he.bidify text)) fun _ => Act.leads_pure _
  | stripBidi text =>
      exact Act.leads_bind (unseen_onStage (he.stripBidi text)) fun _ => Act.leads_pure _
  | bidifyJson json =>
      exact Act.leads_bind (unseen_onStage (he.bidifyCompiled json)) fun _ => Act.leads_pure _
  | listBreakpoints id => exact Act.leads_bind (Debug.leads_breakpoints id) fun _ => Act.leads_pure _
  | debugInspect id =>
      exact Debug.leads_inspect unseen_note id fun story name =>
        unseen_onStage (he.getVariable story name)
  | debugTrace id n => exact Act.leads_bind (Debug.leads_trace id n) fun _ => Act.leads_pure _
  | _ => cases hr

/-! ## Reading calls -/

theorem name_of_find? {name : String} {tool : Tool} (h : box.find? name = some tool) :
    tool.name = name := by
  simpa using List.find?_some h

theorem unseen_perform (he : box.engine.Still) {tool : Tool} (h : tool.name ∈ Tool.reading)
    (arguments : Json) : Act.Leads (Matches .unsaved) (box.perform tool arguments) := by
  intro s
  rw [perform, Act.on_bind, Act.on_ofExcept]
  cases hread : Request.ofJson (argumentsOf arguments) tool with
  | error f => exact refl_of (Matches .unsaved) s
  | ok r =>
      have hr : r.reads = true := by
        rcases Request.ofJson_ok hread with ⟨fields, -, hread⟩ | rfl | ⟨-, rfl⟩
        · exact Request.reads_of_reading h fields r hread
        · rfl
        · exact absurd h (by decide)
      exact Act.leads_bind (answer_unseen he hr) (fun _ => Act.leads_ofExcept _) s

/-- A call of a reading tool leaves the server as it was, the log and what is saved apart. -/
theorem after_unseen (he : box.engine.Still) {c : ToolCall} (h : c.name ∈ Tool.reading)
    (s : Server ε) : Matches .unsaved s (box.after c s) := by
  have hcall : Act.Leads (Matches .unsaved) (box.call c.name c.arguments) := by
    rw [call]
    split
    · exact Act.leads_pure _
    · next tool htool =>
      rw [← name_of_find? htool] at h
      refine Act.leads_bind (Act.leads_caught (unseen_perform he h c.arguments)) fun r => ?_
      cases r with
      | ok text => exact Act.leads_pure _
      | error f => exact Act.leads_bind (unseen_note _) fun _ => Act.leads_pure _
  exact hcall s

/-- What is answered to those calls of a run that are marked. -/
def heard (box : Toolbox ε) : List (ToolCall × Bool) → Server ε → List (Except Fault ToolResult)
  | [], _ => []
  | (c, marked) :: rest, s =>
    if marked then box.result c s :: heard box rest (box.after c s)
    else heard box rest (box.after c s)

/-- The calls of a run that are marked. -/
def kept (run : List (ToolCall × Bool)) : List ToolCall := (run.filter (·.2)).map (·.1)

/-- A run beside the run of its marked calls, from servers that match, if the other calls leave
servers that match. -/
theorem heard_beside (hb : box.engine.Blind) {g : Glance} :
    ∀ (run : List (ToolCall × Bool)) {s t : Server ε}, Matches g s t →
      (∀ c ∈ run, c.2 = false → ∀ s, Matches g s (box.after c.1 s)) →
      box.heard run s = box.results (kept run) t ∧
        Matches g (box.serve (run.map (·.1)) s) (box.serve (kept run) t)
  | [], _, _, h, _ => ⟨rfl, h⟩
  | (c, true) :: rest, _, _, h, hrest => by
      obtain ⟨hresult, hafter⟩ := result_matches hb h c
      obtain ⟨hheard, hlast⟩ := heard_beside hb rest hafter fun d hd =>
        hrest d (List.mem_cons_of_mem _ hd)
      exact ⟨congrArg₂ List.cons hresult hheard, hlast⟩
  | (c, false) :: rest, s, _, h, hrest => by
      have hunseen := hrest (c, false) List.mem_cons_self rfl s
      exact heard_beside hb rest (trans_of (Matches g) hunseen.symm h) fun d hd =>
        hrest d (List.mem_cons_of_mem _ hd)

/-- A run beside the run without some calls of reading tools. -/
theorem heard_kept (hb : box.engine.Blind) (he : box.engine.Still) (run : List (ToolCall × Bool))
    {s t : Server ε} (h : Matches .unsaved s t)
    (hread : ∀ c ∈ run, c.2 = false → c.1.name ∈ Tool.reading) :
    box.heard run s = box.results (kept run) t ∧
      Matches .unsaved (box.serve (run.map (·.1)) s) (box.serve (kept run) t) :=
  heard_beside hb run h fun c hc hunmarked => after_unseen he (hread c hc hunmarked)

end Toolbox

section Reading

variable (setup : Ink.Setup) (traceLimit : Option Int) (author : Option Author.Settings)

/-- **Reading goes unseen.**  In a run of calls on any server, some of the calls of reading tools
are left out: the other calls answer the same, and the servers in the end have the same stories,
debug records, ids to give out and time, and the same sessions but for what was saved. -/
theorem reading_unseen (s : Server Ink.Shelf) (run : List (ToolCall × Bool))
    (hread : ∀ c ∈ run, c.2 = false → c.1.name ∈ Tool.reading) :
    let box := Ink.toolbox setup traceLimit author
    box.heard run s = box.results (Toolbox.kept run) s ∧
      (box.serve (run.map (·.1)) s).Matches .unsaved (box.serve (Toolbox.kept run) s) := by
  intro box
  have hblind : box.engine.Blind := Ink.engine_blind setup
  have hstill : box.engine.Still := Ink.engine_still setup
  exact Toolbox.heard_kept hblind hstill run (refl_of (Server.Matches .unsaved) s) hread

/-- Variables are looked at in the middle of a debugged story, states are saved, and a session is
started under a new id in between. -/
theorem reading_unseen_debugged :
    let box := Ink.toolbox true (some 9) none
    let call (name id : String) (more : Fields) : ToolCall :=
      ⟨name, .obj (("session_id", .str id) :: more)⟩
    let source := ("source", Json.str "VAR x = 1\nA\nB\n* [go] -> K\n=== K ===\nC\n-> END")
    let run := [
      (⟨"compile_ink", .obj [source]⟩, false), (call "start_story" "a" [source], true),
      (call "get_variable" "a" [("name", .str "x")], false), (call "start_debug" "a" [], true),
      (call "add_watch" "a" [("variable", .str "x")], true),
      (call "debug_inspect" "a" [], false), (call "save_state" "a" [], false),
      (call "reset_story" "a" [], true), (⟨"start_story", .obj [source]⟩, true),
      (⟨"list_sessions", .null⟩, false), (call "choose" "a" [("choice_index", .int 0),
        ("auto_continue", .bool false)], true),
      (call "debug_trace" "a" [], false), (call "debug_step" "a" [], true),
      (call "get_global_tags" "b" [], false), (call "debug_trace" "a" [], true)]
    (∀ c ∈ run, c.2 = false → c.1.name ∈ Tool.reading) ∧
      box.heard run Ink.idle = box.results (Toolbox.kept run) Ink.idle ∧
      (box.serve (run.map (·.1)) Ink.idle).Matches .unsaved
        (box.serve (Toolbox.kept run) Ink.idle) := by
  intro box call source run
  have hread : ∀ c ∈ run, c.2 = false → c.1.name ∈ Tool.reading := by decide
  exact ⟨hread, reading_unseen true (some 9) none Ink.idle run hread⟩

end Reading

end StoryServer
