import StoryServer.Proofs.Session.Unseen

/-!
# Refused calls

A tool looks at its arguments before it looks at anything else.  So a call whose arguments are
refused touches nothing: it is answered with what is wrong about them, and all that the server
has afterwards and did not have before is a line in its log (`refused_untouched`).

The log answers no one.  So refused calls can be left out of a run, wherever they stand in it,
and the other calls answer the same and leave the same server, the log apart
(`refused_unheard`).
-/

namespace StoryServer

theorem Tool.name_injective : Function.Injective Tool.name := fun t u h =>
  List.inj_on_of_nodup_map nodup_names (mem_all t) (mem_all u) h

namespace Server

variable {ε : Type}

theorem matches_logging (g : Glance) (s : Server ε) (log : List String) :
    Matches g s (s.logging log) := ⟨rfl, rfl, rfl, rfl, rfl, rfl⟩

end Server

/-- All of a session. -/
def Glance.whole : Glance where
  look x := x
  id _ := rfl
  story _ := rfl
  saved _ _ := rfl

namespace Toolbox

variable {ε : Type} {box : Toolbox ε} {tool : Tool} {arguments : Json} {d : ArgumentDefect}

/-! ## One call -/

/-- A tool on offer is found by its name. -/
theorem find?_name (h : tool ∈ box.tools) : box.find? tool.name = some tool := by
  cases hfound : box.find? tool.name with
  | none =>
      have hdiffers : ¬(tool.name == tool.name) = true := List.find?_eq_none.mp hfound tool h
      simp at hdiffers
  | some found =>
      have hname : found.name = tool.name := name_of_find? hfound
      rw [Tool.name_injective hname]

/-- **A bad call touches nothing.**  A tool on offer that refuses its arguments answers with what
is wrong about them.  The server keeps its sessions, its stories and their processes, its debug
records, its ids and its time, and all that it has told its processes and its chat endpoint: it
is the same server with a line more in its log. -/
theorem refused_untouched (ht : tool ∈ box.tools)
    (h : Request.ofJson (argumentsOf arguments) tool = .error (.arguments d)) (s : Server ε) :
    (box.call tool.name arguments).on s =
      (.ok { text := "ToolArgumentError: " ++ d.message, isError := true },
        s.noting s!"[inky] tool {tool.name} failed: {(Fault.arguments d).report}") := by
  have hcaught : (Act.caught (box.perform tool arguments)).on s =
      (.ok (.error (.arguments d)), s) := by
    rw [Act.on_caught, perform_refused box h]
  have hreport : (Fault.arguments d).report = "ToolArgumentError: " ++ d.message := by
    have hkind : "ToolArgumentError" ++ ": " = "ToolArgumentError: " := by decide
    exact congrArg (· ++ d.message) hkind
  rw [call, find?_name ht, ← hreport]
  dsimp only
  rw [Act.on_bind_of_ok hcaught, Act.on_bind_of_ok (Server.on_note _ s)]
  rfl

/-- A truth value is no index of a choice, although the story in the session has that choice. -/
theorem refused_untouched_choice :
    let box := Ink.toolbox true (some 9) none
    let s := box.serve [
      ⟨"start_story", .obj [("session_id", .str "a"), ("source", .str "A\n* x\n* y")]⟩,
      ⟨"start_debug", .obj [("session_id", .str "a")]⟩] Ink.idle
    let arguments := Json.obj [("session_id", .str "a"), ("choice_index", .bool true)]
    let d := ArgumentDefect.wrongKind "choice_index" .integer .bool
    Tool.choose ∈ box.tools ∧
      Request.ofJson (argumentsOf arguments) .choose = .error (.arguments d) ∧
      d.message = "argument 'choice_index' must be an integer, got bool" ∧
      (box.call Tool.choose.name arguments).on s =
        (.ok { text := "ToolArgumentError: " ++ d.message, isError := true },
          s.noting s!"[inky] tool {Tool.choose.name} failed: {(Fault.arguments d).report}") := by
  intro box s arguments d
  have htool : Tool.choose ∈ box.tools := by decide
  have hrefused : Request.ofJson (argumentsOf arguments) .choose = .error (.arguments d) := rfl
  exact ⟨htool, hrefused, by decide, refused_untouched htool hrefused s⟩

/-! ## Runs -/

/-- The call names a tool on offer, and the tool refuses its arguments. -/
def Refuses (box : Toolbox ε) (c : ToolCall) : Prop :=
  ∃ tool ∈ box.tools, tool.name = c.name ∧
    ∃ d, Request.ofJson (argumentsOf c.arguments) tool = .error (.arguments d)

/-- A refused call leaves the server as it was, the log apart. -/
theorem after_refused {g : Glance} {c : ToolCall} (h : box.Refuses c) (s : Server ε) :
    Server.Matches g s (box.after c s) := by
  obtain ⟨tool, ht, hname, d, hd⟩ := h
  rw [after, ← hname, refused_untouched ht hd]
  exact Server.matches_logging g s _

/-- **Refused calls go unheard.**  In a run of calls on any server, some of the refused calls are
left out: the other calls answer the same, and the servers in the end are the same but for their
logs. -/
theorem refused_unheard (hb : box.engine.Blind) (s : Server ε) (run : List (ToolCall × Bool))
    (h : ∀ c ∈ run, c.2 = false → box.Refuses c.1) :
    box.heard run s = box.results (kept run) s ∧
      (box.serve (run.map (·.1)) s).Matches .whole (box.serve (kept run) s) :=
  heard_beside hb run (refl_of (Server.Matches .whole) s) fun c hc hunmarked =>
    after_refused (h c hc hunmarked)

end Toolbox

end StoryServer
