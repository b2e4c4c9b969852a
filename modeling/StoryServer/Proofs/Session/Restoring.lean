import StoryServer.Proofs.Session.Restore
import StoryServer.Proofs.Tool.Refusal

/-!
# Restores that fail

A state is restored part after part, and each part is looked at only when its turn comes.  So a
restore that fails is undone just as far as it has not come: a text that is no state, or one with
no place in it, leaves the story as it was; one with bad variables has moved the story to another
place, and one with bad choices has given it other variables too (`Breaks`).

`load_refused` says the same of the server.  A session whose state could not be restored has the
story that the restore broke off with, and nothing else on the server has changed but the log.
Where that story is the one it had, no later call is answered otherwise.
-/

namespace StoryServer

open Server

namespace Act

variable {σ α β : Type} {s t : σ} {f : Fault}

/-- Two ways for two steps to fail, of which the first looks at no state. -/
theorem on_ofExcept_bind_error_iff {r : Except Fault α} {next : α → Act σ β} :
    (ofExcept r >>= next).on s = (.error f, t) ↔
      r = .error f ∧ t = s ∨ ∃ a, r = .ok a ∧ (next a).on s = (.error f, t) := by
  rw [on_bind, on_ofExcept]
  cases r with
  | error g => simp [eq_comm]
  | ok a => simp

theorem on_modify_bind (g : σ → σ) (next : PUnit → Act σ β) :
    (modify g >>= next).on s = (next ⟨⟩).on (g s) := on_bind_of_ok (on_modify g s)

end Act

namespace Ink.Story

/-- How the restore of a state fails, and the story that it breaks off with. -/
inductive Breaks (text : String) (story : Story) : Fault → Story → Prop
  | unread {f : Fault} (h : readState text = .error f) : Breaks text story f story
  | unplaced {state : Json} {f : Fault} (hread : readState text = .ok state)
      (h : stateCursor state = .error f) : Breaks text story f story
  | unvalued {state : Json} {cursor : Cursor} {f : Fault} (hread : readState text = .ok state)
      (hcursor : stateCursor state = .ok cursor) (h : stateVariables state = .error f) :
      Breaks text story f { story with cursor }
  | unoffered {state : Json} {cursor : Cursor} {bindings : Variables} {f : Fault}
      (hread : readState text = .ok state) (hcursor : stateCursor state = .ok cursor)
      (hbindings : stateVariables state = .ok bindings) (h : stateOffers state = .error f) :
      Breaks text story f { story with cursor, bindings }

/-- A restore fails in one of these ways, and in no other. -/
theorem loadState_error_iff {text : String} {story told : Story} {f : Fault}
    (hopen : story.closed = false) :
    (loadState text).on story = (.error f, told) ↔ Breaks text story f told := by
  rw [loadState, Act.on_bind_of_ok (requireOpen_ok hopen)]
  simp only [Act.on_ofExcept_bind_error_iff, Act.on_modify_bind, Act.on_modify, Prod.mk.injEq,
    reduceCtorEq, false_and, and_false, exists_false, or_false]
  constructor
  · rintro (⟨hread, rfl⟩ | ⟨state, hread, ⟨hplace, rfl⟩ | ⟨cursor, hcursor,
      ⟨hvalues, rfl⟩ | ⟨bindings, hbindings, hoffers, rfl⟩⟩⟩)
    · exact .unread hread
    · exact .unplaced hread hplace
    · exact .unvalued hread hcursor hvalues
    · exact .unoffered hread hcursor hbindings hoffers
  · rintro (hread | ⟨hread, hplace⟩ | ⟨hread, hcursor, hvalues⟩ |
      ⟨hread, hcursor, hbindings, hoffers⟩)
    · exact .inl ⟨hread, rfl⟩
    · exact .inr ⟨_, hread, .inl ⟨hplace, rfl⟩⟩
    · exact .inr ⟨_, hread, .inr ⟨_, hcursor, .inl ⟨hvalues, rfl⟩⟩⟩
    · exact .inr ⟨_, hread, .inr ⟨_, hcursor, .inr ⟨_, hbindings, hoffers, rfl⟩⟩⟩

end Ink.Story

/-! ## Calls -/

section Server

variable {s t : Server Ink.Shelf} {c : ToolCall} {r : Request} {a b text : String} {v : Json}
variable {story told : Ink.Story}

/-- The server with another story in one place on the shelf. -/
def Server.retelling (s : Server Ink.Shelf) (n : StoryId) (story : Ink.Story) : Server Ink.Shelf :=
  { s with stage := { s.stage with
      engine := { s.stage.engine with opened := s.stage.engine.opened.set n story } } }

theorem Server.retelling_self {n : StoryId} (h : s.stage.engine.opened[n]? = some story) :
    s.retelling n story = s := by
  obtain ⟨hlt, hstory⟩ := List.getElem?_eq_some_iff.mp h
  rw [retelling, ← hstory, List.set_getElem_self]

/-- Other sessions have other stories. -/
theorem Server.share_retelling (hs : s.Orderly) {x : Session}
    (hx : s.sessions.find? (·.id == a) = some x) (hne : b ≠ a) :
    (s.retelling x.story told).share b = s.share b :=
  share_of_places rfl (fun _ hy => List.getElem?_set_ne (hs.story_ne hne hy hx)) rfl

/-- A call leaves the server that its request leaves, with a log of its own. -/
theorem Toolbox.after_requested {box : Toolbox Ink.Shelf}
    (hr : box.requested c.name c.arguments = some r) (s : Server Ink.Shelf) :
    (box.after c s).Matches .whole ((box.answer r).on s).2 := by
  obtain ⟨tool, htool, hread⟩ := Toolbox.requested_tool hr
  obtain ⟨log, hcall⟩ := box.call_known htool s
  rw [after, hcall, perform_read box hread]
  exact (matches_logging .whole _ log).symm

variable (setup : Ink.Setup) (traceLimit : Option Int) (author : Option Author.Settings)

/-- Restoring the story of a live session, and nothing else. -/
theorem answer_loadState {x : Session} (hx : s.sessions.find? (·.id == a) = some x)
    (hstory : s.stage.engine.opened[x.story]? = some story) {res : Except Fault Unit}
    (hrun : (Ink.Story.loadState text).on story = (res, told)) :
    ((Ink.toolbox setup traceLimit author).answer (.loadState a text)).on s =
      (res.map fun _ => .obj [("ok", .bool true), ("session_id", .str a)],
        s.retelling x.story told) := by
  have hload : (Toolbox.withStory a fun n =>
      (Ink.toolbox setup traceLimit author).engine.loadState n text).on s =
        (res, s.retelling x.story told) := by
    have hinside := Ink.Shelf.inStory_on (Ink.Story.loadState text) hstory
    rw [hrun] at hinside
    rw [Toolbox.withStory, Act.on_bind_of_ok (Debug.session_on hx), Server.onStage, Act.on_within]
    exact congrArg (fun run => (run.1, { s with stage := run.2 })) hinside
  cases res with
  | error f => exact Act.on_bind_of_error hload
  | ok u => exact Act.on_bind_of_ok hload

/-- **What a restore that fails leaves.**  A live session on a server after any calls, and a call
that restores any text in it and answers an error.  The session has the story that the restore
broke off with; the rest of the server is as it was, the log apart.  If the story is the one that
the session had, all later calls, about any session, answer as if this one had not been made. -/
theorem load_refused (s₀ : Server Ink.Shelf) (calls : List ToolCall) {load : ToolCall}
    {result : ToolResult}
    (hlive : (((Ink.toolbox setup traceLimit author).serve calls s₀.bare).share a).live =
      some (story, v))
    (hload : (Ink.toolbox setup traceLimit author).requested load.name load.arguments =
      some (.loadState a text))
    (hresult : (Ink.toolbox setup traceLimit author).result load
      ((Ink.toolbox setup traceLimit author).serve calls s₀.bare) = .ok result)
    (herror : result.isError = true) :
    let box := Ink.toolbox setup traceLimit author
    let s := box.serve calls s₀.bare
    let t := box.after load s
    ∃ n f told, s.storyOf a = some n ∧ Ink.Story.Breaks text story f told ∧
      result.text = f.report ∧ t.Matches .whole (s.retelling n told) ∧
      (t.share a).live = some (told, v) ∧ (∀ b ≠ a, t.share b = s.share b) ∧
      (told = story → ∀ later, box.results later t = box.results later s) := by
  intro box s t
  have hs : s.Orderly := s₀.orderly_bare.serve calls
  obtain ⟨x, hx, hstory, rfl⟩ := session_of_live hlive
  obtain ⟨hreply, hshare⟩ := reply_requested hload s
  have hmatches : t.Matches .whole ((box.answer (.loadState a text)).on s).2 :=
    Toolbox.after_requested hload s
  cases hrun : (Ink.Story.loadState text).on story with
  | mk res told =>
  rw [answer_loadState setup traceLimit author hx hstory hrun] at hreply hshare hmatches
  -- what is said of a restored state has a text
  obtain ⟨f, rfl, htext⟩ : ∃ f, res = .error f ∧ result.text = f.report := by
    have hsaid : Except.ok result = (box.reply (fun _ v => v) load s).result :=
      hresult.symm.trans (Toolbox.call_reply box load s)
    rw [hreply] at hsaid
    cases res with
    | error f => exact ⟨f, rfl, (ToolResult.made_text hsaid.symm).1⟩
    | ok u =>
        cases hsaid
        cases herror
  have hbreaks : Ink.Story.Breaks text story f told :=
    (Ink.Story.loadState_error_iff (closed_of_unclosed (unclosed_of_live hs hlive))).mp hrun
  have hplace : s.storyOf a = some x.story := by
    rw [storyOf, hx]
    rfl
  refine ⟨x.story, f, told, hplace, hbreaks, htext, hmatches, ?_, ?_, ?_⟩
  · rw [hshare a]
    exact share_live hx (List.getElem?_set_self (List.getElem?_eq_some_iff.mp hstory).1)
  · exact fun b hne => (hshare b).trans (share_retelling hs hx hne)
  · rintro rfl later
    rw [retelling_self hstory] at hmatches
    exact Toolbox.results_matches (Ink.engine_blind setup) later hmatches

/-- A state with a place and no variables moves the story to the place, and something else is told
next.  A state with no place goes unheard. -/
theorem load_refused_moved :
    let box := Ink.toolbox false (some 9) none
    let call (name : String) (more : Fields) : ToolCall :=
      ⟨name, .obj (("session_id", .str "a") :: more)⟩
    let source := "A\n* [go] -> K\n=== K ===\nB\n-> END"
    let calls := [call "start_story" [("source", .str source)]]
    let s := box.serve calls Ink.idle.bare
    let story : Ink.Story :=
      { program := ⟨[("", [.text "A" [], .choice "go" "K"]), ("K", [.text "B" [], .divert "END"])],
          [], [], []⟩
        bindings := [], cursor := .at "" 1, offers := [.option "go" "K"] }
    let placed := "\x7b\"pc\": [\"K\", 0]\x7d"
    let load := call "load_state" [("state_json", .str placed)]
    let empty := call "load_state" [("state_json", .str "\x7b\x7d")]
    let proceed := call "continue_story" []
    ((s.share "a").live = some (story, .null) ∧
      box.requested load.name load.arguments = some (.loadState "a" placed) ∧
      box.result load s = .ok { text := "KeyError: 'variables'", isError := true } ∧
      box.requested empty.name empty.arguments = some (.loadState "a" "\x7b\x7d") ∧
      box.result empty s = .ok { text := "KeyError: 'pc'", isError := true }) ∧
    (∃ f, Ink.Story.Breaks placed story f { story with cursor := .at "K" 0 }) ∧
    box.result proceed (box.after load s) ≠ box.result proceed s ∧
    ∀ later, box.results later (box.after empty s) = box.results later s := by
  intro box call source calls s story placed load empty proceed
  have hlive : (s.share "a").live = some (story, .null) := by decide +kernel
  have hload : box.requested load.name load.arguments = some (.loadState "a" placed) := by
    decide +kernel
  have hresult : box.result load s = .ok { text := "KeyError: 'variables'", isError := true } := by
    decide +kernel
  have hempty : box.requested empty.name empty.arguments = some (.loadState "a" "\x7b\x7d") := by
    decide +kernel
  have hresult' : box.result empty s = .ok { text := "KeyError: 'pc'", isError := true } := by
    decide +kernel
  have hmoved : ((box.after load s).share "a").live =
      some ({ story with cursor := .at "K" 0 }, .null) := by decide +kernel
  have hkept : ((box.after empty s).share "a").live = some (story, .null) := by decide +kernel
  have hdiffers : box.result proceed (box.after load s) ≠ box.result proceed s := by
    decide +kernel
  refine ⟨⟨hlive, hload, hresult, hempty, hresult'⟩, ?_, hdiffers, ?_⟩
  · obtain ⟨n, f, told, -, hbreaks, -, -, htold, -⟩ :=
      load_refused false (some 9) none Ink.idle calls hlive hload hresult rfl
    obtain ⟨rfl, -⟩ := Prod.mk.inj (Option.some.inj (hmoved.symm.trans htold))
    exact ⟨f, hbreaks⟩
  · obtain ⟨n, f, told, -, -, -, -, htold, -, hunheard⟩ :=
      load_refused false (some 9) none Ink.idle calls hlive hempty hresult' rfl
    exact hunheard (Prod.mk.inj (Option.some.inj (htold.symm.trans hkept))).1

end Server

end StoryServer
