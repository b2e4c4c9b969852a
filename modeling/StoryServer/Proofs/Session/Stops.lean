import StoryServer.Proofs.Ink.Settled
import StoryServer.Proofs.Session.Restore
import StoryServer.Proofs.Tool.Blindness

/-!
# Where a session stops

Four requests tell a story up to its next stop: starting one, taking a choice and going on,
continuing, and going back to the beginning.  `Departs` says where the story stands that each of
them tells.

As long as no state is restored, every story on the shelf is settled (`settled_serve`).  So the
answer to such a request is what stands on the way from there, with the choices at the end of it
(`stop_told`).  The one exception is a way without a text, to a story with nothing on offer: it is
looked at and not gone.  A story that begins with choices is stuck there (`stop_told_unseen`).
-/

namespace StoryServer

open Server Registry

/-- Whether a request tells a story up to its next stop. -/
def Request.tells : Request → Bool
  | .startStory .. | .choose _ _ true | .continueStory _ | .resetStory _ => true
  | _ => false

section Stops

variable (setup : Ink.Setup) (traceLimit : Option Int) (author : Option Author.Settings)
variable {s t : Server Ink.Shelf} {c : ToolCall} {r : Request} {a : String} {v : Json}
variable {story : Ink.Story}

/-! ## Settled shelves -/

theorem Ink.start_of_storyOf {source : String} (h : Ink.storyOf source = .ok story) :
    ∃ p, story = Ink.Story.start p := by
  rw [storyOf] at h
  split at h
  · cases h
  · split at h
    · exact ⟨_, (Except.ok.inj h).symm⟩
    · cases h

theorem Ink.start_of_storyOfCompiled {text : String} (h : Ink.storyOfCompiled text = .ok story) :
    ∃ p, story = Ink.Story.start p := by
  unfold storyOfCompiled at h
  split at h
  · cases h
  · exact start_of_storyOf h
  · cases h

theorem Ink.settled_close (story : Ink.Story) (h : story.Settled) : story.close.Settled :=
  ⟨h.cursor, h.offers⟩

variable {setup traceLimit author} in
/-- A story that is started without a saved state is settled once it has been continued. -/
theorem Comes.settled {o : Outset} {u : Server Ink.Shelf}
    (h : Comes setup traceLimit author s r o u) (hr : r.restores = false)
    (hb : o.begun = .ok story) : ((Ink.Story.resume o.state).on story).2.Settled := by
  have hstart : (∃ p, story = Ink.Story.start p) ∧ o.state = none := by
    cases h with
    | source => exact ⟨Ink.start_of_storyOf hb, rfl⟩
    | compiled json id state =>
        refine ⟨Ink.start_of_storyOfCompiled hb, ?_⟩
        cases state with
        | none => rfl
        | some state => cases hr
    | generated => exact ⟨Ink.start_of_storyOf hb, rfl⟩
  obtain ⟨⟨p, rfl⟩, hstate⟩ := hstart
  rw [hstate]
  exact Ink.Story.settling_continueStory _ (Ink.Story.settled_start p)

theorem settled_answer (hs : s.Orderly) (h : s.Shelves Ink.Story.Settled)
    (hr : r.restores = false) :
    (((Ink.toolbox setup traceLimit author).answer r).on s).2.Shelves Ink.Story.Settled := by
  cases haside : r.isAside with
  | true =>
      have hengine : (Ink.toolbox setup traceLimit author).engine.LeadsUnrestored _ :=
        Ink.engine_settles setup
      exact (Toolbox.answer_leads_unrestored hengine haside hr s).1 h
  | false =>
      cases r with
      | startStory | startStoryJson | generateCompilePlay =>
          exact shelves_start setup traceLimit author hs h Ink.settled_close rfl
            fun _ _ _ hcomes hb => hcomes.settled hr hb
      | endSession id => exact shelves_end setup traceLimit author hs h Ink.settled_close id
      | _ => cases haside

/-- Whatever is called but what restores a state, all stories stay settled. -/
theorem settled_serve : ∀ (calls : List ToolCall) {s : Server Ink.Shelf}, s.Orderly →
    s.Shelves Ink.Story.Settled →
    (∀ c ∈ calls, ((Ink.toolbox setup traceLimit author).requested c.name c.arguments).any
      Request.restores = false) →
    ((Ink.toolbox setup traceLimit author).serve calls s).Shelves Ink.Story.Settled
  | [], _, _, h, _ => h
  | c :: rest, s, hs, h, hcalls => by
      have hafter : ((Ink.toolbox setup traceLimit author).after c s).Shelves Ink.Story.Settled := by
        refine shelves_after h fun r hr => settled_answer setup traceLimit author hs h ?_
        have hc := hcalls c List.mem_cons_self
        rwa [hr] at hc
      exact settled_serve rest (hs.after setup traceLimit author c) hafter
        fun d hd => hcalls d (List.mem_cons_of_mem c hd)

/-! ## What a request tells -/

/-- The story that a request goes on to tell: a new one, the one that is live, or what taking a
choice or going back to the beginning makes of it. -/
inductive Departs (s : Server Ink.Shelf) : Request → Ink.Story → Prop where
  | started {source : String} {id : Option String} {story : Ink.Story}
      (h : Ink.storyOf source = .ok story) : Departs s (.startStory source id) story
  | continued {a : String} {story : Ink.Story} {v : Json}
      (hlive : (s.share a).live = some (story, v)) : Departs s (.continueStory a) story
  | chosen {a : String} {k : Int} {before story : Ink.Story} {v : Json}
      (hlive : (s.share a).live = some (before, v))
      (hchoose : (Ink.Story.choose k).on before = (.ok (), story)) :
      Departs s (.choose a k true) story
  | restarted {a : String} {before story : Ink.Story} {v : Json}
      (hlive : (s.share a).live = some (before, v))
      (hreset : Ink.Story.reset.on before = (.ok (), story)) : Departs s (.resetStory a) story

theorem Server.Shelves.live {P : Ink.Story → Prop} (h : s.Shelves P)
    (hlive : (s.share a).live = some (story, v)) : P story := by
  obtain ⟨x, -, hstory, -⟩ := session_of_live hlive
  exact h story (List.mem_of_getElem? hstory)

theorem Departs.settled (h : Departs s r story) (hs : s.Shelves Ink.Story.Settled) :
    story.Settled := by
  cases h with
  | started hstory =>
      obtain ⟨p, rfl⟩ := Ink.start_of_storyOf hstory
      exact Ink.Story.settled_start p
  | continued hlive => exact hs.live hlive
  | @chosen _ k _ _ _ hlive hchoose =>
      have hafter := Ink.Story.settling_choose k _ (hs.live hlive)
      rwa [hchoose] at hafter
  | restarted hlive hreset =>
      have hafter := Ink.Story.settling_reset _ (hs.live hlive)
      rwa [hreset] at hafter

/-- Only a live session answers for its story. -/
theorem live_of_told (hs : s.Orderly) {act : StoryId → Act (Stage Ink.Shelf) Continuation} {w : Json}
    (h : ((do return (← Toolbox.withStory a act).toJson a : Act (Server Ink.Shelf) Json).on s).1 =
      .ok w) : ∃ story v, (s.share a).live = some (story, v) := by
  cases hx : s.sessions.find? (·.id == a) with
  | none =>
      have hfault : (Toolbox.withStory a act).on s = (.error (.noSession a), s) :=
        Act.on_bind_of_error (Debug.session_none hx)
      rw [Act.on_bind_of_error hfault] at h
      cases h
  | some x =>
      have hplace := hs.shelved x (List.mem_of_find?_eq_some hx)
      exact ⟨_, _, share_live hx (List.getElem?_eq_getElem hplace)⟩

/-- What a live session answers for its story. -/
theorem told_of_live {act : StoryId → Act (Stage Ink.Shelf) Continuation}
    {inner : Act Ink.Story Continuation} (hact : ∀ n, Ink.OnStory n (act n) inner)
    (hlive : (s.share a).live = some (story, v)) {w : Json}
    (h : (do return (← Toolbox.withStory a act).toJson a : Act (Server Ink.Shelf) Json).on s =
      (.ok w, t)) :
    ∃ told u, inner.on story = (.ok told, u) ∧ w = told.toJson a ∧
      (t.share a).live = some (u, v) := by
  obtain ⟨hanswer, hafter⟩ := told_live hact hlive
  rw [h] at hanswer hafter
  cases hrun : inner.on story with
  | mk res u =>
  rw [hrun] at hanswer hafter
  cases res with
  | error f => cases hanswer
  | ok told => exact ⟨told, u, rfl, Except.ok.inj hanswer, hafter⟩

namespace Ink.Story

/-- Taking a choice that must be on offer, and going on. -/
def takeOn (k : Int) : Act Story Continuation := do
  let choices ← (do
    requireOpen
    Act.ofExcept (← get).choices)
  if k < 0 ∨ k ≥ choices.length then throw (.choiceIndex k choices.length)
  choose k
  continueStory

theorem onStory_takeOn (n : StoryId) (k : Int) :
    OnStory n ((Ink.toolbox setup traceLimit author).choose k true n) (takeOn k) := by
  refine onStory_bind (onStory_inStory n _) fun choices => ?_
  by_cases hk : k < 0 ∨ k ≥ choices.length
  · simp only [if_pos hk]
    exact onStory_bind (onStory_throw _) fun _ =>
      onStory_bind (onStory_inStory n _) fun _ => onStory_inStory n _
  · simp only [if_neg hk]
    exact onStory_bind (onStory_inStory n _) fun _ => onStory_inStory n _

theorem takeOn_ok {k : Int} {before t : Story} {told : Continuation}
    (h : (takeOn k).on before = (.ok told, t)) :
    ∃ story, (choose k).on before = (.ok (), story) ∧ continueStory.on story = (.ok told, t) := by
  rw [takeOn, Act.on_bind] at h
  have hkept : (Act.on _ before).2 = before := @keeps_choices _ id before
  generalize (do requireOpen; Act.ofExcept (← get).choices : Act Story (List Choice)).on before = run
    at h hkept
  obtain ⟨r, u⟩ := run
  obtain rfl : u = before := hkept
  cases r with
  | error f => cases h
  | ok choices =>
      dsimp only at h
      by_cases hk : k < 0 ∨ k ≥ choices.length
      · rw [if_pos hk] at h
        cases h
      · rw [if_neg hk] at h
        obtain ⟨_, story, hchoose, hrest⟩ := Act.of_on_bind (congrArg Prod.fst h)
        exact ⟨story, hchoose, hrest.symm.trans h⟩

end Ink.Story

/-- What a request that tells a story answers is what continuing the story from there answers. -/
theorem answer_told (hs : s.Orderly) (htells : r.tells = true) {w : Json}
    (h : ((Ink.toolbox setup traceLimit author).answer r).on s = (.ok w, t)) :
    ∃ name story told u v, Departs s r story ∧ Ink.Story.continueStory.on story = (.ok told, u) ∧
      w = told.toJson name ∧ (t.share name).live = some (u, v) := by
  cases r with
  | startStory source id =>
      have hopens := Ink.opens_source setup source
      cases hbegun : Ink.storyOf source with
      | error f =>
          rw [hbegun] at hopens
          obtain ⟨res, u, hstart, hstarted⟩ := Toolbox.startFrom_started setup traceLimit author
            hopens id source none hs.shelved
          obtain ⟨rfl, -⟩ := started_unopened hstarted
          cases (Act.on_bind_of_error hstart).symm.trans h
      | ok story =>
          rw [hbegun] at hopens
          cases hrun : Ink.Story.continueStory.on story with
          | mk res u =>
              have hresume : (Ink.Story.resume none).on story = (res, u) := hrun
              have hstart := startFrom_live setup traceLimit author hs hopens hresume id source
              cases res with
              | error f => cases (congrArg Prod.fst h).symm.trans hstart
              | ok told =>
                  obtain ⟨name, hw, hlive⟩ := hstart
                  refine ⟨name, story, told, u, .null, .started hbegun, hrun,
                    Except.ok.inj ((congrArg Prod.fst h).symm.trans hw), ?_⟩
                  exact (congrArg (fun after => (after.2.share name).live) h).symm.trans hlive
  | continueStory a =>
      obtain ⟨story, v, hlive⟩ := live_of_told hs (congrArg Prod.fst h)
      obtain ⟨told, u, hrun, hw, hafter⟩ := told_of_live
        (fun n => Ink.onStory_inStory n Ink.Story.continueStory) hlive h
      exact ⟨a, story, told, u, v, .continued hlive, hrun, hw, hafter⟩
  | choose a k continues =>
      obtain rfl : continues = true := by
        cases continues with
        | true => rfl
        | false => cases htells
      obtain ⟨before, v, hlive⟩ := live_of_told hs (congrArg Prod.fst h)
      obtain ⟨told, u, hrun, hw, hafter⟩ := told_of_live
        (fun n => Ink.Story.onStory_takeOn setup traceLimit author n k) hlive h
      obtain ⟨story, hchoose, hcontinue⟩ := Ink.Story.takeOn_ok hrun
      exact ⟨a, story, told, u, v, .chosen hlive hchoose, hcontinue, hw, hafter⟩
  | resetStory a =>
      obtain ⟨before, v, hlive⟩ := live_of_told hs (congrArg Prod.fst h)
      obtain ⟨told, u, hrun, hw, hafter⟩ := told_of_live (fun n =>
        Ink.onStory_bind (Ink.onStory_inStory n Ink.Story.reset) fun _ =>
          Ink.onStory_inStory n Ink.Story.continueStory) hlive h
      obtain ⟨_, story, hreset, hrest⟩ := Act.of_on_bind (congrArg Prod.fst hrun)
      exact ⟨a, story, told, u, v, .restarted hlive hreset, hrest.symm.trans hrun, hw, hafter⟩
  | _ => cases htells

/-- **Where a story stops, its choices are listed, unless nothing is told.**  A run of calls of
which none restores a state, and after it a call that tells a story up to its next stop and
answers without an error.  The story does not go on.  If something was told, or on offer already,
all logic on the way to its stand has run, and the choices listed are the whole run of choices
there, or none where the story is over or the knot ends.  Otherwise nothing is told or listed,
whatever stands at the end of the way, and the story has not moved. -/
theorem stop_told (s₀ : Server Ink.Shelf) (calls : List ToolCall) {result : ToolResult}
    (hcalls : ∀ c ∈ calls, ((Ink.toolbox setup traceLimit author).requested c.name c.arguments).any
      Request.restores = false)
    (hrequest : (Ink.toolbox setup traceLimit author).requested c.name c.arguments = some r)
    (htells : r.tells = true)
    (hresult : (Ink.toolbox setup traceLimit author).result c
      ((Ink.toolbox setup traceLimit author).serve calls s₀.bare) = .ok result)
    (hok : result.isError = false) :
    let box := Ink.toolbox setup traceLimit author
    let s := box.serve calls s₀.bare
    ∃ name story told t v, Departs s r story ∧ Toolbox.resultText (told.toJson name) = .ok result.text ∧
      ((box.after c s).share name).live = some (t, v) ∧ told.canContinue = false ∧
      story.Continues told t := by
  intro box s
  have hs : s.Orderly := s₀.orderly_bare.serve calls
  have hsettled : s.Shelves Ink.Story.Settled :=
    settled_serve setup traceLimit author calls s₀.orderly_bare (fun _ h => nomatch h) hcalls
  obtain ⟨hreply, hshare⟩ := reply_requested hrequest s
  have hsaid : Except.ok result = (box.reply (fun _ v => v) c s).result :=
    hresult.symm.trans (Toolbox.call_reply box c s)
  rw [hreply] at hsaid
  cases hrun : (box.answer r).on s with
  | mk res t =>
  rw [hrun] at hsaid
  cases res with
  | error f => exact absurd (ToolResult.made_text hsaid.symm).2 (by simp [hok])
  | ok w =>
      have htext : Toolbox.resultText w = .ok result.text := by
        rw [Reply.result] at hsaid
        dsimp only [Except.map, Except.bind] at hsaid
        cases hwrite : Toolbox.resultText w with
        | error f =>
            rw [hwrite] at hsaid
            exact absurd (ToolResult.made_text hsaid.symm).2 (by simp [hok])
        | ok text =>
            rw [hwrite] at hsaid
            cases hsaid
            rfl
      obtain ⟨name, story, told, u, v, hdeparts, hcontinue, rfl, hlive⟩ :=
        answer_told setup traceLimit author hs htells hrun
      obtain ⟨hcan, htold⟩ := (hdeparts.settled hsettled).continues hcontinue
      refine ⟨name, story, told, u, v, hdeparts, htext, ?_, hcan, htold⟩
      rw [hshare name, hrun]
      exact hlive

/-- A story that begins with a choice: nothing stands before the choice, and nothing is listed.
The choice cannot be taken. -/
theorem stop_told_unseen :
    let box := Ink.toolbox false (some 9) none
    let call (name : String) (more : Fields) : ToolCall :=
      ⟨name, .obj (("session_id", .str "a") :: more)⟩
    let source := "* [go] -> END"
    let c := call "start_story" [("source", .str source)]
    let take := call "choose" [("choice_index", .int 0)]
    let s := box.serve [] Ink.idle.bare
    let answer := "\x7b\"session_id\": \"a\", \"text\": \"\", \"can_continue\": false, " ++
      "\"choices\": [], \"tags\": []\x7d"
    (box.requested c.name c.arguments = some (.startStory source (some "a")) ∧
      box.result c s = .ok { text := answer, isError := false } ∧
      box.result take (box.after c s) =
        .ok { text := "ValueError: Choice index 0 out of range (0 choices available)", isError := true }) ∧
    ∃ story told t, Departs s (.startStory source (some "a")) story ∧ story.Continues told t ∧
      told.choices = [] ∧ story.program.Stand story.cursor [("go", "END")] := by
  intro box call source c take s answer
  have hrequest : box.requested c.name c.arguments = some (.startStory source (some "a")) := by
    decide +kernel
  have hresult : box.result c s = .ok { text := answer, isError := false } := by decide +kernel
  have hrefused : box.result take (box.after c s) =
      .ok { text := "ValueError: Choice index 0 out of range (0 choices available)", isError := true } := by
    decide +kernel
  have hstory : Ink.storyOf source =
      .ok (Ink.Story.start ⟨[("", [.choice "go" "END"])], [], [], []⟩) := by decide +kernel
  obtain ⟨name, story, told, t, v, hdeparts, -, -, -, htold⟩ := stop_told false (some 9) none Ink.idle
    [] (fun _ h => nomatch h) hrequest rfl hresult rfl
  have hbegins : story = Ink.Story.start ⟨[("", [.choice "go" "END"])], [], [], []⟩ := by
    cases hdeparts with
    | started h => exact Except.ok.inj (h.symm.trans hstory)
  refine ⟨⟨hrequest, hresult, hrefused⟩, story, told, t, hdeparts, htold, ?_, ?_⟩
  · cases htold with
    | told hsome hwalk =>
        have hhalts : story.program.Halts story.cursor := by
          rw [hbegins]
          exact ⟨_, rfl, fun j hj => ⟨_, _, (Option.some.inj hj).symm⟩⟩
        have hnone : story.offers = [] := by rw [hbegins]; rfl
        exact absurd (hwalk.route.of_halts hhalts).1 (hsome.resolve_right fun h => h hnone)
    | untold _ _ _ _ _ _ hchoices => exact hchoices
  · rw [hbegins]
    have hbody : (⟨[("", [.choice "go" "END"])], [], [], []⟩ : Ink.Program).body? "" =
        some (([] : List Ink.Instruction) ++
          [("go", "END")].map (fun o => Ink.Instruction.choice o.1 o.2) ++ []) := rfl
    exact .choices hbody (List.cons_ne_nil _ _) (by simp)

end Stops

end StoryServer
