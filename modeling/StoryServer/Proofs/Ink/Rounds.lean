import StoryServer.Proofs.Ink.Walk
import StoryServer.Proofs.Session.Restore

/-!
# How long a story is continued

Continuing a story goes round a loop, one line each time, and nothing in the loop bounds it:
`Story.rounds` counts how often it goes round.  What bounds it is the program.  A story whose
way meets no text twice goes round no more often than there are texts (`rounds_le`), and from
then on it makes no difference how many lines it may tell (`continueFrom_enough`).

A story that can be continued to a stop has such a way, if its place is counted from the
beginning of the knot (`texts_told_once`).  One that was restored to a place counted from the
end may tell a text twice and stop all the same (`texts_told_again`).
-/

namespace StoryServer

namespace Ink

/-- Where one route halts, no route from the same place passes a text twice. -/
theorem Program.Route.places_nodup_of_halting {p : Program} {c d e : Cursor} {xs ys : List Spot}
    (h : p.Route c xs d) (h' : p.Route c ys e) (he : p.Halts e) (hs : c.Sound) (hf : c.Forward) :
    (xs.map Spot.place).Nodup := by
  obtain ⟨zs, rfl, -⟩ := h.rest h' he
  have hall := h'.places_nodup he hs hf
  rw [List.map_append] at hall
  exact hall.of_append_left

namespace Story

/-- How often a continuation goes round its loop, if it may do so `n` times: once for each line,
and once more when a line fails. -/
def rounds : Nat → Story → Nat
  | 0, _ => 0
  | n + 1, s =>
    match s.peek, continueLine.on s with
    | .ok true, (.ok _, t) => rounds n t + 1
    | .ok true, (.error _, _) => 1
    | _, _ => 0

variable {s : Story}

/-- Each round passes a text on the way from where the story was continued. -/
theorem rounds_le {p : Program} {c : Cursor} (hc : c.Sound)
    (hn : ∀ spots d, p.Route c spots d → (spots.map Spot.place).Nodup) :
    ∀ (n : Nat) {s : Story} {seen : List Spot}, s.program = p → p.Route c seen s.cursor →
      seen.length + s.rounds n ≤ p.texts.length
  | 0, s, seen, _, hseen => hseen.length_le hc (hn _ _ hseen)
  | n + 1, s, seen, hp, hseen => by
      have hnone : seen.length ≤ p.texts.length := hseen.length_le hc (hn _ _ hseen)
      rw [rounds]
      cases hpeek : s.peek with
      | error f => exact hnone
      | ok more =>
          cases more with
          | false => exact hnone
          | true =>
              cases hl : continueLine.on s with
              | mk r t =>
                  cases r with
                  | error f =>
                      -- the text that the failing line was to tell
                      obtain ⟨spot, d, hnext⟩ := Program.route_of_peekFrom_true hpeek
                      rw [hp] at hnext
                      have hlonger := (hseen.trans hnext).length_le hc (hn _ _ (hseen.trans hnext))
                      simpa using hlonger
                  | ok line =>
                      obtain ⟨spot, hwalk, -⟩ := continueLine_walk hpeek hl
                      have hnext : p.Route s.cursor [spot] t.cursor := hp ▸ hwalk.route
                      have hrest := rounds_le hc hn n (s := t) (hwalk.program.trans hp) (hseen.trans hnext)
                      simp only [List.length_append, List.length_singleton] at hrest
                      dsimp only
                      omega

/-- A continuation that does not go round as often as it may ends by itself. -/
theorem continueFrom_enough : ∀ {n m : Nat} {s : Story}, s.rounds n < n → n ≤ m →
    ∀ (told : String) (tags : List Json) (can : Bool),
      (continueFrom m told tags can).on s = (continueFrom n told tags can).on s
  | 0, _, s, h, _, _, _, _ => absurd h (Nat.not_lt_zero _)
  | n + 1, 0, s, _, hm, _, _, _ => absurd hm (Nat.not_succ_le_zero n)
  | n + 1, m + 1, s, h, hm, told, tags, can => by
      rw [continueFrom_on, continueFrom_on]
      rw [rounds] at h
      cases hpeek : s.peek with
      | error f => rfl
      | ok more =>
          cases more with
          | false => rfl
          | true =>
              cases hl : continueLine.on s with
              | mk r t =>
                  cases r with
                  | error f => rfl
                  | ok line =>
                      rw [hpeek, hl] at h
                      exact continueFrom_enough (Nat.lt_of_succ_lt_succ h)
                        (Nat.le_of_succ_le_succ hm) _ _ _

theorem continueWithin_enough {n m : Nat} (h : s.rounds n < n) (hm : n ≤ m) :
    (continueWithin m).on s = (continueWithin n).on s := by
  rw [continueWithin_on, continueWithin_on, continueFrom_enough h hm]

end Story

end Ink

/-! ## Reachable stories -/

section Rounds

variable (setup : Setup) (traceLimit : Option Int) (author : Option Author.Settings)
variable {story : Ink.Story} {a : String} {v : Json}

open Ink Ink.Story

/-- **Continuing a story that stops tells no text twice, and a story without a repeated text on
its way stops.**  A story of a live session after any calls.  If its place is not counted from
the end of a knot, a continuation that answers has told the texts of a route through the program,
each of them once.  And, whatever its place, if no route from it passes a text twice, then the
loop goes round no more often than the program has texts, and however many lines the story may
tell beyond that, the answer or fault is the same. -/
theorem texts_told_once (s₀ : Server Shelf) (calls : List ToolCall)
    (hlive : (((Ink.toolbox setup traceLimit author).serve calls s₀.bare).share a).live =
      some (story, v)) :
    let p := story.program
    (story.cursor.Forward → ∀ n c t, (continueWithin n).on story = (.ok c, t) →
      ∃ spots d, p.Route story.cursor spots d ∧ c.text = .str (String.join (spots.map Spot.line)) ∧
        c.tags = spots.flatMap Spot.tagged ∧ (spots.map Spot.place).Nodup ∧
        spots.length ≤ p.texts.length) ∧
    ((∀ spots d, p.Route story.cursor spots d → (spots.map Spot.place).Nodup) →
      (∀ n, story.rounds n ≤ p.texts.length) ∧
      ∀ n, p.texts.length < n →
        (continueWithin n).on story = (continueWithin (p.texts.length + 1)).on story) := by
  intro p
  have hsound : story.Sound :=
    (sound_serve setup traceLimit author calls s₀.orderly_bare fun _ h => nomatch h).live hlive
  refine ⟨fun hforward n c t hrun => ?_, fun honce => ?_⟩
  · obtain ⟨-, ⟨spots, -, htelling⟩ | ⟨-, -, -, htext, htags⟩⟩ := continueWithin_walk hrun
    · have hroute : p.Route story.cursor spots t.cursor := htelling.walk.route
      have hnodup := hroute.places_nodup htelling.halts hsound.cursor hforward
      exact ⟨spots, t.cursor, hroute, htelling.text, htelling.tags, hnodup,
        hroute.length_le hsound.cursor hnodup⟩
    · exact ⟨[], story.cursor, .here, htext, htags, .nil, Nat.zero_le _⟩
  · have hrounds : ∀ n, story.rounds n ≤ p.texts.length := fun n => by
      simpa using rounds_le hsound.cursor honce n rfl .here
    refine ⟨hrounds, fun n hn => ?_⟩
    exact continueWithin_enough (Nat.lt_succ_of_le (hrounds _)) hn

/-- A story about to tell a knot, in which a variable is set between the two texts. -/
theorem texts_told_once_knot :
    let box := Ink.toolbox false (some 9) none
    let call (name : String) (more : Fields) : ToolCall :=
      ⟨name, .obj (("session_id", .str "a") :: more)⟩
    let source := "VAR x = 0\nA\n* [go] -> K\n=== K ===\nB #b\n~ x = x + 1\nC\n-> END"
    let calls := [call "start_story" [("source", .str source)],
      call "choose" [("choice_index", .int 0), ("auto_continue", .bool false)]]
    let story : Story :=
      { program := ⟨[("", [.text "A" [], .choice "go" "K"]),
          ("K", [.text "B" ["b"], .assign "x" "x + 1", .text "C" [], .divert "END"])],
          [(.str "x", .int 0)], [], []⟩
        bindings := [(.str "x", .int 0)], cursor := .at "K" 0 }
    let c : Continuation :=
      { text := .str "B\nC\n", canContinue := false, choices := [], tags := [.str "b"] }
    let told := { story with bindings := [(.str "x", .int 1)], cursor := .ended }
    (((box.serve calls idle.bare).share "a").live = some (story, .null) ∧ story.cursor.Forward ∧
      continueStory.on story = (.ok c, told) ∧ story.program.texts.length = 3) ∧
    (∃ spots d, story.program.Route story.cursor spots d ∧
      c.text = .str (String.join (spots.map Spot.line)) ∧ (spots.map Spot.place).Nodup) ∧
    (∀ n, story.rounds n ≤ 3) ∧
    ∀ n, 3 < n → (continueWithin n).on story = (continueWithin 4).on story := by
  intro box call source calls story c told
  have hlive : ((box.serve calls idle.bare).share "a").live = some (story, .null) := by
    decide +kernel
  have hforward : story.cursor.Forward := by decide
  have hrun : continueStory.on story = (.ok c, told) := by decide +kernel
  have htexts : story.program.texts.length = 3 := by decide
  obtain ⟨hanswer, hends⟩ := texts_told_once false (some 9) none idle calls hlive
  obtain ⟨spots, d, hroute, htext, -, hnodup, -⟩ := hanswer hforward lineLimit c told hrun
  rw [htexts] at hends
  refine ⟨⟨hlive, hforward, hrun, htexts⟩, ⟨spots, d, hroute, htext, hnodup⟩, hends ?_⟩
  -- the story comes to a stop, so no route from its place passes a text twice
  have hwalk := (continueWithin_walk (n := lineLimit) hrun).2
  obtain ⟨xs, e, hhalting, he⟩ : ∃ xs e, story.program.Route story.cursor xs e ∧
      story.program.Halts e := by
    rcases hwalk with ⟨xs, -, htelling⟩ | ⟨hpeek, -⟩
    · exact ⟨xs, _, htelling.walk.route, htelling.halts⟩
    · obtain ⟨e, hroute, he⟩ := Program.route_of_peekFrom_false hpeek
      exact ⟨[], e, hroute, he⟩
  exact fun ys d h => h.places_nodup_of_halting hhalting he trivial hforward

/-- A story that was restored to its last text, counted from the end, tells this text twice: more
lines than the program has texts. -/
theorem texts_told_again :
    let box := Ink.toolbox false (some 9) none
    let call (name : String) (more : Fields) : ToolCall :=
      ⟨name, .obj (("session_id", .str "a") :: more)⟩
    let state := "\x7b\"pc\": [\"\", -1], \"variables\": \x7b\x7d, \"choices\": []\x7d"
    let calls := [call "start_story" [("source", .str "A\nB")],
      call "load_state" [("state_json", .str state)]]
    let story : Story :=
      { program := ⟨[("", [.text "A" [], .text "B" []])], [], [], []⟩
        bindings := [], cursor := .at "" (-1) }
    ((box.serve calls idle.bare).share "a").live = some (story, .null) ∧
      (continueStory.on story).1 =
        .ok { text := .str "B\nA\nB\n", canContinue := false, choices := [], tags := [] } ∧
      story.program.texts.length = 2 ∧ story.rounds 9 = 3 := by
  refine ⟨?_, ?_, ?_, ?_⟩ <;> decide +kernel

end Rounds

end StoryServer
