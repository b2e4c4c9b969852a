import StoryServer.Proofs.Ink.Running

/-!
# Telling a story line by line

`Story.Tale s lines e t` says that telling the story `s` line by line gives `lines` and ends
with `t`: at a stop if `e` is none, else with the fault of the line that comes next.  There is
only one way to tell a story, so a tale says which lines are told, and where a fault comes.

Continuing a story tells its tale (`continueWithin_tale`): it looks ahead before every line,
and what it finds is what the last line said of itself.  The choices on offer are listed before
the first line, so a story whose choices cannot be listed is told only line by line.
-/

namespace StoryServer

namespace Ink

/-- The text of a line. -/
def lineText (c : Continuation) : String :=
  match c.text with
  | .str line => line
  | _ => ""

namespace Story

/-- The lines of a story up to its next stop or fault. -/
inductive Tale : Story → List Continuation → Option Fault → Story → Prop where
  /-- The last line before a stop. -/
  | last {s t : Story} {c : Continuation} (hp : s.peek = .ok true)
      (hl : continueLine.on s = (.ok c, t)) (hc : c.canContinue = false) : Tale s [c] none t
  | fault {s t : Story} {f : Fault} (hp : s.peek = .ok true)
      (hl : continueLine.on s = (.error f, t)) : Tale s [] (some f) t
  /-- A line after which the story goes on. -/
  | more {s t u : Story} {c : Continuation} {lines : List Continuation} {e : Option Fault}
      (hp : s.peek = .ok true) (hl : continueLine.on s = (.ok c, t)) (hc : c.canContinue = true)
      (h : Tale t lines e u) : Tale s (c :: lines) e u

/-- A story that some lines lead to. -/
inductive Leads : Story → List Continuation → Story → Prop where
  | refl {s : Story} : Leads s [] s
  | more {s t u : Story} {c : Continuation} {lines : List Continuation} (hp : s.peek = .ok true)
      (hl : continueLine.on s = (.ok c, t)) (h : Leads t lines u) : Leads s (c :: lines) u

theorem Tale.peek {s t : Story} {lines : List Continuation} {e : Option Fault}
    (h : Tale s lines e t) : s.peek = .ok true := by
  cases h with
  | last hp _ _ => exact hp
  | fault hp _ => exact hp
  | more hp _ _ _ => exact hp

theorem continueFrom_on (n : Nat) (told : String) (tags : List Json) (can : Bool) (s : Story) :
    (continueFrom (n + 1) told tags can).on s =
      match s.peek with
      | .error f => (.error f, s)
      | .ok true =>
        match continueLine.on s with
        | (.error f, t) => (.error f, t)
        | (.ok c, t) => (continueFrom n (told ++ lineText c) (tags ++ c.tags) c.canContinue).on t
      | .ok false =>
        match s.choices with
        | .error f => (.error f, s)
        | .ok choices => (.ok { text := .str told, canContinue := can, choices, tags }, s) := by
  rw [continueFrom, Act.on_bind, Act.on_get]
  dsimp only
  rw [Act.on_bind, Act.on_ofExcept]
  cases s.peek with
  | error f => rfl
  | ok more =>
      cases more with
      | true =>
          simp only [if_true, Act.on_bind]
          generalize continueLine.on s = run
          obtain ⟨r, t⟩ := run
          cases r <;> rfl
      | false =>
          simp only [Bool.false_eq_true, if_false, Act.on_bind, Act.on_get, Act.on_ofExcept]
          cases s.choices <;> rfl

/-- What a continuation answers after it has told a tale. -/
def answer (told : String) (tags : List Json) (lines : List Continuation)
    (choices : List Choice) : Continuation :=
  { text := .str (lines.foldl (fun told c => told ++ lineText c) told), canContinue := false
    choices, tags := tags ++ lines.flatMap (·.tags) }

/-- Where the story goes on, continuing it tells a tale, and answers with its lines. -/
theorem continueFrom_tale : ∀ (n : Nat) (told : String) (tags : List Json) (can : Bool)
    {s t : Story} {r : Except Fault Continuation}, s.peek = .ok true →
      (continueFrom n told tags can).on s = (r, t) → r ≠ .error .endless →
        ∃ lines e, Tale s lines e t ∧
          match e with
          | some f => r = .error f
          | none => ∃ choices, t.choices = .ok choices ∧ r = .ok (answer told tags lines choices)
  | 0, told, tags, can, s, t, r, _, h, hr => absurd (Prod.mk.inj h).1.symm hr
  | n + 1, told, tags, can, s, t, r, hp, h, hr => by
      rw [continueFrom_on, hp] at h
      cases hl : continueLine.on s with
      | mk line u =>
          rw [hl] at h
          cases line with
          | error f =>
              obtain ⟨rfl, rfl⟩ := Prod.mk.inj h
              exact ⟨[], some f, .fault hp hl, rfl⟩
          | ok c =>
              have htold := continueLine_told hl
              dsimp only at h
              cases hc : c.canContinue with
              | true =>
                  obtain ⟨lines, e, htale, hanswer⟩ :=
                    continueFrom_tale n _ _ _ (hc ▸ htold.peek) h hr
                  refine ⟨c :: lines, e, .more hp hl hc htale, ?_⟩
                  cases e with
                  | some f => exact hanswer
                  | none =>
                      obtain ⟨choices, hchoices, rfl⟩ := hanswer
                      refine ⟨choices, hchoices, ?_⟩
                      rw [answer, answer, List.foldl_cons, List.flatMap_cons, List.append_assoc]
              | false =>
                  -- looking ahead stops where the line said that the story stops
                  cases n with
                  | zero => exact absurd (Prod.mk.inj h).1.symm hr
                  | succ n =>
                      rw [continueFrom_on, htold.peek, hc, htold.choices hc] at h
                      obtain ⟨rfl, rfl⟩ := Prod.mk.inj h
                      refine ⟨[c], none, .last hp hl hc, c.choices, htold.choices hc, ?_⟩
                      rw [answer, List.flatMap_singleton]
                      rfl

theorem continueWithin_on (n : Nat) (s : Story) :
    (continueWithin n).on s =
      if s.closed then (.error .closedStory, s)
      else match s.choices with
        | .error f => (.error f, s)
        | .ok _ => (continueFrom n "" [] false).on s := by
  rw [continueWithin, Act.on_bind, requireOpen_on]
  cases s.closed with
  | true => rfl
  | false =>
      simp only [Bool.false_eq_true, if_false, Act.on_bind, Act.on_get, Act.on_ofExcept]
      cases s.choices <;> rfl

/-- Continuing an open story that goes on, and whose choices can be listed, tells its tale. -/
theorem continueWithin_tale {n : Nat} {s t : Story} {r : Except Fault Continuation}
    {choices : List Choice} (ho : s.closed = false) (hp : s.peek = .ok true)
    (hc : s.choices = .ok choices) (h : (continueWithin n).on s = (r, t))
    (hr : r ≠ .error .endless) :
    ∃ lines e, Tale s lines e t ∧
      match e with
      | some f => r = .error f
      | none => ∃ choices, t.choices = .ok choices ∧ r = .ok (answer "" [] lines choices) := by
  rw [continueWithin_on, ho, hc] at h
  exact continueFrom_tale n "" [] false hp h hr

end Story

end Ink

end StoryServer
