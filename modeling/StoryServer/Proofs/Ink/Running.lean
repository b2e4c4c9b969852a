import StoryServer.Ink.Story

/-!
# Running up to a text

`settleFrom` runs the instructions up to the next text, choice or end, and `peekFrom` only
follows them.  Both take one instruction at a time, so each has one equation.

*Resting.*  What settles without a fault rests before a text, before a choice or at an end
(`settleFrom_rests`).  Where looking ahead finds no text, it does not rest before one
(`settleFrom_stops`).

*Going on.*  A line says of itself whether the story can go on, and looking ahead right
after it says the same (`continueLine_peek`).
-/

namespace StoryServer

namespace Ink

/-! ## Equations -/

theorem Program.instructionAt_ended (p : Program) : p.instructionAt .ended = .ok none := rfl

theorem Program.peekFrom_succ (p : Program) (n : Nat) (c : Cursor) :
    p.peekFrom (n + 1) c =
      match p.instructionAt c with
      | .error f => .error f
      | .ok none | .ok (some (.choice ..)) => .ok false
      | .ok (some (.text ..)) => .ok true
      | .ok (some (.assign ..)) => p.peekFrom n c.next
      | .ok (some (.divert target)) =>
        if endsStory target then .ok false else p.peekFrom n (.at target 0) := by
  rw [peekFrom]
  cases h : p.instructionAt c with
  | error f => rfl
  | ok i =>
      cases i with
      | none => rfl
      | some i => cases i <;> rfl

namespace Story

theorem settleFrom_succ (n : Nat) (s : Story) :
    (settleFrom (n + 1)).on s =
      match s.program.instructionAt s.cursor with
      | .error f => (.error f, s)
      | .ok none | .ok (some (.text ..)) => (.ok (), s)
      | .ok (some (.assign name expression)) =>
        match s.evaluate expression with
        | .error f => (.error f, s)
        | .ok v =>
          (settleFrom n).on
            { s with bindings := s.bindings.put (.str name) v, cursor := s.cursor.next }
      | .ok (some (.divert target)) => (settleFrom n).on { s with cursor := .ofTarget target }
      | .ok (some (.choice ..)) => (.ok (), { s with offers := s.offersHere }) := by
  rw [settleFrom, Act.on_bind, Act.on_get]
  simp only [Act.on_bind, Act.on_ofExcept]
  cases s.program.instructionAt s.cursor with
  | error f => rfl
  | ok i =>
      cases i with
      | none => rfl
      | some i =>
          cases i with
          | text _ _ => rfl
          | choice _ _ => rfl
          | divert target => simp only [Act.on_bind, Act.on_set]
          | assign name expression =>
              simp only [Act.on_bind, Act.on_ofExcept, Act.on_set]
              cases s.evaluate expression <;> rfl

theorem settle_on (s : Story) :
    settle.on s = (settleFrom instructionLimit).on { s with offers := [] } := by
  rw [settle, Act.on_bind, Act.on_modify]

/-! ## Resting -/

/-- Where no instruction runs by itself: before a text or a choice, or at an end. -/
def Rests (s : Story) : Prop :=
  ∃ i, s.program.instructionAt s.cursor = .ok i ∧
    ∀ j, i = some j → (∃ text tags, j = .text text tags) ∨ ∃ text target, j = .choice text target

/-- Where looking ahead ends at once without a text. -/
def Stops (s : Story) : Prop :=
  ∃ i, s.program.instructionAt s.cursor = .ok i ∧
    ∀ j, i = some j → ∃ text target, j = .choice text target

theorem Stops.peek {s : Story} (h : s.Stops) : s.peek = .ok false := by
  obtain ⟨i, hi, hj⟩ := h
  rw [Story.peek, instructionLimit, Program.peekFrom_succ, hi]
  cases i with
  | none => rfl
  | some j =>
      obtain ⟨text, target, rfl⟩ := hj j rfl
      rfl

/-- What settles without a fault rests. -/
theorem settleFrom_rests : ∀ {n : Nat} {s t : Story}, (settleFrom n).on s = (.ok (), t) → t.Rests
  | 0, s, t, h => by simp [settleFrom] at h
  | n + 1, s, t, h => by
      rw [settleFrom_succ] at h
      cases hi : s.program.instructionAt s.cursor with
      | error f => rw [hi] at h; simp at h
      | ok i =>
          rw [hi] at h
          cases i with
          | none =>
              obtain rfl : s = t := by simpa using h
              exact ⟨none, hi, by simp⟩
          | some i =>
              cases i with
              | text text tags =>
                  obtain rfl : s = t := by simpa using h
                  exact ⟨_, hi, by simp⟩
              | choice text target =>
                  obtain rfl : { s with offers := s.offersHere } = t := by simpa using h
                  exact ⟨_, hi, by simp⟩
              | divert target => exact settleFrom_rests h
              | assign name expression =>
                  cases he : s.evaluate expression with
                  | error f => simp [he] at h
                  | ok v =>
                      simp only [he] at h
                      exact settleFrom_rests h

/-- Where looking ahead finds no text, running does not come to one. -/
theorem settleFrom_stops : ∀ {m n : Nat} {s t : Story}, s.program.peekFrom n s.cursor = .ok false →
    (settleFrom m).on s = (.ok (), t) → t.Stops
  | 0, _, s, t, _, h => by simp [settleFrom] at h
  | m + 1, 0, s, t, hp, _ => by simp [Program.peekFrom] at hp
  | m + 1, n + 1, s, t, hp, h => by
      rw [settleFrom_succ] at h
      rw [Program.peekFrom_succ] at hp
      cases hi : s.program.instructionAt s.cursor with
      | error f => rw [hi] at h; simp at h
      | ok i =>
          rw [hi] at h hp
          cases i with
          | none =>
              obtain rfl : s = t := by simpa using h
              exact ⟨none, hi, by simp⟩
          | some i =>
              cases i with
              | text text tags => simp at hp
              | choice text target =>
                  obtain rfl : { s with offers := s.offersHere } = t := by simpa using h
                  exact ⟨_, hi, by simp⟩
              | assign name expression =>
                  cases he : s.evaluate expression with
                  | error f => simp [he] at h
                  | ok v =>
                      simp only [he] at h
                      exact settleFrom_stops hp h
              | divert target =>
                  by_cases hend : endsStory target = true
                  · -- the story is at its end, where running does nothing more
                    cases m with
                    | zero => simp [settleFrom] at h
                    | succ m =>
                        simp only [Cursor.ofTarget, hend, if_true] at h
                        rw [settleFrom_succ, Program.instructionAt_ended] at h
                        obtain rfl : { s with cursor := .ended } = t := by simpa using h
                        exact ⟨none, rfl, by simp⟩
                  · simp only [Cursor.ofTarget, hend] at h
                    exact settleFrom_stops (by simpa [hend] using hp) h

/-! ## What running leaves alone -/

/-- The program of a story and how often it was closed: what telling it does not change. -/
def fixed (s : Story) : Program × Nat := (s.program, s.closings)

theorem settleFrom_fixed : ∀ (n : Nat) (s : Story), ((settleFrom n).on s).2.fixed = s.fixed
  | 0, _ => rfl
  | n + 1, s => by
      rw [settleFrom_succ]
      cases s.program.instructionAt s.cursor with
      | error f => rfl
      | ok i =>
          cases i with
          | none => rfl
          | some i =>
              cases i with
              | text _ _ => rfl
              | choice _ _ => rfl
              | divert target => exact settleFrom_fixed n _
              | assign name expression =>
                  cases he : s.evaluate expression with
                  | error f => simp only [he]
                  | ok v =>
                      simp only [he]
                      exact settleFrom_fixed n _

theorem settle_fixed (s : Story) : (settle.on s).2.fixed = s.fixed := by
  rw [settle_on, settleFrom_fixed]
  rfl

/-! ## Lines -/

theorem requireOpen_on (s : Story) :
    requireOpen.on s = if s.closed then (.error .closedStory, s) else (.ok (), s) := by
  rw [requireOpen, Act.on_bind, Act.on_get]
  cases h : s.closed <;> simp [h]

theorem requireOpen_ok {s : Story} (ho : s.closed = false) : requireOpen.on s = (.ok (), s) := by
  rw [requireOpen_on, ho]
  rfl

theorem canContinue_on {s : Story} (ho : s.closed = false) : canContinue.on s = (s.peek, s) := by
  rw [canContinue, Act.on_bind_of_ok (requireOpen_ok ho), Act.on_bind, Act.on_get]
  exact Act.on_ofExcept _ _

theorem canContinue_closed {s : Story} (hc : s.closed = true) :
    canContinue.on s = (.error .closedStory, s) := by
  have hopen : requireOpen.on s = (.error .closedStory, s) := by
    rw [requireOpen_on, hc]
    rfl
  exact Act.on_bind_of_error hopen

/-- Only an open story says whether it goes on. -/
theorem canContinue_ok {s : Story} {more : Bool} (h : (canContinue.on s).1 = .ok more) :
    s.closed = false ∧ s.peek = .ok more := by
  cases hc : s.closed with
  | true =>
      rw [canContinue_closed hc] at h
      cases h
  | false =>
      rw [canContinue_on hc] at h
      exact ⟨rfl, h⟩

/-- The end of a line after which the story stops: the logic there runs, and the choices
are on offer. -/
def atStop (text : String) (tags : List Json) (s : Story) : Except Fault Continuation × Story :=
  match settle.on s with
  | (.error f, t) => (.error f, t)
  | (.ok _, t) =>
    match t.choices with
    | .error f => (.error f, t)
    | .ok choices => (.ok { text := .str text, canContinue := false, choices, tags }, t)

/-- A line at the place where a story rests. -/
def lineHere (s : Story) : Except Fault Continuation × Story :=
  match s.lineAt with
  | .error f => (.error f, s)
  | .ok none =>
    match s.choices with
    | .error f => (.error f, s)
    | .ok choices => (.ok { text := .str "", canContinue := false, choices }, s)
  | .ok (some (text, tags)) =>
    let after := { s with cursor := s.cursor.next }
    match after.peek with
    | .error f => (.error f, after)
    | .ok true =>
      (.ok { text := .str (text ++ "\n"), canContinue := true, tags := tags.map .str }, after)
    | .ok false => atStop (text ++ "\n") (tags.map .str) after

theorem continueLine_on {s : Story} (ho : s.closed = false) :
    continueLine.on s =
      match settle.on s with
      | (.error f, t) => (.error f, t)
      | (.ok _, t) => t.lineHere := by
  rw [continueLine, Act.on_bind, requireOpen_on, ho]
  simp only [Bool.false_eq_true, if_false]
  rw [Act.on_bind]
  generalize settle.on s = run
  obtain ⟨r, t⟩ := run
  cases r with
  | error f => rfl
  | ok _ =>
      simp only [Act.on_bind, Act.on_get, Act.on_ofExcept, lineHere]
      cases t.lineAt with
      | error f => rfl
      | ok line =>
          cases line with
          | none =>
              simp only [Act.on_bind, Act.on_ofExcept]
              cases t.choices <;> rfl
          | some line =>
              simp only [Act.on_bind, Act.on_get, Act.on_set, Act.on_ofExcept, atStop]
              generalize { t with cursor := t.cursor.next } = u
              cases u.peek with
              | error f => rfl
              | ok more =>
                  cases more with
                  | true => rfl
                  | false =>
                      simp only [Bool.not_false, if_true, Bool.false_eq_true, if_false, Act.on_bind]
                      generalize settle.on u = run
                      obtain ⟨r, v⟩ := run
                      cases r with
                      | error f => rfl
                      | ok _ =>
                          simp only [Act.on_get, Act.on_ofExcept]
                          cases v.choices <;> rfl

/-- What is known of a line that was told. -/
structure Told (c : Continuation) (t : Story) : Prop where
  text : ∃ line, c.text = .str line
  /-- Looking ahead after it says what it says. -/
  peek : t.peek = .ok c.canContinue
  /-- If the story stops, its choices are those of the line. -/
  choices : c.canContinue = false → t.choices = .ok c.choices
  /-- If the story goes on, the line has no choices. -/
  going : c.canContinue = true → c.choices = []

theorem atStop_told {text : String} {tags : List Json} {s t : Story} {c : Continuation}
    (hp : s.peek = .ok false) (h : atStop text tags s = (.ok c, t)) : Told c t := by
  rw [atStop, settle_on] at h
  cases hs : (settleFrom instructionLimit).on { s with offers := [] } with
  | mk r u =>
      rw [hs] at h
      cases r with
      | error f => simp at h
      | ok _ =>
          have hlook : s.program.peekFrom instructionLimit s.cursor = .ok false := hp
          have hstop : u.Stops := settleFrom_stops (s := { s with offers := [] }) hlook hs
          cases hc : u.choices with
          | error f => simp [hc] at h
          | ok choices =>
              simp only [hc, Prod.mk.injEq, Except.ok.injEq] at h
              obtain ⟨rfl, rfl⟩ := h
              exact ⟨⟨text, rfl⟩, hstop.peek, fun _ => hc, by simp⟩

theorem Rests.stops {s : Story} (h : s.Rests) (hl : s.lineAt = .ok none) : s.Stops := by
  obtain ⟨i, hi, hj⟩ := h
  refine ⟨i, hi, fun j hij => ?_⟩
  rcases hj j hij with ⟨text, tags, rfl⟩ | hc
  · rw [lineAt, hi, hij] at hl
    simp [bind, Except.bind, pure, Except.pure] at hl
  · exact hc

theorem lineHere_told {s t : Story} {c : Continuation} (hr : s.Rests)
    (h : s.lineHere = (.ok c, t)) : Told c t := by
  rw [lineHere] at h
  cases hl : s.lineAt with
  | error f => simp [hl] at h
  | ok line =>
      rw [hl] at h
      cases line with
      | none =>
          cases hc : s.choices with
          | error f => simp [hc] at h
          | ok choices =>
              simp only [hc, Prod.mk.injEq, Except.ok.injEq] at h
              obtain ⟨rfl, rfl⟩ := h
              exact ⟨⟨"", rfl⟩, (hr.stops hl).peek, fun _ => hc, by simp⟩
      | some line =>
          obtain ⟨text, tags⟩ := line
          simp only at h
          cases hp : Story.peek { s with cursor := s.cursor.next } with
          | error f => simp [hp] at h
          | ok more =>
              rw [hp] at h
              cases more with
              | false => exact atStop_told hp h
              | true =>
                  simp only [Prod.mk.injEq, Except.ok.injEq] at h
                  obtain ⟨rfl, rfl⟩ := h
                  exact ⟨⟨_, rfl⟩, hp, by simp, fun _ => rfl⟩

/-- A line says whether the story can go on, and looking ahead after it says the same. -/
theorem continueLine_told {s t : Story} {c : Continuation} (h : continueLine.on s = (.ok c, t)) :
    Told c t := by
  cases ho : s.closed with
  | true =>
      rw [continueLine, Act.on_bind, requireOpen_on, ho] at h
      simp at h
  | false =>
      rw [continueLine_on ho] at h
      cases hs : settle.on s with
      | mk r u =>
          rw [hs] at h
          cases r with
          | error f => simp at h
          | ok _ =>
              rw [settle_on] at hs
              exact lineHere_told (settleFrom_rests hs) h

theorem continueLine_fixed (s : Story) : (continueLine.on s).2.fixed = s.fixed := by
  cases ho : s.closed with
  | true =>
      rw [continueLine, Act.on_bind, requireOpen_on, ho]
      rfl
  | false =>
      rw [continueLine_on ho, ← settle_fixed s]
      generalize settle.on s = run
      obtain ⟨r, t⟩ := run
      cases r with
      | error f => rfl
      | ok _ =>
          simp only [lineHere]
          split
          · rfl
          · split <;> rfl
          · split
            · rfl
            · rfl
            · rename_i text tags _ _
              rw [atStop]
              have hfix := settle_fixed { t with cursor := t.cursor.next }
              generalize settle.on { t with cursor := t.cursor.next } = run at hfix
              obtain ⟨r, u⟩ := run
              cases r with
              | error f => exact hfix
              | ok _ =>
                  simp only
                  split <;> exact hfix

/-- A story stays open while it is told. -/
theorem closed_of_fixed {s t : Story} (h : t.fixed = s.fixed) : t.closed = s.closed := by
  have hc : t.closings = s.closings := congrArg Prod.snd h
  rw [closed, closed, hc]

end Story

end Ink

end StoryServer
