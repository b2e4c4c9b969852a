import StoryServer.Proofs.Ink.Path
import StoryServer.Proofs.Ink.Telling

/-!
# Walking through a story

`Story.Walk` is a route that is gone and not only looked at: every assignment on it is made.
Telling a story walks through it.  Running up to a text passes none (`settleFrom_walk`), and a
line that is told passes one (`continueLine_walk`).

*Continuing.*  What continuing a story answers are the texts on a walk from where it stood
(`continueWithin_walk`).  If there are any, the walk ends where the story halts, and what is on
offer there is what stands there.  If there are none, the story has not moved at all: the logic
before the next stop has only been looked at.
-/

namespace StoryServer

namespace Ink

namespace Story

/-- The story with nothing on offer. -/
def unoffered (s : Story) : Story := { s with offers := [] }

/-- Going from one place to another one, with every assignment on the way made. -/
inductive Walk : Story → List Spot → Story → Prop where
  | here {s : Story} : Walk s [] s
  | assign {s t : Story} {spots : List Spot} {name expression : String} {v : Json}
      (hi : s.program.instructionAt s.cursor = .ok (some (.assign name expression)))
      (hv : s.evaluate expression = .ok v)
      (h : Walk { s with bindings := s.bindings.put (.str name) v, cursor := s.cursor.next }
        spots t) : Walk s spots t
  | divert {s t : Story} {spots : List Spot} {target : String}
      (hi : s.program.instructionAt s.cursor = .ok (some (.divert target)))
      (h : Walk { s with cursor := .ofTarget target } spots t) : Walk s spots t
  | text {s t : Story} {spots : List Spot} {text : String} {tags : List String}
      (hi : s.program.instructionAt s.cursor = .ok (some (.text text tags)))
      (h : Walk { s with cursor := s.cursor.next } spots t) :
      Walk s (s.program.spotAt s.cursor text tags :: spots) t

/-- The choices that stand where a story is. -/
def block (s : Story) : List Offer :=
  match s.program.instructionAt s.cursor with
  | .ok (some (.choice ..)) => s.offersHere
  | _ => []

variable {s t u : Story} {xs ys : List Spot}

namespace Walk

theorem trans (h : Walk s xs t) (h' : Walk t ys u) : Walk s (xs ++ ys) u := by
  induction h with
  | here => exact h'
  | assign hi hv _ ih => exact .assign hi hv (ih h')
  | divert hi _ ih => exact .divert hi (ih h')
  | text hi _ ih => exact .text hi (ih h')

theorem fixed (h : Walk s xs t) : t.fixed = s.fixed := by
  induction h with
  | here => rfl
  | assign _ _ _ ih => exact ih
  | divert _ _ ih => exact ih
  | text _ _ ih => exact ih

theorem program (h : Walk s xs t) : t.program = s.program := congrArg Prod.fst h.fixed

/-- A walk follows a route of the program. -/
theorem route (h : Walk s xs t) : s.program.Route s.cursor xs t.cursor := by
  induction h with
  | here => exact .here
  | assign hi _ _ ih => exact .assign hi ih
  | divert hi _ ih => exact .divert hi ih
  | text hi _ ih => exact .text hi ih

end Walk

/-! ## Running up to a text -/

/-- Running up to a text walks there.  What is on offer after it is what stands there, where
nothing was on offer before. -/
theorem settleFrom_walk : ∀ {n : Nat} {s t : Story}, (settleFrom n).on s = (.ok (), t) →
    Walk s [] { t with offers := s.offers } ∧ (s.offers = [] → t.offers = t.block)
  | 0, s, t, h => by simp [settleFrom] at h
  | n + 1, s, t, h => by
      rw [settleFrom_succ] at h
      cases hi : s.program.instructionAt s.cursor with
      | error f => rw [hi] at h; simp at h
      | ok i =>
          rw [hi] at h
          cases i with
          | none =>
              obtain rfl : s = t := by simpa using h
              exact ⟨.here, fun ho => by rw [block, hi, ho]⟩
          | some i =>
              cases i with
              | text text tags =>
                  obtain rfl : s = t := by simpa using h
                  exact ⟨.here, fun ho => by rw [block, hi, ho]⟩
              | choice text target =>
                  obtain rfl : { s with offers := s.offersHere } = t := by simpa using h
                  exact ⟨.here, fun _ => by rw [block, hi]; rfl⟩
              | divert target =>
                  obtain ⟨hwalk, hoffers⟩ := settleFrom_walk h
                  exact ⟨.divert hi hwalk, hoffers⟩
              | assign name expression =>
                  cases hv : s.evaluate expression with
                  | error f => simp [hv] at h
                  | ok v =>
                      simp only [hv] at h
                      obtain ⟨hwalk, hoffers⟩ := settleFrom_walk h
                      exact ⟨.assign hi hv hwalk, hoffers⟩

theorem settle_walk (h : settle.on s = (.ok (), t)) :
    Walk s.unoffered [] t.unoffered ∧ t.offers = t.block := by
  rw [settle_on] at h
  obtain ⟨hwalk, hoffers⟩ := settleFrom_walk h
  exact ⟨hwalk, hoffers rfl⟩

/-! ## Lines -/

theorem instructionAt_of_lineAt {text : String} {tags : List String}
    (h : s.lineAt = .ok (some (text, tags))) :
    s.program.instructionAt s.cursor = .ok (some (.text text tags)) := by
  rw [lineAt] at h
  obtain ⟨i, hi, h⟩ := bind_eq_ok.mp h
  rw [hi]
  split at h
  · obtain ⟨rfl, rfl⟩ := Prod.mk.inj (Option.some.inj (Except.ok.inj h))
    rfl
  · cases Except.ok.inj h

/-- Where looking ahead finds a text, the story does not come to a stop first. -/
theorem Walk.not_stops (hp : s.peek = .ok true) (h : Walk s.unoffered [] t.unoffered) : ¬ t.Stops := by
  intro hstops
  obtain ⟨spot, d, hroute⟩ := Program.route_of_peekFrom_true hp
  have hhalts : s.program.Halts t.cursor := h.program ▸ hstops
  obtain ⟨zs, hnil, -⟩ := hroute.rest h.route hhalts
  cases hnil

/-- The end of a last line: the story walks on to where it halts. -/
theorem atStop_walk {text : String} {tags : List Json} {c : Continuation} (hp : s.peek = .ok false)
    (h : atStop text tags s = (.ok c, t)) :
    Walk s.unoffered [] t.unoffered ∧ t.Stops ∧ t.offers = t.block ∧ c.text = .str text ∧
      c.tags = tags := by
  rw [atStop] at h
  cases hs : settle.on s with
  | mk r u =>
  rw [hs] at h
  cases r with
  | error f => cases h
  | ok _ =>
      dsimp only at h
      obtain ⟨hwalk, hoffers⟩ := settle_walk hs
      rw [settle_on] at hs
      have hstops : u.Stops := settleFrom_stops (s := s.unoffered) hp hs
      cases hchoices : u.choices with
      | error f => rw [hchoices] at h; cases h
      | ok choices =>
          rw [hchoices] at h
          obtain ⟨hc, rfl⟩ := Prod.mk.inj h
          obtain rfl := Except.ok.inj hc
          exact ⟨hwalk, hstops, hoffers, rfl, rfl⟩

/-- **A line is the next text on the way**, and after the last one the story walks on to where
it halts. -/
theorem continueLine_walk {c : Continuation} (hp : s.peek = .ok true)
    (h : continueLine.on s = (.ok c, t)) :
    ∃ spot, Walk s.unoffered [spot] t.unoffered ∧ c.text = .str spot.line ∧
      c.tags = spot.tagged ∧ (c.canContinue = false → t.Stops ∧ t.offers = t.block) := by
  cases ho : s.closed with
  | true =>
      rw [continueLine, Act.on_bind, requireOpen_on, ho] at h
      cases h
  | false =>
  rw [continueLine_on ho] at h
  cases hs : settle.on s with
  | mk r u =>
  rw [hs] at h
  cases r with
  | error f => cases h
  | ok _ =>
      obtain ⟨hbefore, -⟩ := settle_walk hs
      rw [settle_on] at hs
      have hrests := settleFrom_rests hs
      dsimp only at h
      rw [lineHere] at h
      cases hl : u.lineAt with
      | error f => rw [hl] at h; cases h
      | ok line =>
          cases line with
          | none => exact absurd (hrests.stops hl) (hbefore.not_stops hp)
          | some line =>
              obtain ⟨text, tags⟩ := line
              have hi := instructionAt_of_lineAt hl
              rw [hl] at h
              dsimp only at h
              have hline : Walk s.unoffered [u.program.spotAt u.cursor text tags]
                  { u with cursor := u.cursor.next }.unoffered :=
                hbefore.trans (.text hi .here)
              generalize { u with cursor := u.cursor.next } = after at h hline
              refine ⟨u.program.spotAt u.cursor text tags, ?_⟩
              cases hpeek : after.peek with
              | error f => rw [hpeek] at h; cases h
              | ok more =>
                  rw [hpeek] at h
                  cases more with
                  | true =>
                      obtain ⟨hc, rfl⟩ := Prod.mk.inj h
                      obtain rfl := Except.ok.inj hc
                      refine ⟨hline, rfl, rfl, fun h => ?_⟩
                      cases h
                  | false =>
                      obtain ⟨hafter, hstops, hoffers, htext, htags⟩ := atStop_walk hpeek h
                      exact ⟨hline.trans hafter, htext, htags, fun _ => ⟨hstops, hoffers⟩⟩

/-! ## Continuing -/

/-- The texts that a story has told, from where it stood to where it halts. -/
structure Telling (s : Story) (spots : List Spot) (c : Continuation) (t : Story) : Prop where
  walk : Walk s.unoffered spots t.unoffered
  stops : t.Stops
  /-- What is on offer is what stands there. -/
  offers : t.offers = t.block
  text : c.text = .str (String.join (spots.map Spot.line))
  tags : c.tags = spots.flatMap Spot.tagged
  choices : t.choices = .ok c.choices

theorem Telling.halts {c : Continuation} (h : Telling s xs c t) : s.program.Halts t.cursor := by
  have hprogram : t.program = s.program := h.walk.program
  exact hprogram ▸ h.stops

/-- A tale that comes to a stop. -/
theorem Tale.walk {lines : List Continuation} {e : Option Fault} (h : Tale s lines e t)
    (he : e = none) : ∃ spots, spots ≠ [] ∧ Walk s.unoffered spots t.unoffered ∧ t.Stops ∧
      t.offers = t.block ∧ lines.map lineText = spots.map Spot.line ∧
      lines.flatMap (·.tags) = spots.flatMap Spot.tagged := by
  induction h with
  | @last s t c hp hl hc =>
      obtain ⟨spot, hwalk, htext, htags, hend⟩ := continueLine_walk hp hl
      obtain ⟨hstops, hoffers⟩ := hend hc
      refine ⟨[spot], List.cons_ne_nil _ _, hwalk, hstops, hoffers, ?_, ?_⟩
      · simp [lineText, htext]
      · simp [htags]
  | fault => cases he
  | @more s t u c lines e hp hl hc h ih =>
      obtain ⟨spot, hwalk, htext, htags, -⟩ := continueLine_walk hp hl
      obtain ⟨spots, -, hrest, hstops, hoffers, htexts, halltags⟩ := ih he
      refine ⟨spot :: spots, List.cons_ne_nil _ _, hwalk.trans hrest, hstops, hoffers, ?_, ?_⟩
      · simp [lineText, htext, htexts]
      · simp [htags, halltags]

theorem answer_text (lines : List Continuation) (choices : List Choice) :
    (answer "" [] lines choices).text = .str (String.join (lines.map lineText)) := by
  rw [answer, String.join, List.foldl_map]

/-- **What continuing a story answers**, with however many lines allowed: what stands on the way
to where the story halts, or nothing, and then the story has not moved. -/
theorem continueWithin_walk {n : Nat} {c : Continuation}
    (h : (continueWithin n).on s = (.ok c, t)) :
    c.canContinue = false ∧
      ((∃ spots, spots ≠ [] ∧ Telling s spots c t) ∨
        s.peek = .ok false ∧ t = s ∧ s.choices = .ok c.choices ∧ c.text = .str "" ∧ c.tags = []) := by
  have hrun := h
  rw [continueWithin_on] at hrun
  cases ho : s.closed with
  | true => rw [ho] at hrun; cases hrun
  | false =>
  rw [ho] at hrun
  cases hchoices : s.choices with
  | error f => rw [hchoices] at hrun; cases hrun
  | ok choices =>
  rw [hchoices] at hrun
  cases n with
  | zero => cases hrun
  | succ n =>
  have hrun : (continueFrom (n + 1) "" [] false).on s = (.ok c, t) := hrun
  rw [continueFrom_on] at hrun
  cases hp : s.peek with
  | error f => rw [hp] at hrun; cases hrun
  | ok more =>
      cases more with
      | false =>
          rw [hp, hchoices] at hrun
          obtain ⟨hc, rfl⟩ := Prod.mk.inj hrun
          obtain rfl := Except.ok.inj hc
          exact ⟨rfl, .inr ⟨rfl, rfl, rfl, rfl, rfl⟩⟩
      | true =>
          obtain ⟨lines, e, htale, hanswer⟩ := continueWithin_tale ho hp hchoices h (fun h => nomatch h)
          cases e with
          | some f => cases hanswer
          | none =>
              obtain ⟨listed, hlisted, hanswer⟩ := hanswer
              obtain rfl := Except.ok.inj hanswer
              obtain ⟨spots, hne, hwalk, hstops, hoffers, htexts, htags⟩ := htale.walk rfl
              refine ⟨rfl, .inl ⟨spots, hne, hwalk, hstops, hoffers, ?_, htags, hlisted⟩⟩
              rw [answer_text, htexts]

end Story

end Ink

end StoryServer
