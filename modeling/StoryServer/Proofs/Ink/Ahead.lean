import StoryServer.Proofs.Ink.Operation
import StoryServer.Proofs.Ink.Settled

/-!
# Looking ahead and running

Looking ahead follows the instructions up to the next text and runs none; telling a line runs
them.  Both allow as many instructions without a text, so they go the same way, and what looking
ahead finds is what the line tells (`line_foretold`).

*Whole programs.*  In a program that was read without errors every target exists
(`Program.whole_of_parse`), and is a place in the program (`Program.Place`).  A restored place may
also be counted from the end of its knot; what matters is that there is an instruction or an end
(`Program.Firm`), and from such a place a way leads to such places only (`Route.firm`).

*Failing.*  From a firm place a story stalls only at an assignment that cannot be evaluated, or
because too many instructions come without a text (`Stalls`), and that is also how looking ahead
fails.  Where a text is ahead, not too many come before it, so a line fails at an assignment before
the text or because the story stalls after it (`continueLine_fault`).
-/

namespace StoryServer

namespace Ink

/-! ## Whole programs -/

namespace Program

variable {p : Program} {c d e : Cursor} {i : Instruction} {target : String} {spots : List Spot}

/-- Every target in the program exists. -/
def Whole (p : Program) : Prop :=
  ∀ knot body, p.body? knot = some body → ∀ i ∈ body, ∀ target,
    Instruction.target? i = some target → p.hasTarget target = true

/-- A program that was read without errors is whole. -/
theorem whole_of_parse {source : String} (h : parse source = .ok p) (he : p.errors = []) :
    p.Whole := by
  rw [parse] at h
  obtain ⟨draft, -, h⟩ := bind_eq_ok.mp h
  obtain rfl := Except.ok.inj h
  obtain ⟨-, hnames⟩ := List.append_eq_nil_iff.mp he
  have hmissing : draft.program.missingTargets = [] := List.map_eq_nil_iff.mp hnames
  intro knot body hbody i hi target htarget
  have hmem : target ∈ draft.program.knots.flatMap fun k => k.2.filterMap Instruction.target? :=
    List.mem_flatMap.mpr ⟨_, mem_of_lookup hbody, List.mem_filterMap.mpr ⟨i, hi, htarget⟩⟩
  have hexists : draft.program.hasTarget target = true := by
    simpa using List.filter_eq_nil_iff.mp hmissing target hmem
  exact hexists

/-- The target of an instruction that a story comes to exists. -/
theorem Whole.hasTarget (h : p.Whole) (hs : c.Sound) (hi : p.instructionAt c = .ok (some i))
    (ht : Instruction.target? i = some target) : p.hasTarget target = true := by
  obtain ⟨body, hbody, hat⟩ := getElem?_placeOf hs hi
  exact h _ _ hbody i (List.mem_of_getElem? hat) target ht

/-! ## Places -/

/-- A place in a program: an end, or an index of a knot up to its end. -/
inductive Place (p : Program) : Cursor → Prop where
  | ended : Place p .ended
  | inside {knot : String} {body : List Instruction} {index : Nat} (hbody : p.body? knot = some body)
      (hindex : index ≤ body.length) : Place p (.at knot index)

/-- A place where there is an instruction or an end, also one counted from the end of its knot. -/
structure Firm (p : Program) (c : Cursor) : Prop where
  sound : c.Sound
  found : ∃ i, p.instructionAt c = .ok i

theorem instructionAt_at {knot : String} {body : List Instruction} (h : p.body? knot = some body)
    (index : Int) : p.instructionAt (.at knot index) = instructionIn body index := by
  rw [instructionAt, bodyAtCell, h]
  rfl

theorem Place.firm (h : p.Place c) : p.Firm c := by
  cases h with
  | ended => exact ⟨trivial, none, rfl⟩
  | @inside knot body index hbody hindex =>
      exact ⟨trivial, _, (instructionAt_at hbody index).trans (instructionIn_natCast body index)⟩

theorem place_start {knot : String} {body : List Instruction} (h : p.body? knot = some body) :
    p.Place (.at knot 0) := @Place.inside p knot body 0 h (Nat.zero_le _)

theorem place_ofTarget (h : p.hasTarget target = true) : p.Place (.ofTarget target) := by
  rw [Cursor.ofTarget]
  by_cases hend : endsStory target = true
  · rw [if_pos hend]
    exact .ended
  · rw [if_neg hend]
    rw [hasTarget, Bool.or_eq_true, or_iff_right hend] at h
    obtain ⟨body, hbody⟩ := Option.isSome_iff_exists.mp h
    exact place_start hbody

theorem Place.next (h : p.Place c) (hi : p.instructionAt c = .ok (some i)) : p.Place c.next := by
  cases h with
  | ended => cases hi
  | @inside knot body index hbody hindex =>
      rw [instructionAt_at hbody, instructionIn_natCast] at hi
      obtain ⟨hlt, -⟩ := List.getElem?_eq_some_iff.mp (Except.ok.inj hi)
      exact @Place.inside p knot body (index + 1) hbody hlt

/-- The index after one that counts from the beginning, or from the end, of a list. -/
theorem instructionIn_next {body : List Instruction} {index : Int}
    (h : instructionIn body index = .ok (some i)) : ∃ j, instructionIn body (index + 1) = .ok j := by
  have hfrom : 0 ≤ index + body.length := by
    by_contra hlt
    have hbefore : ¬ (body.length : Int) ≤ index := by omega
    have hnegative : index < 0 := by omega
    have hoff : index + (body.length : Int) < 0 := by omega
    simp only [instructionIn, if_neg hbefore, if_pos hnegative, if_pos hoff] at h
    cases h
  rw [instructionIn]
  by_cases hend : (body.length : Int) ≤ index + 1
  · exact ⟨none, if_pos hend⟩
  · have hnext : ¬ (if index + 1 < 0 then index + 1 + (body.length : Int) else index + 1) < 0 := by
      split <;> omega
    exact ⟨_, (if_neg hend).trans (if_neg hnext)⟩

theorem firm_next (hs : c.Sound) (hi : p.instructionAt c = .ok (some i)) : p.Firm c.next := by
  refine ⟨hs.next, ?_⟩
  obtain ⟨knot, body, hbody, ⟨index, rfl, hin⟩ | ⟨b, rfl, hin⟩⟩ := cursor_of_instructionAt hs hi
  · obtain ⟨j, hj⟩ := instructionIn_next hin
    exact ⟨j, (instructionAt_at hbody _).trans hj⟩
  · obtain ⟨j, hj⟩ := instructionIn_next hin
    refine ⟨j, ?_⟩
    cases b with
    | true => exact (instructionAt_at hbody 2).trans hj
    | false => exact (instructionAt_at hbody 1).trans hj

theorem Route.firm (hw : p.Whole) (h : p.Route c spots d) (hc : p.Firm c) : p.Firm d := by
  induction h with
  | here => exact hc
  | assign hi _ ih => exact ih (firm_next hc.sound hi)
  | divert hi _ ih => exact ih ((place_ofTarget (hw.hasTarget hc.sound hi rfl)).firm)
  | text hi _ ih => exact ih (firm_next hc.sound hi)

/-- The first text on a route is the one ahead. -/
theorem Route.first {spot : Spot} {text : String} {tags : List String} (h : p.Route c [] d)
    (hi : p.instructionAt d = .ok (some (.text text tags))) (h' : p.Route c (spot :: spots) e) :
    spot = p.spotAt d text tags := by
  generalize hnone : ([] : List Spot) = none at h
  induction h with
  | here =>
      cases h' with
      | assign hi' _ => cases hi.symm.trans hi'
      | divert hi' _ => cases hi.symm.trans hi'
      | text hi' _ =>
          cases hi.symm.trans hi'
          rfl
  | assign hj _ ih =>
      cases h' with
      | assign _ h' => exact ih hi h' hnone
      | divert hi' _ => cases hj.symm.trans hi'
      | text hi' _ => cases hj.symm.trans hi'
  | divert hj _ ih =>
      cases h' with
      | assign hi' _ => cases hj.symm.trans hi'
      | divert hi' h' =>
          cases hj.symm.trans hi'
          exact ih hi h' hnone
      | text hi' _ => cases hj.symm.trans hi'
  | text => cases hnone

/-! ## Instructions without a text -/

/-- So many instructions in a row lead from a place to another one, and none of them is a text or
a choice. -/
inductive Silent (p : Program) : Nat → Cursor → Cursor → Prop where
  | here {c : Cursor} : Silent p 0 c c
  | assign {n : Nat} {c d : Cursor} {name expression : String}
      (hi : p.instructionAt c = .ok (some (.assign name expression))) (h : Silent p n c.next d) :
      Silent p (n + 1) c d
  | divert {n : Nat} {c d : Cursor} {target : String}
      (hi : p.instructionAt c = .ok (some (.divert target))) (h : Silent p n (.ofTarget target) d) :
      Silent p (n + 1) c d

/-- No text is found among them. -/
theorem Silent.not_ahead {n : Nat} (h : p.Silent n c d) : p.peekFrom n c ≠ .ok true := by
  induction h with
  | here => exact nofun
  | assign hi _ ih =>
      rw [peekFrom_succ, hi]
      exact ih
  | @divert n c d target hi _ ih =>
      rw [peekFrom_succ, hi]
      dsimp only
      by_cases hend : endsStory target = true
      · rw [if_pos hend]
        exact nofun
      · rw [if_neg hend]
        rwa [Cursor.ofTarget, if_neg hend] at ih

/-- In a whole program, looking ahead fails only among such instructions. -/
theorem peekFrom_fault {n : Nat} {f : Fault} (hw : p.Whole) (hc : p.Firm c)
    (h : p.peekFrom n c = .error f) : f = .divertLoop ∧ ∃ d, p.Silent n c d := by
  induction n generalizing c with
  | zero => exact ⟨(Except.error.inj h).symm, c, .here⟩
  | succ n ih =>
      obtain ⟨i, hi⟩ := hc.found
      rw [peekFrom_succ, hi] at h
      cases i with
      | none => cases h
      | some i =>
          cases i with
          | text text tags => cases h
          | choice text target => cases h
          | assign name expression =>
              obtain ⟨rfl, d, hsilent⟩ := ih (firm_next hc.sound hi) h
              exact ⟨rfl, d, .assign hi hsilent⟩
          | divert target =>
              have hfirm := (place_ofTarget (hw.hasTarget hc.sound hi rfl)).firm
              dsimp only at h
              by_cases hend : endsStory target = true
              · rw [if_pos hend] at h
                cases h
              · rw [if_neg hend] at h
                rw [Cursor.ofTarget, if_neg hend] at hfirm
                obtain ⟨rfl, d, hsilent⟩ := ih hfirm h
                refine ⟨rfl, d, .divert hi ?_⟩
                rwa [Cursor.ofTarget, if_neg hend]

end Program

namespace Story

variable {s t : Story} {f : Fault}

/-! ## Running that fails -/

/-- An assignment stands here that cannot be evaluated. -/
def Unvalued (s : Story) (f : Fault) : Prop :=
  ∃ name expression, s.program.instructionAt s.cursor = .ok (some (.assign name expression)) ∧
    s.evaluate expression = .error f

/-- How a story fails to go on: at an assignment that cannot be evaluated, or because too many
instructions come without a text. -/
inductive Stalls (s : Story) : Fault → Story → Prop where
  | unvalued {f : Fault} {t : Story} (hwalk : Walk s.unoffered [] t) (h : t.Unvalued f) : Stalls s f t
  | looping {t : Story} {e : Cursor} (h : s.program.Silent instructionLimit s.cursor e) :
      Stalls s .divertLoop t

theorem peek_fault (hw : s.program.Whole) (hc : s.program.Firm s.cursor) (h : s.peek = .error f)
    (t : Story) : Stalls s f t := by
  obtain ⟨rfl, e, hsilent⟩ := Program.peekFrom_fault hw hc h
  exact .looping hsilent

theorem settleFrom_fault {n : Nat} (hw : s.program.Whole) (hc : s.program.Firm s.cursor)
    (h : (settleFrom n).on s = (.error f, t)) :
    Walk s [] t ∧ (t.Unvalued f ∨ f = .divertLoop ∧ s.program.Silent n s.cursor t.cursor) := by
  induction n generalizing s with
  | zero =>
      obtain ⟨hf, rfl⟩ := Prod.mk.inj h
      exact ⟨.here, .inr ⟨(Except.error.inj hf).symm, .here⟩⟩
  | succ n ih =>
      obtain ⟨i, hi⟩ := hc.found
      rw [settleFrom_succ, hi] at h
      cases i with
      | none => cases h
      | some i =>
          cases i with
          | text text tags => cases h
          | choice text target => cases h
          | assign name expression =>
              dsimp only at h
              cases hv : s.evaluate expression with
              | error g =>
                  rw [hv] at h
                  obtain ⟨hf, rfl⟩ := Prod.mk.inj h
                  obtain rfl := Except.error.inj hf
                  exact ⟨.here, .inl ⟨name, expression, hi, hv⟩⟩
              | ok v =>
                  rw [hv] at h
                  have hassigned : s.program.Firm s.cursor.next := Program.firm_next hc.sound hi
                  obtain ⟨hwalk, hend⟩ := ih (s := { s with
                    bindings := s.bindings.put (.str name) v, cursor := s.cursor.next }) hw hassigned h
                  exact ⟨.assign hi hv hwalk, hend.imp_right (And.imp_right (.assign hi))⟩
          | divert target =>
              have hfirm := (Program.place_ofTarget (hw.hasTarget hc.sound hi rfl)).firm
              obtain ⟨hwalk, hend⟩ := ih (s := { s with cursor := .ofTarget target }) hw hfirm h
              exact ⟨.divert hi hwalk, hend.imp_right (And.imp_right (.divert hi))⟩

theorem settle_fault (hw : s.program.Whole) (hc : s.program.Firm s.cursor)
    (h : settle.on s = (.error f, t)) : Stalls s f t := by
  rw [settle_on] at h
  obtain ⟨hwalk, hvalue | ⟨rfl, hsilent⟩⟩ := settleFrom_fault (s := s.unoffered) hw hc h
  · exact .unvalued hwalk hvalue
  · exact .looping hsilent

/-! ## Lines that fail -/

/-- Choices that are pairs can be listed. -/
theorem choicesFrom_options {offers : List Offer}
    (h : ∀ o ∈ offers, ∃ text target, o = .option text target) (n : Nat) :
    ∃ choices, choicesFrom n offers = .ok choices := by
  induction offers generalizing n with
  | nil => exact ⟨[], rfl⟩
  | cons o rest ih =>
      obtain ⟨text, target, rfl⟩ := h o List.mem_cons_self
      obtain ⟨choices, hrest⟩ := ih (fun o ho => h o (List.mem_cons_of_mem _ ho)) (n + 1)
      refine ⟨{ index := n, text := .str text } :: choices, ?_⟩
      rw [choicesFrom, hrest]
      rfl

/-- After a last line nothing fails but going on. -/
theorem atStop_fault {text : String} {tags : List Json} (hw : s.program.Whole)
    (hc : s.program.Firm s.cursor) (h : atStop text tags s = (.error f, t)) : Stalls s f t := by
  rw [atStop] at h
  cases hs : settle.on s with
  | mk r u =>
  rw [hs] at h
  cases r with
  | error g =>
      obtain ⟨hf, rfl⟩ := Prod.mk.inj h
      obtain rfl := Except.error.inj hf
      exact settle_fault hw hc hs
  | ok _ =>
      obtain ⟨-, hoffers⟩ := settle_walk hs
      have hoptions : ∀ o ∈ u.offers, ∃ text target, o = .option text target := by
        rw [hoffers]
        exact fun o => option_of_mem_block
      obtain ⟨choices, hlisted⟩ := choicesFrom_options hoptions 0
      have hchoices : u.choices = .ok choices := hlisted
      dsimp only at h
      rw [hchoices] at h
      cases h

/-- A line at a text fails only after the text. -/
theorem lineHere_fault {text : String} {tags : List String} (hw : s.program.Whole)
    (hc : s.program.Firm s.cursor) (hl : s.lineAt = .ok (some (text, tags)))
    (h : s.lineHere = (.error f, t)) : Stalls { s with cursor := s.cursor.next } f t := by
  have hfirm : s.program.Firm s.cursor.next :=
    Program.firm_next hc.sound (instructionAt_of_lineAt hl)
  rw [lineHere, hl] at h
  dsimp only at h
  cases hpeek : Story.peek { s with cursor := s.cursor.next } with
  | error g =>
      rw [hpeek] at h
      obtain ⟨hf, rfl⟩ := Prod.mk.inj h
      obtain rfl := Except.error.inj hf
      exact peek_fault (s := { s with cursor := s.cursor.next }) hw hfirm hpeek _
  | ok more =>
      rw [hpeek] at h
      cases more with
      | true => cases h
      | false => exact atStop_fault (s := { s with cursor := s.cursor.next }) hw hfirm h

/-! ## Lines -/

/-- What telling a line comes to, where a text is ahead. -/
inductive Line (s : Story) (spot : Spot) : Except Fault Continuation × Story → Prop where
  /-- The text is told. -/
  | told {c : Continuation} {t : Story} (hwalk : Walk s.unoffered [spot] t.unoffered)
      (htext : c.text = .str spot.line) (htags : c.tags = spot.tagged) : Line s spot (.ok c, t)
  /-- An assignment before the text cannot be evaluated. -/
  | unvalued {f : Fault} {t : Story} (hwalk : Walk s.unoffered [] t) (h : t.Unvalued f) :
      Line s spot (.error f, t)
  /-- After the text the story does not go on. -/
  | stalled {f : Fault} {t u : Story} (hwalk : Walk s.unoffered [spot] u.unoffered)
      (h : Stalls u f t) : Line s spot (.error f, t)

theorem Rests.lineAt (h : s.Rests) : ∃ line, s.lineAt = .ok line := by
  obtain ⟨i, hi, -⟩ := h
  rw [Story.lineAt, hi]
  cases i with
  | none => exact ⟨none, rfl⟩
  | some i => cases i <;> exact ⟨_, rfl⟩

/-- A line that fails where a text is ahead fails before the text or after it. -/
theorem continueLine_fault (ho : s.closed = false) (hw : s.program.Whole)
    (hc : s.program.Firm s.cursor) (hp : s.peek = .ok true)
    (h : continueLine.on s = (.error f, t)) :
    (Walk s.unoffered [] t ∧ t.Unvalued f) ∨
      ∃ spot u, Walk s.unoffered [spot] u.unoffered ∧ Stalls u f t := by
  rw [continueLine_on ho] at h
  cases hs : settle.on s with
  | mk r u =>
  rw [hs] at h
  cases r with
  | error g =>
      obtain ⟨hf, rfl⟩ := Prod.mk.inj h
      obtain rfl := Except.error.inj hf
      cases settle_fault hw hc hs with
      | unvalued hwalk hvalue => exact .inl ⟨hwalk, hvalue⟩
      | looping hsilent => exact absurd hp hsilent.not_ahead
  | ok _ =>
      obtain ⟨hwalk, -⟩ := settle_walk hs
      rw [settle_on] at hs
      have hrests := settleFrom_rests hs
      obtain ⟨line, hline⟩ := hrests.lineAt
      cases line with
      | none => exact absurd (hrests.stops hline) (hwalk.not_stops hp)
      | some line =>
          have hprogram : u.program = s.program := hwalk.program
          have hfirm : u.program.Firm u.cursor := hprogram ▸ hwalk.route.firm hw hc
          have htold : Walk s.unoffered [u.program.spotAt u.cursor line.1 line.2]
              { u with cursor := u.cursor.next }.unoffered :=
            hwalk.trans (.text (instructionAt_of_lineAt hline) .here)
          exact .inr ⟨_, _, htold, lineHere_fault (hprogram ▸ hw) hfirm hline h⟩

theorem continueLine_line (ho : s.closed = false) (hw : s.program.Whole)
    (hc : s.program.Firm s.cursor) (hp : s.peek = .ok true) :
    ∃ d text tags, s.program.Route s.cursor [] d ∧
      s.program.instructionAt d = .ok (some (.text text tags)) ∧
      Line s (s.program.spotAt d text tags) (continueLine.on s) := by
  obtain ⟨d, hroute, text, tags, hi⟩ := Program.route_of_peekFrom hp
  refine ⟨d, text, tags, hroute, hi, ?_⟩
  -- any walk over one text is a walk over the text ahead
  have hfirst : ∀ {spot : Spot} {u : Story}, Walk s.unoffered [spot] u →
      spot = s.program.spotAt d text tags := fun hwalk => hroute.first hi hwalk.route
  cases hl : continueLine.on s with
  | mk r t =>
  cases r with
  | ok c =>
      obtain ⟨spot, hwalk, htext, htags, -⟩ := continueLine_walk hp hl
      obtain rfl := hfirst hwalk
      exact .told hwalk htext htags
  | error f =>
      obtain ⟨hwalk, hvalue⟩ | ⟨spot, u, hwalk, hstalls⟩ := continueLine_fault ho hw hc hp hl
      · exact .unvalued hwalk hvalue
      · obtain rfl := hfirst hwalk
        exact .stalled hwalk hstalls

/-- Where no text is ahead, a line that is told is empty. -/
theorem continueLine_empty {c : Continuation} (ho : s.closed = false) (hp : s.peek = .ok false)
    (h : continueLine.on s = (.ok c, t)) : c.text = .str "" ∧ c.canContinue = false := by
  rw [continueLine_on ho] at h
  cases hs : settle.on s with
  | mk r u =>
  rw [hs] at h
  cases r with
  | error f => cases h
  | ok _ =>
      rw [settle_on] at hs
      obtain ⟨i, hi, hchoice⟩ := settleFrom_stops (s := s.unoffered) hp hs
      have hline : u.lineAt = .ok none := by
        rw [Story.lineAt, hi]
        cases i with
        | none => rfl
        | some i =>
            obtain ⟨text, target, rfl⟩ := hchoice i rfl
            rfl
      dsimp only at h
      rw [lineHere, hline] at h
      dsimp only at h
      cases hchoices : u.choices with
      | error f => rw [hchoices] at h; cases h
      | ok choices =>
          rw [hchoices] at h
          obtain rfl := Except.ok.inj (Prod.mk.inj h).1
          exact ⟨rfl, rfl⟩

/-! ## Looking ahead before and after a line -/

theorem open_of_continueLine {c : Continuation} (h : continueLine.on s = (.ok c, t)) :
    s.closed = false := by
  cases ho : s.closed with
  | true =>
      rw [continueLine, Act.on_bind, requireOpen_on, ho] at h
      cases h
  | false => rfl

theorem found_of_peek {more : Bool} (h : s.peek = .ok more) :
    ∃ i, s.program.instructionAt s.cursor = .ok i := by
  rw [peek, instructionLimit, Program.peekFrom_succ] at h
  cases hi : s.program.instructionAt s.cursor with
  | error f => rw [hi] at h; cases h
  | ok i => exact ⟨i, rfl⟩

/-- **What looking ahead finds is what the next line tells.**  In a story of a source without
errors, after any operations:  where a text is ahead, the next line tells the first one on the way,
or it fails at an assignment, or because the story does not go on after the text.  Where none is
ahead, the next line has no text and cannot go on.  And after any line, looking ahead finds what the
line said, and the line has choices only where the story stops. -/
theorem line_foretold {source : String} {p : Program} (hparse : Program.parse source = .ok p)
    (herrors : p.errors = []) (operations : List Operation) :
    let s := (start p).after operations
    ((canContinue.on s).1 = .ok true → ∃ d text tags, p.Route s.cursor [] d ∧
      p.instructionAt d = .ok (some (.text text tags)) ∧
      Line s (p.spotAt d text tags) (continueLine.on s)) ∧
    ((canContinue.on s).1 = .ok false → ∀ c t, continueLine.on s = (.ok c, t) →
      c.text = .str "" ∧ c.canContinue = false) ∧
    ∀ c t, continueLine.on s = (.ok c, t) →
      (canContinue.on t).1 = .ok c.canContinue ∧ (c.canContinue = true → c.choices = []) := by
  intro s
  have hprogram : s.program = p := program_after p operations
  have hsound : s.Sound := sound_after hparse operations
  refine ⟨fun hcan => ?_, fun hcan c t hline => ?_, fun c t hline => ?_⟩
  · obtain ⟨hopen, hpeek⟩ := canContinue_ok hcan
    have hwhole : s.program.Whole := hprogram ▸ Program.whole_of_parse hparse herrors
    have hfirm : s.program.Firm s.cursor := ⟨hsound.cursor, found_of_peek hpeek⟩
    exact hprogram ▸ continueLine_line hopen hwhole hfirm hpeek
  · obtain ⟨hopen, hpeek⟩ := canContinue_ok hcan
    exact continueLine_empty hopen hpeek hline
  · have htold := continueLine_told hline
    have hfixed : t.fixed = s.fixed := by
      rw [← continueLine_fixed s, hline]
    have hopen : t.closed = false := (closed_of_fixed hfixed).trans (open_of_continueLine hline)
    rw [canContinue_on hopen]
    exact ⟨htold.peek, htold.going⟩

/-- A story that a knot leads on, and in which the logic after the last text fails. -/
theorem line_foretold_unvalued :
    let source := "VAR x = 1\nA #t\n* [go] -> K\n=== K ===\n~ x = x + 1\nB #b\n~ y = z\n-> END"
    let p : Program :=
      ⟨[("", [.text "A" ["t"], .choice "go" "K"]),
        ("K", [.assign "x" "x + 1", .text "B" ["b"], .assign "y" "z", .divert "END"])],
        [(.str "x", .int 1)], [], []⟩
    let s := (start p).after [.continueStory, .choose 0]
    (Program.parse source = .ok p ∧ p.errors = [] ∧ (canContinue.on s).1 = .ok true ∧
      (continueLine.on s).1 = .error (.story (.notLiteral "z"))) ∧
    ∃ d text tags, p.Route (.at "K" 0) [] d ∧ p.instructionAt d = .ok (some (.text text tags)) ∧
      Line s (p.spotAt d text tags) (continueLine.on s) := by
  intro source p s
  have hparse : Program.parse source = .ok p := by decide +kernel
  have hcan : (canContinue.on s).1 = .ok true := by decide +kernel
  have hline : (continueLine.on s).1 = .error (.story (.notLiteral "z")) := by decide +kernel
  have hcursor : s.cursor = .at "K" 0 := by decide +kernel
  obtain ⟨hahead, -, -⟩ := line_foretold hparse rfl [.continueStory, .choose 0]
  exact ⟨⟨hparse, rfl, hcan, hline⟩, hcursor ▸ hahead hcan⟩

end Story

end Ink

end StoryServer
