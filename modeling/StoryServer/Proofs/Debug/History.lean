import Mathlib.Data.List.DropRight
import StoryServer.Proofs.Debug.Event

/-!
# A record agrees with its history

The history of a debug session is the list of its events.  This module says how each part of
the record is read off it.

*Kept* is what holds of every history, also when steps failed after their line was told: the
counter counts the told lines, the trace is the end of the list of taken steps, and the
numbers of breakpoints only go up.

*Followed* is what holds as long as no told line was lost: the steps are numbered from one
without gaps, a watch has counted the steps since it was set that changed its variable, and
the session is paused when a step since the last continuation hit a breakpoint.

Both are kept by everything that can happen to a record (`Kept.happens`,
`Followed.happens`), so they hold after every run.
-/

namespace StoryServer

namespace Debug

/-! ## Reading a history -/

namespace Event

/-- The outcome of a step that was taken. -/
def outcome? : Event → Option StepOutcome
  | .stepped o => some o
  | _ => none

/-- A breakpoint that was issued. -/
def issue? : Event → Option Breakpoint
  | .issued b => some b
  | _ => none

/-- Whether a line was told and its step failed. -/
def isLost : Event → Bool
  | .unjudged | .unwritten => true
  | _ => false

/-- Whether a line was told. -/
def isTold (e : Event) : Bool := e.isLost || e.outcome?.isSome

def isResumed : Event → Bool
  | .resumed => true
  | _ => false

/-- Whether a variable was watched. -/
def watches (name : String) : Event → Bool
  | .watched n => n == name
  | _ => false

/-- Whether a step changed a watched variable. -/
def changes (name : String) : Event → Bool
  | .stepped o => (o.changes.map (·.name)).contains name
  | _ => false

/-- Whether a step hit a breakpoint. -/
def hits : Event → Bool
  | .stepped o => o.hit.isSome
  | _ => false

end Event

/-- The outcomes of the steps that were taken, in order. -/
def outcomes (E : List Event) : List StepOutcome := E.filterMap Event.outcome?

/-- The breakpoints that were issued, in order. -/
def issues (E : List Event) : List Breakpoint := E.filterMap Event.issue?

/-- What happened since the last event of a kind, or at all if there is none. -/
def since (kind : Event → Bool) (E : List Event) : List Event := E.rtakeWhile fun e => !kind e

theorem outcomes_concat (E : List Event) (e : Event) :
    outcomes (E ++ [e]) = outcomes E ++ e.outcome?.toList := by
  rw [outcomes, List.filterMap_append, List.filterMap_cons, List.filterMap_nil]
  cases e.outcome? <;> rfl

theorem issues_concat (E : List Event) (e : Event) :
    issues (E ++ [e]) = issues E ++ e.issue?.toList := by
  rw [issues, List.filterMap_append, List.filterMap_cons, List.filterMap_nil]
  cases e.issue? <;> rfl

theorem since_concat (kind : Event → Bool) (E : List Event) (e : Event) :
    since kind (E ++ [e]) = if kind e then [] else since kind E ++ [e] := by
  rw [since, List.rtakeWhile_concat]
  cases kind e <;> rfl

/-- What the trace keeps of a step. -/
def StepOutcome.row (o : StepOutcome) : Nat × Except Fault Json × List String :=
  (o.number, beginning traceTextLimit o.text, o.changes.map (·.name))

/-- An entry of the trace without its time. -/
def Visit.row (v : Visit) : Nat × Except Fault Json × List String := (v.step, .ok v.text, v.changed)

/-- The end of a list is not changed by what was cut off before. -/
theorem rtake_concat {α : Type} (n : Nat) (xs : List α) (x : α) :
    (xs.rtake n ++ [x]).rtake n = (xs ++ [x]).rtake n := by
  cases n with
  | zero => rw [List.rtake_zero, List.rtake_zero]
  | succ n =>
      rw [List.rtake_concat_succ, List.rtake_concat_succ, List.rtake_eq_reverse_take_reverse,
        List.rtake_eq_reverse_take_reverse, List.rtake_eq_reverse_take_reverse,
        List.reverse_reverse, List.take_take, Nat.min_eq_left (Nat.le_succ n)]

/-! ## What looking finds -/

/-- What has changed was seen. -/
theorem changesAmong_sublist : ∀ {seen changes : List Change},
    changesAmong seen = .ok changes → changes.Sublist seen
  | [], changes, h => by
      obtain rfl : [] = changes := by simpa [changesAmong] using h
      exact List.Sublist.refl []
  | x :: rest, changes, h => by
      rw [changesAmong_cons] at h
      cases hs : sameValue x.old x.new with
      | error f => rw [hs] at h; cases h
      | ok same =>
          rw [hs] at h
          cases same with
          | true => exact (changesAmong_sublist h).cons x
          | false =>
              cases hr : changesAmong rest with
              | error f => rw [hr] at h; cases h
              | ok more =>
                  rw [hr] at h
                  obtain rfl : x :: more = changes := by simpa [Except.map] using h
                  exact (changesAmong_sublist hr).cons_cons x

/-- A watch counts the changes of its variable. -/
theorem Watch.looks_changes : ∀ {seen changes : List Change} (w : Watch),
    changesAmong seen = .ok changes →
      (seen.foldl Watch.look w).changes = w.changes + (changes.map (·.name)).count w.name
  | [], changes, w, h => by
      obtain rfl : [] = changes := by simpa [changesAmong] using h
      rfl
  | x :: rest, changes, w, h => by
      rw [changesAmong_cons] at h
      cases hs : sameValue x.old x.new with
      | error f => rw [hs] at h; cases h
      | ok same =>
          rw [hs] at h
          cases same with
          | true =>
              have hlook : (w.look x).changes = w.changes := by
                rw [Watch.look, hs]
                split <;> rfl
              rw [List.foldl_cons, looks_changes (w.look x) h, hlook, Watch.look_name]
          | false =>
              cases hr : changesAmong rest with
              | error f => rw [hr] at h; cases h
              | ok more =>
                  rw [hr] at h
                  obtain rfl : x :: more = changes := by simpa [Except.map] using h
                  have hlook : (w.look x).changes =
                      w.changes + if x.name == w.name then 1 else 0 := by
                    rw [Watch.look, hs]
                    by_cases hn : w.name = x.name
                    · simp [hn]
                    · simp [hn, Ne.symm hn]
                  rw [List.foldl_cons, looks_changes (w.look x) hr, hlook, Watch.look_name,
                    List.map_cons, List.count_cons]
                  omega

/-! ## Watches -/

namespace Record

theorem mem_putWatch {w v : Watch} : ∀ {ws : List Watch}, (ws.map (·.name)).Nodup →
    v ∈ putWatch w ws → v = w ∨ v ∈ ws ∧ v.name ≠ w.name
  | [], _, hv => Or.inl (List.mem_singleton.mp hv)
  | u :: rest, hn, hv => by
      rw [List.map_cons, List.nodup_cons] at hn
      rw [putWatch] at hv
      by_cases hu : u.name = w.name
      · rw [if_pos (beq_iff_eq.mpr hu)] at hv
        rcases List.mem_cons.mp hv with rfl | hv
        · exact Or.inl rfl
        · refine Or.inr ⟨List.mem_cons_of_mem u hv, fun he => hn.1 ?_⟩
          rw [hu, ← he]
          exact List.mem_map_of_mem hv
      · rw [if_neg (by simpa using hu)] at hv
        rcases List.mem_cons.mp hv with rfl | hv
        · exact Or.inr ⟨List.mem_cons_self, hu⟩
        · rcases mem_putWatch hn.2 hv with rfl | ⟨hm, hne⟩
          · exact Or.inl rfl
          · exact Or.inr ⟨List.mem_cons_of_mem u hm, hne⟩

/-- Watching a variable again adds no second watch. -/
theorem putWatch_names (w : Watch) : ∀ {ws : List Watch}, (ws.map (·.name)).Nodup →
    ((putWatch w ws).map (·.name)).Nodup
  | [], _ => by simp [putWatch]
  | u :: rest, hn => by
      rw [List.map_cons, List.nodup_cons] at hn
      rw [putWatch]
      by_cases hu : u.name = w.name
      · rw [if_pos (beq_iff_eq.mpr hu), List.map_cons, List.nodup_cons, ← hu]
        exact hn
      · rw [if_neg (by simpa using hu), List.map_cons, List.nodup_cons]
        refine ⟨fun hm => ?_, putWatch_names w hn.2⟩
        obtain ⟨v, hv, hvu⟩ := List.mem_map.mp hm
        rcases mem_putWatch hn.2 hv with rfl | ⟨hv, -⟩
        · exact hu hvu.symm
        · exact hn.1 (hvu ▸ List.mem_map_of_mem hv)

end Record

/-! ## What is kept -/

/-- A record agrees with its history, whatever failed. -/
structure Kept (limit : Nat) (E : List Event) (r : Record) : Prop where
  /-- The trace keeps as many steps as was asked for. -/
  size : r.limit = limit
  /-- Every line that was told is counted. -/
  steps : r.steps = E.countP Event.isTold
  /-- The trace has the last steps that were taken. -/
  trace : r.trace.map Visit.row = ((outcomes E).map StepOutcome.row).rtake limit
  /-- The numbers of breakpoints go up. -/
  ordered : (r.breakpoints.map (·.number)).Pairwise (· < ·)
  below : ∀ b ∈ r.breakpoints, b.number < r.nextBreakpoint
  /-- So do the numbers that were issued. -/
  issued : ((issues E).map (·.number)).Pairwise (· < ·)
  /-- The next number is larger than all of them. -/
  issuedBelow : ∀ b ∈ issues E, b.number < r.nextBreakpoint
  names : (r.watches.map (·.name)).Nodup

/-- A new record agrees with the empty history. -/
theorem Kept.start (id : String) (limit : Nat) : Kept limit [] { session := id, limit } where
  size := rfl
  steps := rfl
  trace := (List.rtake_nil limit).symm
  ordered := .nil
  below b hb := by cases hb
  issued := .nil
  issuedBelow b hb := by cases hb
  names := List.nodup_nil

/-- Numbers that go up, and a larger one after them. -/
theorem ordered_concat {bs : List Breakpoint} {b : Breakpoint}
    (h : (bs.map (·.number)).Pairwise (· < ·)) (hb : ∀ a ∈ bs, a.number < b.number) :
    ((bs ++ [b]).map (·.number)).Pairwise (· < ·) := by
  rw [List.map_append, List.pairwise_append]
  refine ⟨h, List.pairwise_singleton _ _, fun m hm n hn => ?_⟩
  obtain ⟨a, ha, rfl⟩ := List.mem_map.mp hm
  obtain rfl : n = b.number := by simpa using hn
  exact hb a ha

section Happening

variable {T : Continuation → Prop} {limit : Nat} {E e : List Event} {r r' : Record}

/-- An event that neither issues a breakpoint nor tells a line. -/
theorem Kept.quiet (h : Kept limit E r) {e : Event} (hi : e.issue? = none)
    (ht : e.isTold = false) (ho : e.outcome? = none) : Kept limit (E ++ [e]) r where
  size := h.size
  steps := by rw [h.steps, List.countP_append, List.countP_singleton, ht]; rfl
  trace := by rw [h.trace, outcomes_concat, ho, Option.toList_none, List.append_nil]
  ordered := h.ordered
  below := h.below
  issued := by rw [issues_concat, hi, Option.toList_none, List.append_nil]; exact h.issued
  issuedBelow := by rw [issues_concat, hi, Option.toList_none, List.append_nil]; exact h.issuedBelow
  names := h.names

theorem Kept.issue (h : Kept limit E r) (type : BreakpointType) (target : String) :
    Kept limit (E ++ [.issued { number := r.nextBreakpoint, type, target }])
      { r with
        breakpoints := r.breakpoints ++ [{ number := r.nextBreakpoint, type, target }]
        nextBreakpoint := r.nextBreakpoint + 1 } where
  size := h.size
  steps := by rw [h.steps, List.countP_append]; rfl
  trace := by
    rw [h.trace, outcomes_concat]
    exact congrArg (fun os => (os.map StepOutcome.row).rtake limit) (List.append_nil _).symm
  ordered := ordered_concat h.ordered h.below
  below b hb := by
    rcases List.mem_append.mp hb with hb | hb
    · exact Nat.lt_succ_of_lt (h.below b hb)
    · obtain rfl := List.mem_singleton.mp hb
      exact Nat.lt_succ_self _
  issued := by
    rw [issues_concat]
    exact ordered_concat h.issued h.issuedBelow
  issuedBelow b hb := by
    rw [issues_concat] at hb
    rcases List.mem_append.mp hb with hb | hb
    · exact Nat.lt_succ_of_lt (h.issuedBelow b hb)
    · obtain rfl := List.mem_singleton.mp hb
      exact Nat.lt_succ_self _
  names := h.names

/-- A told line is counted; what is in the trace then has to be said. -/
theorem Kept.count (h : Kept limit E r) {e : Event} (hi : e.issue? = none)
    (ht : e.isTold = true) (hsize : r'.limit = r.limit) (hsteps : r'.steps = r.steps + 1)
    (hbs : r'.breakpoints = r.breakpoints) (hnext : r'.nextBreakpoint = r.nextBreakpoint)
    (hnames : r'.watches.map (·.name) = r.watches.map (·.name))
    (htrace : r'.trace.map Visit.row = ((outcomes (E ++ [e])).map StepOutcome.row).rtake limit) :
    Kept limit (E ++ [e]) r' where
  size := hsize.trans h.size
  steps := by rw [hsteps, h.steps, List.countP_append, List.countP_singleton, ht]; rfl
  trace := htrace
  ordered := hbs ▸ h.ordered
  below := by rw [hbs, hnext]; exact h.below
  issued := by rw [issues_concat, hi, Option.toList_none, List.append_nil]; exact h.issued
  issuedBelow := by
    rw [issues_concat, hi, Option.toList_none, List.append_nil, hnext]
    exact h.issuedBelow
  names := hnames ▸ h.names

/-- A told line is counted, and is in the trace if its step was taken. -/
theorem Kept.told (h : Kept limit E r) {p : Passage} {seen : List Change}
    {res : Except Fault StepOutcome} {e : Event} (hr : Recorded r p seen res e r') :
    Kept limit (E ++ [e]) r' := by
  have hlost : ∀ {e : Event}, e.outcome? = none →
      r.trace.map Visit.row = ((outcomes (E ++ [e])).map StepOutcome.row).rtake limit := by
    intro e ho
    rw [outcomes_concat, ho, Option.toList_none, List.append_nil]
    exact h.trace
  cases hr with
  | unjudged hj =>
      exact h.count rfl rfl rfl rfl rfl rfl (Record.look_names _ seen) (hlost rfl)
  | unwritten hj ht => exact h.count rfl rfl rfl rfl rfl rfl (Record.look_names _ seen) (hlost rfl)
  | @written v text time hj ht =>
      refine h.count rfl rfl rfl rfl rfl rfl (Record.look_names _ seen) ?_
      have hrow : (v.outcome p.told (((r.count p.told.text).look seen).pauseAt v.hit).paused).row =
          (v.number, .ok text, v.changes.map (·.name)) := by
        rw [StepOutcome.row, ← ht]
        rfl
      have hvisit : ∀ (q : Record) (x : Visit), (q.visit x).trace.map Visit.row =
          (q.trace.map Visit.row ++ [x.row]).rtake q.limit := by
        intro q x
        rw [Record.visit, List.map_drop, List.rtake, List.length_append, List.length_append,
          List.length_map, List.map_append]
        rfl
      have htrace : (((r.count p.told.text).look seen).pauseAt v.hit).trace = r.trace := rfl
      have hsize : (((r.count p.told.text).look seen).pauseAt v.hit).limit = limit := h.size
      rw [hvisit, htrace, hsize, h.trace, rtake_concat, outcomes_concat, Event.outcome?,
        Option.toList_some, List.map_append, List.map_cons, hrow]
      rfl

/-- Everything that can happen to a record keeps it in agreement. -/
theorem Kept.happens (h : Kept limit E r) (hh : Happens T r e r') : Kept limit (E ++ e) r' := by
  cases hh with
  | nothing =>
      rw [List.append_nil]
      exact h
  | issued type target => exact h.issue type target
  | removed keep =>
      rw [List.append_nil]
      exact { h with
        ordered := h.ordered.sublist (List.filter_sublist.map _)
        below := fun b hb => h.below b (List.mem_filter.mp hb).1 }
  | enabled breakpoint enabled =>
      rw [List.append_nil]
      have hnumber : ∀ b : Breakpoint, (if b.id == breakpoint then { b with enabled } else b).number =
          b.number := fun b => by split <;> rfl
      refine { h with ordered := ?_, below := fun b hb => ?_ }
      · rw [List.map_map]
        exact (List.map_congr_left fun b _ => hnumber b) ▸ h.ordered
      · obtain ⟨a, ha, rfl⟩ := List.mem_map.mp hb
        rw [hnumber]
        exact h.below a ha
  | watched name last =>
      exact { h.quiet rfl rfl rfl with names := Record.putWatch_names _ h.names }
  | unwatched name =>
      rw [List.append_nil]
      exact { h with names := h.names.sublist (List.filter_sublist.map _) }
  | resumed => exact { h.quiet rfl rfl rfl with }
  | told _ _ hrec => exact h.told hrec

/-! ## What is followed -/

/-- A record agrees with a history in which no told line was lost. -/
structure Followed (E : List Event) (r : Record) : Prop where
  /-- Every told line is a step that was taken. -/
  lossless : ∀ e ∈ E, e.isLost = false
  /-- The steps are numbered from one. -/
  numbered : (outcomes E).map (·.number) = List.range' 1 (outcomes E).length
  /-- A watch has counted the changes since it was set. -/
  watches : ∀ w ∈ r.watches,
    w.changes = (since (Event.watches w.name) E).countP (Event.changes w.name)
  /-- The session is paused when a step since the last continuation hit a breakpoint. -/
  paused : r.paused = (since Event.isResumed E).any Event.hits

theorem Followed.start (id : String) (limit : Nat) : Followed [] { session := id, limit } where
  lossless e he := by cases he
  numbered := rfl
  watches w hw := by cases hw
  paused := rfl

/-- Without losses the counter counts the steps that were taken. -/
theorem told_of_lossless : ∀ {E : List Event}, (∀ e ∈ E, e.isLost = false) →
    E.countP Event.isTold = (outcomes E).length
  | [], _ => rfl
  | e :: rest, h => by
      obtain ⟨he, hrest⟩ := List.forall_mem_cons.mp h
      rw [List.countP_cons, told_of_lossless hrest, Event.isTold, he, outcomes, outcomes,
        List.filterMap_cons]
      cases e.outcome? <;> rfl

/-- A watch has counted no change by an event that is no step. -/
theorem count_quiet (name : String) (kind : Event → Bool) {e : Event} (he : e.changes name = false)
    (hk : kind e = false) : (since kind (E ++ [e])).countP (Event.changes name) =
      (since kind E).countP (Event.changes name) := by
  rw [since_concat, hk, if_neg Bool.false_ne_true, List.countP_append, List.countP_singleton, he]
  rfl

/-- Whether the session is paused changes by a hit. -/
theorem any_since_concat {e : Event} (he : e.isResumed = false) :
    (since Event.isResumed (E ++ [e])).any Event.hits =
      ((since Event.isResumed E).any Event.hits || e.hits) := by
  rw [since_concat, he, if_neg Bool.false_ne_true, List.any_append, List.any_cons, List.any_nil,
    Bool.or_false]

theorem Followed.lossless_append (h : Followed E r) (he : ∀ x ∈ e, x.isLost = false) :
    ∀ x ∈ E ++ e, x.isLost = false := fun x hx =>
  (List.mem_append.mp hx).elim (h.lossless x) (he x)

theorem Followed.numbered_quiet (h : Followed E r) {e : Event} (ho : e.outcome? = none) :
    (outcomes (E ++ [e])).map (·.number) = List.range' 1 (outcomes (E ++ [e])).length := by
  rw [outcomes_concat, ho, Option.toList_none, List.append_nil]
  exact h.numbered

/-- An event that is not about steps. -/
theorem Followed.quiet (h : Followed E r) {e : Event} (hl : e.isLost = false)
    (ho : e.outcome? = none) (hh : e.hits = false) (hres : e.isResumed = false)
    (hc : ∀ name, e.changes name = false) (hw : ∀ w ∈ r.watches, e.watches w.name = false) :
    Followed (E ++ [e]) r where
  lossless := h.lossless_append fun x hx => List.mem_singleton.mp hx ▸ hl
  numbered := h.numbered_quiet ho
  watches w hm := by rw [count_quiet w.name _ (hc w.name) (hw w hm)]; exact h.watches w hm
  paused := by rw [any_since_concat hres, hh, Bool.or_false]; exact h.paused

/-- A variable is counted once if it has changed. -/
theorem count_changes {names : List String} {seen changes : List Change} (name : String)
    (hn : names.Nodup) (hs : seen.map (·.name) = names) (hc : changesAmong seen = .ok changes) :
    (changes.map (·.name)).count name = if (changes.map (·.name)).contains name then 1 else 0 := by
  have hsub : (changes.map (·.name)).Sublist names := hs ▸ (changesAmong_sublist hc).map _
  rw [List.Nodup.count (hn.sublist hsub), List.contains_eq_mem]
  split <;> simp [*]

/-- A step that was taken. -/
theorem Followed.step (h : Followed E r) (hk : Kept limit E r) {p : Passage} {seen : List Change}
    {o : StepOutcome} (hb : p.before.map Prod.fst = r.watches.map (·.name))
    (hr : Recorded r p seen (.ok o) (.stepped o) r') : Followed (E ++ [.stepped o]) r' := by
  cases hr with
  | @written v text time hj ht =>
      cases hj with
      | @judged changes hit hseen hc hf =>
          have hnames : seen.map (·.name) = r.watches.map (·.name) := by
            rw [← hb, hseen, List.map_map]
            rfl
          refine ⟨h.lossless_append fun x hx => List.mem_singleton.mp hx ▸ rfl, ?_,
            fun w' hw' => ?_, ?_⟩
          · have hnumber : r.steps + 1 = 1 + (outcomes E).length := by
              rw [hk.steps, told_of_lossless h.lossless, Nat.add_comm]
            rw [outcomes_concat, Event.outcome?, Option.toList_some, List.map_append, h.numbered,
              List.length_append, List.length_singleton, List.range'_1_concat, ← hnumber]
            rfl
          · obtain ⟨w, hw, rfl⟩ := List.mem_map.mp hw'
            rw [w.looks_name seen, w.looks_changes hc, since_concat]
            refine Eq.trans ?_ List.countP_append.symm
            rw [List.countP_singleton, count_changes w.name hk.names hnames hc, h.watches w hw]
            rfl
          · rw [any_since_concat rfl, ← h.paused]
            rfl

/-- Everything that can happen without a loss keeps a record in agreement. -/
theorem Followed.happens (h : Followed E r) (hk : Kept limit E r) (hh : Happens T r e r')
    (hloss : ∀ x ∈ e, x.isLost = false) : Followed (E ++ e) r' := by
  cases hh with
  | nothing =>
      rw [List.append_nil]
      exact h
  | issued type target =>
      exact { h.quiet rfl rfl rfl rfl (fun _ => rfl) fun _ _ => rfl with }
  | removed keep =>
      rw [List.append_nil]
      exact { h with }
  | enabled breakpoint enabled =>
      rw [List.append_nil]
      exact { h with }
  | watched name last =>
      refine ⟨h.lossless_append hloss, h.numbered_quiet rfl, fun w hw => ?_, ?_⟩
      · rcases Record.mem_putWatch hk.names hw with rfl | ⟨hw, hne⟩
        · rw [since_concat, Event.watches, beq_self_eq_true, if_pos rfl]
          rfl
        · rw [count_quiet w.name _ rfl (by simpa [Event.watches] using Ne.symm hne)]
          exact h.watches w hw
      · rw [any_since_concat rfl, ← h.paused]
        exact (Bool.or_false _).symm
  | unwatched name =>
      rw [List.append_nil]
      exact { h with watches := fun w hw => h.watches w (List.mem_filter.mp hw).1 }
  | resumed =>
      refine ⟨h.lossless_append hloss, h.numbered_quiet rfl, fun w hw => ?_, ?_⟩
      · rw [count_quiet w.name _ rfl rfl]
        exact h.watches w hw
      · rw [since_concat, Event.isResumed, if_pos rfl]
        rfl
  | told _ hb hrec =>
      cases hrec with
      | unjudged hj => cases hloss _ List.mem_cons_self
      | unwritten hj ht => cases hloss _ List.mem_cons_self
      | written time hj ht => exact h.step hk hb (.written time hj ht)

/-! ## Runs -/

theorem Kept.runs (h : Kept limit [] r) (hr : Runs T r E r') : Kept limit E r' := by
  induction hr with
  | refl => exact h
  | more _ he ih => exact ih.happens he

theorem Followed.runs (h : Followed [] r) (hk : Kept limit [] r) (hr : Runs T r E r')
    (hloss : ∀ x ∈ E, x.isLost = false) : Followed E r' := by
  induction hr with
  | refl => exact h
  | more hrest he ih =>
      exact (ih fun x hx => hloss x (List.mem_append_left _ hx)).happens (hk.runs hrest) he
        fun x hx => hloss x (List.mem_append_right _ hx)

/-- Where every line has a text, no text fails to be cut. -/
theorem written_of_text (hr : Runs HasText r E r') : .unwritten ∉ E := by
  induction hr with
  | refl => exact List.not_mem_nil
  | more _ he ih =>
      refine fun hx => (List.mem_append.mp hx).elim ih fun hx => ?_
      cases he with
      | told hT hb hrec =>
          obtain ⟨line, hline⟩ := hT
          obtain rfl := List.mem_singleton.mp hx
          cases hrec with
          | unwritten hj ht =>
              rw [hline] at ht
              cases ht
      | _ => simp at hx

end Happening

/-! ## The beginning -/

section Starting

variable {ε : Type} {id : String} {limit : Int} {s t : Server ε} {answer : Json}

theorem recordOf_put (r : Record) (rs : List Record) :
    (putRecord r rs).find? (·.session == r.session) = some r := by
  induction rs with
  | nil => rw [putRecord, List.find?_cons, beq_self_eq_true]
  | cons q rest ih =>
      rw [putRecord]
      cases hq : q.session == r.session with
      | true => rw [if_pos rfl, List.find?_cons, beq_self_eq_true]
      | false => rw [if_neg Bool.false_ne_true, List.find?_cons, hq, ih]

theorem traceSize_ok {n : Nat} (h : traceSize limit = .ok n) : n = limit.toNat := by
  rw [traceSize] at h
  split at h
  · cases h
  · split at h
    · cases h
    · exact (Except.ok.inj h).symm

/-- A debug session begins with an empty record. -/
theorem start_record (h : (start limit id).on s = (.ok answer, t)) :
    t.recordOf id = some { session := id, limit := limit.toNat } := by
  rw [start] at h
  cases hs : s.sessions.find? (·.id == id) with
  | none =>
      rw [Act.on_bind_of_error (session_none hs)] at h
      cases h
  | some session =>
      rw [Act.on_bind_of_ok (session_on hs), Act.on_bind, Act.on_ofExcept] at h
      cases hn : traceSize limit with
      | error f =>
          rw [hn] at h
          cases h
      | ok n =>
          rw [hn] at h
          rw [← (Prod.mk.inj h).2, ← traceSize_ok hn]
          exact recordOf_put { session := id, limit := n } s.records

end Starting

/-! ## Ids of breakpoints -/

theorem Breakpoint.id_injective {a b : Breakpoint} (h : a.id = b.id) : a.number = b.number := by
  have hdigits : ∀ c : Breakpoint, c.id.toList = "bp_".toList ++ Nat.toDigits 10 c.number := by
    intro c
    have hrepr : (toString c.number).toList = Nat.toDigits 10 c.number := by simp [Nat.repr]
    rw [Breakpoint.id, String.toList_append, hrepr]
    rfl
  have hlists := congrArg String.toList h
  rw [hdigits, hdigits, List.append_cancel_left_eq] at hlists
  rw [← Nat.ofDigitChars_ten_toDigits (n := a.number), hlists, Nat.ofDigitChars_ten_toDigits]

/-- Breakpoints whose numbers go up have different ids. -/
theorem ids_nodup {bs : List Breakpoint} (h : (bs.map (·.number)).Pairwise (· < ·)) :
    (bs.map Breakpoint.id).Nodup := by
  rw [List.pairwise_map] at h
  rw [List.Nodup, List.pairwise_map]
  exact h.imp fun hlt he => Nat.ne_of_lt hlt (Breakpoint.id_injective he)

end Debug

end StoryServer
