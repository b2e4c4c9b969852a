import StoryServer.Proofs.Session.Likeness

/-!
# Requests do alike for sessions that are alike

A request that neither starts nor ends a session answers alike for two sessions that are
alike, and leaves them alike, with everything beside them as it was (`answer_alike`).  The
proof goes along the text of each request; what is known of a story is carried along if
everything that happens to a story keeps it (`Ink.Story.Stays`).
-/

namespace StoryServer

namespace Ink

/-- What is known of a story stays known, whatever a request does to the story.  `settable`
is what is known of the values that variables are set to. -/
structure Story.Stays (known : Story → Prop) (settable : Json → Prop) : Prop where
  continueStory (u : Story) : known u → known (Story.continueStory.on u).2
  continueLine (u : Story) : known u → known (Story.continueLine.on u).2
  choose (index : Int) (u : Story) : known u → known ((Story.choose index).on u).2
  setVariable (name : String) {v : Json} (hv : settable v) (u : Story) :
    known u → known ((Story.setVariable name v).on u).2
  loadState (text : String) (u : Story) : known u → known ((Story.loadState text).on u).2
  reset (u : Story) : known u → known (Story.reset.on u).2

theorem Story.stays_any : Story.Stays (fun _ => True) fun _ => True where
  continueStory _ _ := trivial
  continueLine _ _ := trivial
  choose _ _ _ := trivial
  setVariable _ _ _ _ _ := trivial
  loadState _ _ _ := trivial
  reset _ _ := trivial

/-- An operation that only reads an open story. -/
def Story.Reads {α : Type} (act : Act Story α) : Prop := Act.Keeps (fun u : Story => u) act

end Ink

namespace Debug

theorem Record.outline_eq_iff {r q : Record} : r.outline = q.outline ↔
    r.limit = q.limit ∧ r.breakpoints = q.breakpoints ∧ r.watches = q.watches ∧
    r.trace.map (fun v => { v with time := 0 }) = q.trace.map (fun v => { v with time := 0 }) ∧
    r.steps = q.steps ∧ r.paused = q.paused ∧ r.lastOutput = q.lastOutput ∧
    r.nextBreakpoint = q.nextBreakpoint := by
  rw [outline, outline, Record.mk.injEq]
  simp only [true_and]

theorem Record.outline_visit {r q : Record} {v w : Visit} (h : r.outline = q.outline)
    (hv : { v with time := 0 } = { w with time := 0 }) :
    (r.visit v).outline = (q.visit w).outline := by
  have hvisit : ∀ (p : Record) (x : Visit),
      (p.visit x).outline = p.outline.visit { x with time := 0 } := by
    intro p x
    simp only [visit, outline, List.map_drop, List.map_append, List.map_cons, List.map_nil,
      List.length_append, List.length_map, List.length_cons, List.length_nil]
  rw [hvisit, hvisit, h, hv]

end Debug

namespace Comparison

open Debug

variable {c : Comparison} (setup : Ink.Setup)

/-- What is answered for the two sessions. -/
def Answer (c : Comparison) : Json → Json → Prop := Json.Alike c.id c.id'

theorem answer_refl {v w : Json} (h : v = w) : c.Answer v w := h ▸ Json.alike_refl v

/-- Two objects that begin with the name of the session. -/
theorem answer_named (fields : Fields) : c.Answer (.obj (("session_id", .str c.id) :: fields))
    (.obj (("session_id", .str c.id') :: fields)) :=
  ⟨rfl, fun h => by rw [h]⟩

/-- Two objects whose second member is the name of the session. -/
theorem answer_named_second {key : String} {v : Json} (fields : Fields) :
    c.Answer (.obj ((key, v) :: ("session_id", .str c.id) :: fields))
      (.obj ((key, v) :: ("session_id", .str c.id') :: fields)) :=
  ⟨rfl, fun h => by rw [h]⟩

/-! ## Stories -/

section Stories

variable {known : Ink.Story → Prop} {n m : StoryId}

theorem agree_story {α : Type} (act : Act Ink.Story α)
    (hk : ∀ u, c.known u → c.known (act.on u).2) :
    Act.Agree (c.Same n m) c.Fault (· = ·) (Stage.inEngine (Ink.Shelf.withStory n act))
      (Stage.inEngine (Ink.Shelf.withStory m act)) :=
  Ink.agree_inStory fault_refl act hk

theorem agree_reading {α : Type} {act : Act Ink.Story α} (h : Ink.Story.Reads act) :
    Act.Agree (c.Same n m) c.Fault (· = ·) (Stage.inEngine (Ink.Shelf.withStory n act))
      (Stage.inEngine (Ink.Shelf.withStory m act)) :=
  agree_story act fun u hu => Eq.mpr (congrArg c.known (h u)) hu

theorem agree_canContinue : Act.Agree (c.Same n m) c.Fault (· = ·)
    ((Ink.engine setup).canContinue n) ((Ink.engine setup).canContinue m) :=
  agree_reading Ink.Story.keeps_canContinue

theorem agree_choices : Act.Agree (c.Same n m) c.Fault (· = ·)
    ((Ink.engine setup).choices n) ((Ink.engine setup).choices m) :=
  agree_reading Ink.Story.keeps_choices

theorem agree_getVariable (name : String) : Act.Agree (c.Same n m) c.Fault (· = ·)
    ((Ink.engine setup).getVariable n name) ((Ink.engine setup).getVariable m name) :=
  agree_reading (Ink.Story.keeps_getVariable name)

theorem agree_saveState : Act.Agree (c.Same n m) c.Fault (· = ·)
    ((Ink.engine setup).saveState n) ((Ink.engine setup).saveState m) :=
  agree_reading (Act.keeps_map Ink.Story.keeps_saveState)

theorem agree_evaluate (name : String) (arguments : List Json) :
    Act.Agree (c.Same n m) c.Fault (· = ·) ((Ink.engine setup).evaluate n name arguments)
      ((Ink.engine setup).evaluate m name arguments) :=
  agree_reading (Ink.Story.keeps_call setup.functions name arguments)

theorem agree_globalTags : Act.Agree (c.Same n m) c.Fault (· = ·)
    ((Ink.engine setup).globalTags n) ((Ink.engine setup).globalTags m) :=
  agree_reading Ink.Story.keeps_globalTags

end Stories

/-! ## Watched variables -/

section Debugging

variable {settable : Json → Prop} {n m : StoryId}

theorem agree_readVariable (hp : c.places = some (n, m)) (name : String) :
    Act.Agree c.Alike c.Fault (· = ·) (readVariable (Ink.engine setup) n name)
      (readVariable (Ink.engine setup) m name) := by
  refine Act.agree_bind (Act.agree_attempt (agree_onStage hp (agree_getVariable setup name)))
    fun r r' hr => ?_
  cases r with
  | ok v =>
      cases r' with
      | ok w => exact Act.agree_pure hr
      | error g => exact hr.elim
  | error f =>
      cases r' with
      | ok w => exact hr.elim
      | error g => exact Act.agree_bind (agree_note _ _) fun _ _ _ => Act.agree_pure rfl

theorem agree_readVariables (hp : c.places = some (n, m)) : ∀ names : List String,
    Act.Agree c.Alike c.Fault (· = ·) (readVariables (Ink.engine setup) n names)
      (readVariables (Ink.engine setup) m names)
  | [] => Act.agree_pure rfl
  | name :: rest => Act.agree_bind (agree_readVariable setup hp name) fun v w hv =>
      Act.agree_bind (agree_readVariables hp rest) fun vs ws hvs =>
        Act.agree_pure (by rw [hv, hvs])

theorem agree_lookAtWatches (hp : c.places = some (n, m)) (before : List (String × Json)) :
    Act.Agree c.Alike c.Fault (· = ·) (lookAtWatches (Ink.engine setup) c.id n before)
      (lookAtWatches (Ink.engine setup) c.id' m before) := by
  induction before with
  | nil => exact Act.agree_pure rfl
  | cons watch rest ih =>
      obtain ⟨name, old⟩ := watch
      refine Act.agree_bind (agree_readVariable setup hp name) fun new new' hnew => ?_
      subst hnew
      refine Act.agree_bind (agree_change (fun _ => rfl) fun _ => rfl) fun _ _ _ => ?_
      refine Act.agree_bind (Act.agree_ofExcept (Act.related_refl fault_refl (fun _ => rfl) _))
        fun same same' hsame => ?_
      subst hsame
      cases same with
      | true => exact ih
      | false =>
          refine Act.agree_bind (agree_change (fun _ => rfl) fun _ => rfl)
            fun _ _ _ => ?_
          exact Act.agree_bind ih fun xs ys h =>
            Act.agree_pure (congrArg _ h)

/-! ## Debug sessions -/

/-- A record in the place of the one for the same session. -/
theorem recordOf_putRecord (r : Record) (records : List Record) :
    (putRecord r records).find? (·.session == r.session) = some r := by
  induction records with
  | nil => simp [putRecord]
  | cons q rest ih =>
      rw [putRecord]
      cases hq : q.session == r.session with
      | true => simp
      | false => simpa [hq] using ih

theorem forgetting_putRecord (r : Record) (records : List Record) :
    forgetting r.session (putRecord r records) = forgetting r.session records := by
  rw [forgetting, forgetting]
  induction records with
  | nil => simp [putRecord]
  | cons q rest ih =>
      rw [putRecord]
      cases hq : q.session == r.session with
      | true => simp [bne, hq]
      | false =>
          simp only [Bool.false_eq_true, if_false, List.filter_cons, bne, hq, Bool.not_false,
            if_true, List.cons.injEq, true_and]
          exact ih

theorem agree_start (limit : Int) :
    Act.Agree c.Alike c.Fault c.Answer (start limit c.id) (start limit c.id') := by
  refine Act.agree_bind agree_session fun _ _ _ => ?_
  refine Act.agree_bind (Act.agree_ofExcept (Act.related_refl fault_refl (fun _ => rfl) _))
    fun limit limit' hlimit => ?_
  subst hlimit
  refine Act.agree_bind (Act.agree_modify fun s t h => ⟨h.live, fun _ => ?_, ?_, ?_⟩) fun _ _ _ =>
    Act.agree_bind (agree_note _ _) fun _ _ _ => Act.agree_pure (answer_named _)
  · have hs := recordOf_putRecord { session := c.id, limit } s.records
    have ht := recordOf_putRecord { session := c.id', limit } t.records
    rw [Server.recordOf, Server.recordOf, hs, ht]
    rfl
  · rw [← h.left, Server.beside]
    exact congrArg (Beside.mk _ · _) (forgetting_putRecord { session := c.id, limit } s.records)
  · rw [← h.right, Server.beside]
    exact congrArg (Beside.mk _ · _) (forgetting_putRecord { session := c.id', limit } t.records)

theorem any_record {id : String} (s : Server Ink.Shelf) :
    s.records.any (·.session == id) = ((s.recordOf id).map (·.outline)).isSome := by
  rw [Option.isSome_map, Server.recordOf, Bool.eq_iff_iff, List.any_eq_true, List.find?_isSome]

theorem agree_stop (hd : c.debugging = true) :
    Act.Agree c.Alike c.Fault (· = ·) (stop c.id) (stop c.id') := by
  intro s t h
  have hany : s.records.any (·.session == c.id) = t.records.any (·.session == c.id') := by
    rw [any_record, any_record, h.records hd]
  have hgone : ∀ (id : String) (records : List Record),
      (forgetting id records).find? (·.session == id) = none := by
    intro id records
    rw [forgetting, List.find?_eq_none]
    intro r hr
    simpa using (List.mem_filter.mp hr).2
  have hagain : ∀ (id : String) (records : List Record),
      forgetting id (forgetting id records) = forgetting id records := by
    intro id records
    rw [forgetting, forgetting, List.filter_filter]
    simp only [Bool.and_self]
  rw [stop, stop, Act.on_bind, Act.on_bind, Act.on_get, Act.on_get]
  dsimp only
  rw [← hany]
  cases s.records.any (·.session == c.id) with
  | false => exact ⟨rfl, h⟩
  | true =>
      refine ⟨rfl, h.live, fun _ => ?_, ?_, ?_⟩
      · refine (congrArg (Option.map _) (hgone c.id s.records)).trans ?_
        exact (congrArg (Option.map _) (hgone c.id' t.records)).symm
      · rw [← h.left, Server.beside]
        exact congrArg (Beside.mk _ · _) (hagain c.id s.records)
      · rw [← h.right, Server.beside]
        exact congrArg (Beside.mk _ · _) (hagain c.id' t.records)

theorem agree_addBreakpoint (hd : c.debugging = true) (type target : String) :
    Act.Agree c.Alike c.Fault (· = ·) (addBreakpoint c.id type target)
      (addBreakpoint c.id' type target) := by
  rw [addBreakpoint, addBreakpoint]
  cases BreakpointType.ofName? type with
  | none => exact Act.agree_throw (fault_refl _)
  | some t =>
      dsimp only
      split
      · exact Act.agree_throw_bind (fault_refl _) _ _
      · refine Act.agree_bind agree_session fun _ _ _ => Act.agree_bind (agree_record hd)
          fun r q hrq => ?_
        have hnext : r.nextBreakpoint = q.nextBreakpoint :=
          (Record.outline_eq_iff.mp hrq).2.2.2.2.2.2.2
        rw [hnext]
        exact Act.agree_bind (agree_change (fun _ => rfl) fun _ => rfl)
          fun _ _ _ => Act.agree_bind (agree_note _ _) fun _ _ _ => Act.agree_pure rfl

theorem agree_removeBreakpoint (hd : c.debugging = true) (breakpoint : String) :
    Act.Agree c.Alike c.Fault (· = ·) (removeBreakpoint c.id breakpoint)
      (removeBreakpoint c.id' breakpoint) := by
  refine Act.agree_bind agree_session fun _ _ _ => Act.agree_bind (agree_record hd)
    fun r q hrq => ?_
  have hbreakpoints : r.breakpoints = q.breakpoints := (Record.outline_eq_iff.mp hrq).2.1
  dsimp only
  rw [hbreakpoints]
  exact Act.agree_bind (agree_change (fun _ => rfl) fun _ => rfl) fun _ _ _ => Act.agree_pure rfl

theorem agree_breakpoints (hd : c.debugging = true) :
    Act.Agree c.Alike c.Fault (· = ·) (breakpoints c.id) (breakpoints c.id') :=
  Act.agree_bind (agree_record hd) fun _ _ hrq =>
    Act.agree_pure (Record.outline_eq_iff.mp hrq).2.1

theorem agree_addWatch (hd : c.debugging = true) (name : String) :
    Act.Agree c.Alike c.Fault (· = ·) (addWatch (Ink.engine setup) c.id name)
      (addWatch (Ink.engine setup) c.id' name) := by
  refine Act.agree_bind agree_session fun _ _ hp => Act.agree_bind (agree_record hd) fun _ _ _ =>
    Act.agree_bind (agree_readVariable setup hp name) fun v w hv => ?_
  subst hv
  exact Act.agree_bind (agree_change (fun _ => rfl) fun _ => rfl) fun _ _ _ =>
      Act.agree_pure rfl

theorem agree_removeWatch (hd : c.debugging = true) (name : String) :
    Act.Agree c.Alike c.Fault (· = ·) (removeWatch c.id name) (removeWatch c.id' name) := by
  refine Act.agree_bind agree_session fun _ _ _ => Act.agree_bind (agree_record hd)
    fun r q hrq => ?_
  have hwatches : r.watches = q.watches := (Record.outline_eq_iff.mp hrq).2.2.1
  rw [hwatches]
  exact Act.agree_bind (agree_change (fun _ => rfl) fun _ => rfl) fun _ _ _ => Act.agree_pure rfl

/-! ## Steps -/

theorem agree_advance (hs : Ink.Story.Stays c.known settable) (hd : c.debugging = true) :
    Act.Agree c.Alike c.Fault (fun p q => c.places = some (p.story, q.story) ∧
        p.before = q.before ∧ p.told = q.told)
      (advance (Ink.engine setup) c.id) (advance (Ink.engine setup) c.id') := by
  refine Act.agree_bind agree_session fun x y hp => Act.agree_bind (agree_record hd)
    fun r q hrq => Act.agree_bind (agree_onStage hp (agree_canContinue setup)) fun can can' hcan => ?_
  subst hcan
  have hwatches : r.watches = q.watches := (Record.outline_eq_iff.mp hrq).2.2.1
  cases can with
  | false =>
      refine Act.agree_bind (agree_onStage hp (agree_choices setup)) fun cs cs' hcs => ?_
      subst hcs
      exact Act.agree_throw_bind (fault_notSteppable _) _ _
  | true =>
      simp only [Bool.not_true, Bool.false_eq_true, if_false]
      rw [hwatches]
      refine Act.agree_bind (agree_readVariables setup hp _) fun before before' hbefore =>
        Act.agree_bind (agree_onStage hp (agree_story _ hs.continueLine)) fun told told' htold => ?_
      exact Act.agree_pure ⟨hp, hbefore, htold⟩

theorem agree_judge (hd : c.debugging = true) {p q : Passage} (hp : c.places = some (p.story, q.story))
    (hbefore : p.before = q.before) (htold : p.told = q.told) :
    Act.Agree c.Alike c.Fault (· = ·) (judge (Ink.engine setup) c.id p)
      (judge (Ink.engine setup) c.id' q) := by
  rw [judge, judge, hbefore, htold]
  refine Act.agree_bind (agree_record hd) fun r r' hr => ?_
  have hsteps : r.steps = r'.steps := (Record.outline_eq_iff.mp hr).2.2.2.2.1
  dsimp only
  rw [hsteps]
  refine Act.agree_bind (agree_change (fun _ => rfl) fun _ => rfl) fun _ _ _ =>
      Act.agree_bind (agree_lookAtWatches setup hp q.before) fun xs ys hxs => ?_
  subst hxs
  refine Act.agree_bind (agree_record hd) fun r r' hr => ?_
  have hbreakpoints : r.breakpoints = r'.breakpoints := (Record.outline_eq_iff.mp hr).2.1
  rw [hbreakpoints]
  refine Act.agree_bind (Act.agree_ofExcept (Act.related_refl fault_refl (fun _ => rfl) _))
    fun hit hit' hhit => ?_
  exact Act.agree_pure (by rw [hhit])

theorem agree_pauseAt (number : Nat) : ∀ hit : Option Breakpoint,
    Act.Agree c.Alike c.Fault (fun _ _ => True) (pauseAt c.id number hit) (pauseAt c.id' number hit)
  | none => Act.agree_pure trivial
  | some _ => Act.agree_bind (agree_change (fun _ => rfl) fun _ => rfl) fun _ _ _ => agree_note _ _

theorem agree_conclude (hd : c.debugging = true) (told : Continuation) (v : Verdict) :
    Act.Agree c.Alike c.Fault (· = ·) (conclude c.id told v) (conclude c.id' told v) := by
  refine Act.agree_bind (agree_pauseAt v.number v.hit) fun _ _ _ =>
    Act.agree_bind (Act.agree_ofExcept (Act.related_refl fault_refl (fun _ => rfl) _))
      fun text text' htext => Act.agree_bind agree_readClock fun time time' _ => ?_
  subst htext
  refine Act.agree_bind (agree_update (fun _ => rfl) (fun _ => rfl) fun _ _ h =>
    Record.outline_visit h rfl) fun _ _ _ => Act.agree_bind (agree_record hd) fun r q hrq => ?_
  have hpaused : r.paused = q.paused := (Record.outline_eq_iff.mp hrq).2.2.2.2.2.1
  exact Act.agree_pure (by rw [hpaused])

theorem agree_step (hs : Ink.Story.Stays c.known settable) (hd : c.debugging = true) :
    Act.Agree c.Alike c.Fault (· = ·) (step (Ink.engine setup) c.id)
      (step (Ink.engine setup) c.id') := by
  refine Act.agree_bind (agree_advance setup hs hd) fun p q hpq =>
    Act.agree_bind (agree_judge setup hd hpq.1 hpq.2.1 hpq.2.2) fun v w hv => ?_
  rw [hv, hpq.2.2]
  exact agree_conclude hd q.told w

theorem agree_steps (hs : Ink.Story.Stays c.known settable) (hd : c.debugging = true) :
    ∀ (n : Nat) (last : StepOutcome), Act.Agree c.Alike c.Fault (· = ·)
      (steps (Ink.engine setup) c.id n last) (steps (Ink.engine setup) c.id' n last)
  | 0, _ => Act.agree_pure rfl
  | n + 1, last => by
      rw [steps, steps]
      split
      · exact Act.agree_pure rfl
      · refine Act.agree_bind (agree_step setup hs hd) fun o o' ho => ?_
        subst ho
        exact agree_steps hs hd n o

theorem agree_continueFor (hs : Ink.Story.Stays c.known settable) (hd : c.debugging = true)
    (most : Int) : Act.Agree c.Alike c.Fault (· = ·) (continueFor (Ink.engine setup) c.id most)
      (continueFor (Ink.engine setup) c.id' most) := by
  have hunpause : Act.Agree c.Alike c.Fault (fun r q => r.outline = q.outline) (unpause c.id)
      (unpause c.id') :=
    Act.agree_bind agree_session fun _ _ _ => Act.agree_bind (agree_record hd) fun _ _ hrq =>
      Act.agree_bind (agree_change (fun _ => rfl) fun _ => rfl) fun _ _ _ => Act.agree_pure hrq
  refine Act.agree_bind hunpause fun r q hrq => ?_
  have hsteps : r.steps = q.steps := (Record.outline_eq_iff.mp hrq).2.2.2.2.1
  cases most.toNat with
  | zero => exact Act.agree_pure (by rw [hsteps])
  | succ n =>
      refine Act.agree_bind (agree_step setup hs hd) fun o o' ho => ?_
      subst ho
      exact agree_steps setup hs hd n o

/-! ## Looking at a record -/

theorem latest_outline (r : Record) (n : Int) :
    (r.latest n).map (fun v => { v with time := 0 }) = r.outline.latest n := by
  rw [Record.latest, Record.latest]
  split
  · rfl
  · simp only [Record.outline, List.map_drop, List.length_map]

theorem agree_inspect (hd : c.debugging = true) :
    Act.Agree c.Alike c.Fault c.Answer (inspect (Ink.engine setup) c.id)
      (inspect (Ink.engine setup) c.id') := by
  refine Act.agree_bind agree_session fun x y hp => Act.agree_bind (agree_record hd)
    fun r q hrq => ?_
  have hvisits : (r.latest recentVisits).map (fun v => Json.obj v.summary) =
      (q.latest recentVisits).map fun v => .obj v.summary := by
    have hlatest : ∀ r : Record, (r.latest recentVisits).map (fun v => Json.obj v.summary) =
        (r.outline.latest recentVisits).map fun v => .obj v.summary := by
      intro r
      rw [← latest_outline, List.map_map]
      rfl
    rw [hlatest r, hlatest q, hrq]
  obtain ⟨-, hbreakpoints, hwatches, htrace, hsteps, hpaused, hlast, -⟩ :=
    Record.outline_eq_iff.mp hrq
  have hlength : r.trace.length = q.trace.length := by
    simpa using congrArg List.length htrace
  rw [hwatches, hlast, hsteps, hpaused, hbreakpoints, hlength, hvisits]
  refine Act.agree_bind (agree_readVariables setup hp _) fun values values' hvalues =>
    Act.agree_bind (Act.agree_ofExcept (Act.related_refl fault_refl (fun _ => rfl) _))
      fun text text' htext => ?_
  rw [hvalues, htext]
  exact Act.agree_pure (answer_named _)

/-- The times of a trace are not compared. -/
theorem agree_trace (hd : c.debugging = true) (n : Int) :
    Act.Agree c.Alike c.Fault
      (fun v w => (Json.obj [("trace", v)]).timeless = (Json.obj [("trace", w)]).timeless)
      (trace c.id n) (trace c.id' n) := by
  refine Act.agree_bind (agree_record hd) fun r q hrq => Act.agree_pure ?_
  have hentries : ∀ r : Record, ((r.latest n).map Visit.toJson).map Json.entry =
      (r.outline.latest n).map fun v => .obj v.summary := by
    intro r
    rw [← latest_outline, List.map_map, List.map_map]
    rfl
  have htimeless : ∀ r : Record,
      (Json.obj [("trace", .arr ((r.latest n).map Visit.toJson))]).timeless =
        .obj [("trace", .arr ((r.outline.latest n).map fun v => .obj v.summary))] := by
    intro r
    rw [← hentries]
    rfl
  rw [htimeless, htimeless, hrq]

end Debugging

end Comparison

/-! ## Requests -/

namespace Request

/-- The session that a request works on, if it works on one that is there. -/
def session? : Request → Option String
  | .choose id .. | .continueStory id | .getVariable id _ | .setVariable id .. | .saveState id
  | .loadState id _ | .resetStory id | .evaluateFunction id .. | .getGlobalTags id | .endSession id
  | .startDebug id | .addBreakpoint id .. | .removeBreakpoint id _ | .listBreakpoints id
  | .debugStep id | .debugContinue id _ | .addWatch id _ | .removeWatch id _ | .debugInspect id
  | .debugTrace id _ | .endDebug id => some id
  | _ => none

/-- Whether a request is about debugging. -/
def debugs : Request → Bool
  | .startDebug _ | .addBreakpoint .. | .removeBreakpoint .. | .listBreakpoints _ | .debugStep _
  | .debugContinue .. | .addWatch .. | .removeWatch .. | .debugInspect _ | .debugTrace ..
  | .endDebug _ => true
  | _ => false

/-- Whether a request depends on the debug record that is there. -/
def recalls : Request → Bool
  | .startDebug _ => false
  | r => r.debugs

/-- The request made of another session. -/
def named (id : String) : Request → Request
  | .startStory source _ => .startStory source (some id)
  | .startStoryJson json _ state => .startStoryJson json (some id) state
  | .choose _ choice continues => .choose id choice continues
  | .continueStory _ => .continueStory id
  | .getVariable _ name => .getVariable id name
  | .setVariable _ name v => .setVariable id name v
  | .saveState _ => .saveState id
  | .loadState _ state => .loadState id state
  | .resetStory _ => .resetStory id
  | .evaluateFunction _ function arguments => .evaluateFunction id function arguments
  | .getGlobalTags _ => .getGlobalTags id
  | .endSession _ => .endSession id
  | .startDebug _ => .startDebug id
  | .addBreakpoint _ type target => .addBreakpoint id type target
  | .removeBreakpoint _ breakpoint => .removeBreakpoint id breakpoint
  | .listBreakpoints _ => .listBreakpoints id
  | .debugStep _ => .debugStep id
  | .debugContinue _ most => .debugContinue id most
  | .addWatch _ name => .addWatch id name
  | .removeWatch _ name => .removeWatch id name
  | .debugInspect _ => .debugInspect id
  | .debugTrace _ n => .debugTrace id n
  | .endDebug _ => .endDebug id
  | r => r

/-- An answer to the request without times. -/
def untimed : Request → Json → Json
  | .debugTrace .., v => v.timeless
  | _, v => v

/-- What is known of the values that a request sets. -/
def Sets (settable : Json → Prop) : Request → Prop
  | .setVariable _ _ v => settable v
  | _ => True

end Request

namespace Comparison

variable {c : Comparison} (setup : Ink.Setup) (traceLimit : Option Int)
variable (author : Option Author.Settings) {settable : Json → Prop}

theorem answer_told {told told' : Continuation} (h : told = told') :
    c.Answer (told.toJson c.id) (told'.toJson c.id') :=
  h ▸ answer_named _

/-- A choice is taken alike. -/
theorem agree_choose (hs : Ink.Story.Stays c.known settable) (choice : Int) (continues : Bool)
    (n m : StoryId) : Act.Agree (c.Same n m) c.Fault (· = ·)
      ((Ink.toolbox setup traceLimit author).choose choice continues n)
      ((Ink.toolbox setup traceLimit author).choose choice continues m) := by
  refine Act.agree_bind (agree_choices setup) fun choices choices' hchoices => ?_
  subst hchoices
  dsimp only
  split
  · exact Act.agree_throw_bind (fault_refl _) _ _
  · refine Act.agree_bind (agree_story _ (hs.choose choice)) fun _ _ _ => ?_
    split
    · exact agree_story _ hs.continueStory
    · refine Act.agree_bind (agree_canContinue setup) fun can can' hcan =>
        Act.agree_bind (agree_choices setup) fun left left' hleft => ?_
      exact Act.agree_pure (by rw [hcan, hleft])

/-- A request that neither starts nor ends a session. -/
theorem answer_alike (hs : Ink.Story.Stays c.known settable) (hv : ∀ v, c.saved v v) {r : Request}
    (hid : r.session? = some c.id) (haside : r.isAside = true) (hset : r.Sets settable)
    (hd : r.recalls = true → c.debugging = true) :
    Act.Agree c.Alike c.Fault (fun v w => c.Answer (r.untimed v) (r.untimed w))
      ((Ink.toolbox setup traceLimit author).answer r)
      ((Ink.toolbox setup traceLimit author).answer (r.named c.id')) := by
  cases r with
  | startStory | startStoryJson | compileInk | listSessions | bidify | stripBidi | bidifyJson
  | llmChat | generateInk | reviewInk | translateInkHebrew | generateCompilePlay | modelInfo =>
      cases hid
  | endSession => cases haside
  | choose id choice continues =>
      obtain rfl := Option.some.inj hid
      exact Act.agree_bind (agree_withStory (agree_choose setup traceLimit author hs choice
        continues)) fun _ _ h => Act.agree_pure (answer_told h)
  | continueStory id =>
      obtain rfl := Option.some.inj hid
      exact Act.agree_bind (agree_withStory fun _ _ => agree_story _ hs.continueStory) fun _ _ h =>
        Act.agree_pure (answer_told h)
  | getVariable id name =>
      obtain rfl := Option.some.inj hid
      exact Act.agree_bind (agree_withStory fun _ _ => agree_getVariable setup name) fun _ _ h =>
        Act.agree_pure (answer_refl (by rw [h]))
  | setVariable id name v =>
      obtain rfl := Option.some.inj hid
      exact Act.agree_bind (agree_withStory fun _ _ => agree_story _ (hs.setVariable name hset))
        fun _ _ _ => Act.agree_pure (answer_refl rfl)
  | saveState id =>
      obtain rfl := Option.some.inj hid
      refine Act.agree_bind (agree_withStory fun _ _ => agree_saveState setup) fun v w h => ?_
      subst h
      exact Act.agree_bind (agree_keepState hv v) fun _ _ _ => Act.agree_pure (answer_named _)
  | loadState id state =>
      obtain rfl := Option.some.inj hid
      exact Act.agree_bind (agree_withStory fun _ _ => agree_story _ (hs.loadState state))
        fun _ _ _ => Act.agree_pure (answer_named_second _)
  | resetStory id =>
      obtain rfl := Option.some.inj hid
      exact Act.agree_bind (agree_withStory fun _ _ => Act.agree_bind (agree_story _ hs.reset)
        fun _ _ _ => agree_story _ hs.continueStory) fun _ _ h => Act.agree_pure (answer_told h)
  | evaluateFunction id function arguments =>
      obtain rfl := Option.some.inj hid
      refine Act.agree_bind (agree_withStory fun _ _ => agree_evaluate setup function arguments)
        fun v w h => ?_
      subst h
      exact Act.agree_bind (Act.agree_ofExcept (Act.related_refl fault_refl (fun _ => rfl) _))
        fun _ _ h => Act.agree_pure (answer_refl (by rw [h]))
  | getGlobalTags id =>
      obtain rfl := Option.some.inj hid
      exact Act.agree_bind (agree_withStory fun _ _ => agree_globalTags setup) fun _ _ h =>
        Act.agree_pure (answer_refl (by rw [h]))
  | startDebug id =>
      obtain rfl := Option.some.inj hid
      exact agree_start _
  | addBreakpoint id type target =>
      obtain rfl := Option.some.inj hid
      exact Act.agree_bind (agree_addBreakpoint (hd rfl) type target) fun _ _ h =>
        Act.agree_pure (answer_refl (by rw [h]))
  | removeBreakpoint id breakpoint =>
      obtain rfl := Option.some.inj hid
      exact Act.agree_bind (agree_removeBreakpoint (hd rfl) breakpoint) fun _ _ h =>
        Act.agree_pure (answer_refl (by rw [h]))
  | listBreakpoints id =>
      obtain rfl := Option.some.inj hid
      exact Act.agree_bind (agree_breakpoints (hd rfl)) fun _ _ h =>
        Act.agree_pure (answer_refl (by rw [h]))
  | debugStep id =>
      obtain rfl := Option.some.inj hid
      exact Act.agree_bind (agree_step setup hs (hd rfl)) fun _ _ h =>
        Act.agree_pure (answer_refl (by rw [h]))
  | debugContinue id most =>
      obtain rfl := Option.some.inj hid
      exact Act.agree_bind (agree_continueFor setup hs (hd rfl) most) fun _ _ h =>
        Act.agree_pure (answer_refl (by rw [h]))
  | addWatch id name =>
      obtain rfl := Option.some.inj hid
      exact Act.agree_bind (agree_addWatch setup (hd rfl) name) fun _ _ h =>
        Act.agree_pure (answer_refl (by rw [h]))
  | removeWatch id name =>
      obtain rfl := Option.some.inj hid
      exact Act.agree_bind (agree_removeWatch (hd rfl) name) fun _ _ h =>
        Act.agree_pure (answer_refl (by rw [h]))
  | debugInspect id =>
      obtain rfl := Option.some.inj hid
      exact agree_inspect setup (hd rfl)
  | debugTrace id n =>
      obtain rfl := Option.some.inj hid
      exact Act.agree_bind (agree_trace (hd rfl) n) fun _ _ h => Act.agree_pure (answer_refl h)
  | endDebug id =>
      obtain rfl := Option.some.inj hid
      refine Act.agree_bind (agree_stop (hd rfl)) fun ended ended' h => ?_
      subst h
      exact Act.agree_pure (answer_named_second _)

end Comparison

end StoryServer
