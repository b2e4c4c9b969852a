import StoryServer.Proofs.Ink.Ahead
import StoryServer.Proofs.Ink.Raising

/-!
# A story stays in its program

A story stands at a place in its program (`Program.Place`), and every choice on offer leads to a
knot or to an end.  With the names of its variables, which are texts, this is `Story.Within`.
Everything that is done to the story keeps it so, and no key is missing then (`confined_act`).

*Restoring.*  A state may name any place, so this holds of restoring only where the text was saved
by a story that is itself within the program.  Of these texts the saved ones are some: their story
has restored only such texts before, so it is within the program in its turn (`saved_within`).

*Confined.*  `Act.Confined P F` says of an action that it keeps `P` and fails only with faults of
which `F` holds, from a state of which `P` holds.  The rules follow the ways to build an action.
-/

namespace StoryServer

/-! ## Confined actions -/

namespace Act

section Confined

variable {σ α β : Type} {P : σ → Prop} {F : Fault → Prop}

/-- From a state of which `P` holds the action ends in one, and its faults are those of which `F`
holds. -/
def Confined (P : σ → Prop) (F : Fault → Prop) (act : Act σ α) : Prop :=
  ∀ s, P s → P (act.on s).2 ∧ StoryServer.Raises F (act.on s).1

theorem confined_pure (a : α) : Confined P F (pure a : Act σ α) := fun _ hs => ⟨hs, raises_ok a⟩

theorem confined_throw {f : Fault} (h : F f) : Confined P F (throw f : Act σ α) :=
  fun _ hs => ⟨hs, raises_error h⟩

theorem confined_set {t : σ} (h : P t) : Confined P F (set t : Act σ PUnit) :=
  fun _ _ => ⟨h, raises_ok _⟩

theorem confined_modify {g : σ → σ} (h : ∀ s, P s → P (g s)) :
    Confined P F (modify g : Act σ PUnit) := fun s hs => ⟨h s hs, raises_ok _⟩

theorem Confined.mono {F' : Fault → Prop} {act : Act σ α} (h : Confined P F act)
    (hF : ∀ f, F f → F' f) : Confined P F' act := fun s hs =>
  ⟨(h s hs).1, (h s hs).2.mono hF⟩

theorem confined_bind {act : Act σ α} {next : α → Act σ β} (h : Confined P F act)
    (hn : ∀ a, Confined P F (next a)) : Confined P F (act >>= next) := by
  intro s hs
  obtain ⟨hafter, hraises⟩ := h s hs
  rw [on_bind]
  generalize act.on s = run at hafter hraises
  obtain ⟨r, t⟩ := run
  cases r with
  | ok a => exact hn a t hafter
  | error f => exact ⟨hafter, raises_error (hraises f rfl)⟩

/-- The rest may rely on what is known of the state that was read. -/
theorem confined_get_bind {next : σ → Act σ α} (h : ∀ s, P s → Confined P F (next s)) :
    Confined P F (get >>= next) := by
  intro s hs
  rw [on_bind, on_get]
  exact h s hs s hs

theorem confined_ofExcept {r : Except Fault α} (h : StoryServer.Raises F r) :
    Confined P F (ofExcept r : Act σ α) := by
  intro s hs
  rw [on_ofExcept]
  exact ⟨hs, h⟩

/-- The rest may rely on the answer. -/
theorem confined_ofExcept_bind {r : Except Fault α} {next : α → Act σ β}
    (h : StoryServer.Raises F r) (hn : ∀ a, r = .ok a → Confined P F (next a)) :
    Confined P F (ofExcept r >>= next) := by
  cases r with
  | ok a => exact hn a rfl
  | error f => exact confined_throw (h f rfl)

theorem confined_discard {act : Act σ α} (h : Confined P F act) : Confined P F (discard act) := by
  intro s hs
  obtain ⟨hafter, hraises⟩ := h s hs
  rw [on_discard]
  refine ⟨hafter, fun f hf => hraises f ?_⟩
  cases hr : (act.on s).1 with
  | ok a => rw [hr] at hf; cases hf
  | error g => rw [hr] at hf; exact congrArg _ (Except.error.inj hf)

end Confined

end Act

/-! ## Keys -/

/-- Whether a fault is that of a missing key. -/
def Fault.ofKey : Fault → Bool
  | .missingKey _ => true
  | _ => false

/-- Any other fault. -/
abbrev Fault.Keyless (f : Fault) : Prop := f.ofKey = false

/-- Only a missing key is reported under its name. -/
theorem Fault.Keyless.kind_ne {f : Fault} (h : f.Keyless) : f.kind ≠ "KeyError" := by
  intro hkind
  cases f with
  | missingKey key => cases h
  | misuse m =>
      rw [kind] at hkind
      split at hkind <;> simp at hkind
  | pattern d => cases d <;> simp [kind] at hkind
  | wait d => cases d <;> simp [kind] at hkind
  | chatStatus status message =>
      rw [kind] at hkind
      split at hkind <;> simp at hkind
  | _ => simp [kind] at hkind

theorem Fault.OfValue.keyless {f : Fault} (h : f.OfValue) : f.Keyless := by
  cases f with
  | missingKey key => cases h
  | _ => rfl

namespace Ink

/-- None of the functions fails for want of a key. -/
def Functions.Keyless (functions : Functions) : Prop :=
  ∀ name function, functions name = some function →
    ∀ arguments, Raises Fault.Keyless (function arguments)

theorem Functions.Keyless.call {functions : Functions} (h : functions.Keyless) (name : String)
    (arguments : List Json) : Raises Fault.Keyless (functions.call name arguments) :=
  raises_call h (fun _ => rfl) name arguments

theorem Functions.keyless_sample : sample.Keyless := fun _ _ h arguments =>
  (raises_sample h arguments).mono fun _ => Fault.OfValue.keyless

/-! ## Well-formed programs -/

/-- All names are texts. -/
def Variables.Named (bindings : Variables) : Prop := ∀ p ∈ bindings, ∃ name, p.1 = .str name

theorem Variables.Named.put {bindings : Variables} (h : bindings.Named) (name : String) (v : Json) :
    (bindings.put (.str name) v).Named := by
  intro p hp
  obtain ⟨hname | ⟨q, hq, hname⟩, -⟩ := mem_put hp
  · exact ⟨name, hname⟩
  · rw [← hname]
    exact h q hq

theorem Knots.mem_start {knots : Knots} {knot : String} (h : knot ∈ knots.map Prod.fst)
    (new : String) : knot ∈ (knots.start new).map Prod.fst := by
  induction knots with
  | nil => cases h
  | cons k rest ih =>
      obtain ⟨name, body⟩ := k
      rw [start]
      rcases List.mem_cons.mp h with rfl | hmem
      · split <;> exact List.mem_cons_self
      · split
        · exact List.mem_cons_of_mem _ hmem
        · exact List.mem_cons_of_mem _ (ih hmem)

theorem Knots.mem_append {knots : Knots} {knot : String} (h : knot ∈ knots.map Prod.fst)
    (last : String) (i : Instruction) : knot ∈ (knots.append last i).map Prod.fst := by
  induction knots with
  | nil => cases h
  | cons k rest ih =>
      obtain ⟨name, body⟩ := k
      rw [append]
      rcases List.mem_cons.mp h with rfl | hmem
      · split <;> exact List.mem_cons_self
      · split
        · exact List.mem_cons_of_mem _ hmem
        · exact List.mem_cons_of_mem _ (ih hmem)

theorem Knots.exists_body {knots : Knots} {knot : String} (h : knot ∈ knots.map Prod.fst) :
    ∃ body, knots.lookup knot = some body := by
  induction knots with
  | nil => cases h
  | cons k rest ih =>
      obtain ⟨name, body⟩ := k
      rw [List.lookup_cons]
      rcases List.mem_cons.mp h with rfl | hmem
      · exact ⟨body, by simp⟩
      · split
        · exact ⟨body, rfl⟩
        · exact ih hmem

namespace Program

/-- What is known of a program that was read without errors. -/
structure Formed (p : Program) : Prop where
  whole : p.Whole
  root : ∃ body, p.body? rootKnot = some body
  named : p.bindings.Named

theorem formed_of_parse {source : String} {p : Program} (h : parse source = .ok p)
    (he : p.errors = []) : p.Formed where
  whole := whole_of_parse h he
  root := by
    refine Knots.exists_body (kept_parse (P := fun knots _ => rootKnot ∈ knots.map Prod.fst)
      List.mem_cons_self (fun hline hd => ?_) h)
    obtain ⟨hsame | ⟨knot, hstart⟩ | ⟨knot, i, happend⟩, -⟩ := addLine_cases hline
    · rwa [hsame]
    · rw [hstart]
      exact Knots.mem_start hd knot
    · rw [happend]
      exact Knots.mem_append hd knot i
  named := declared_parse (P := Variables.Named) nofun (fun hb _ name => hb.put name _) h

end Program

/-- A choice that leads to a knot of the program or to an end. -/
def Offer.Leads (p : Program) (o : Offer) : Prop :=
  ∃ text target, o = .option text target ∧ p.hasTarget target = true

/-! ## Stories within their program -/

namespace Story

/-- A story that stands in its program and offers what leads there. -/
structure Within (p : Program) (s : Story) : Prop where
  program : s.program = p
  named : s.bindings.Named
  place : p.Place s.cursor
  offers : ∀ o ∈ s.offers, o.Leads p

variable {p : Program} {s t : Story}

theorem place_root (h : p.Formed) : p.Place (.at rootKnot 0) := by
  obtain ⟨body, hbody⟩ := h.root
  exact Program.place_start hbody

theorem within_start (h : p.Formed) : Within p (start p) where
  program := rfl
  named := h.named
  place := place_root h
  offers _ ho := nomatch ho

theorem Within.firm (h : Within p s) : s.program.Firm s.cursor := h.program ▸ h.place.firm

theorem Within.found (h : Within p s) :
    Raises Fault.Keyless (s.program.instructionAt s.cursor) := by
  obtain ⟨i, hi⟩ := h.firm.found
  rw [hi]
  exact raises_ok i

theorem Within.peek (hw : p.Whole) (h : Within p s) : Raises Fault.Keyless s.peek := by
  intro f hf
  obtain ⟨rfl, -⟩ := Program.peekFrom_fault (h.program ▸ hw) h.firm hf
  rfl

theorem Within.choices (h : Within p s) : Raises Fault.Keyless s.choices := by
  have hoptions : ∀ o ∈ s.offers, ∃ text target, o = .option text target := by
    intro o ho
    obtain ⟨text, target, rfl, -⟩ := h.offers o ho
    exact ⟨text, target, rfl⟩
  obtain ⟨choices, hchoices⟩ := choicesFrom_options hoptions 0
  rw [Story.choices, hchoices]
  exact raises_ok choices

theorem Within.lineAt (h : Within p s) : Raises Fault.Keyless s.lineAt := by
  refine raises_bind h.found fun i => ?_
  split <;> exact raises_ok _

/-- The choices that stand where a story is lead to knots and ends. -/
theorem Within.offersHere (hw : p.Whole) (h : Within p s) : ∀ o ∈ s.offersHere, o.Leads p := by
  intro o ho
  have hplace := h.place
  rw [Story.offersHere] at ho
  cases hc : s.cursor with
  | ended => rw [hc] at ho; cases ho
  | stray cells => rw [hc] at hplace; cases hplace
  | «at» knot index =>
      rw [hc] at ho hplace
      cases hplace with
      | @inside _ body index hbody _ =>
          have hnonneg : ¬ (index : Int) < 0 := Int.not_lt.mpr (Int.natCast_nonneg index)
          dsimp only at ho
          rw [h.program, hbody, Option.getD_some, offersAt, if_neg hnonneg] at ho
          obtain ⟨text, target, rfl, hmem⟩ := option_of_mem_leadingOffers ho
          exact ⟨text, target, rfl, hw _ body hbody _ (List.mem_of_mem_drop hmem) target rfl⟩

/-! ### Operations -/

open Act

theorem confined_requireOpen : Confined (Within p) Fault.Keyless requireOpen := by
  refine confined_get_bind fun s _ => ?_
  split
  · exact confined_throw rfl
  · exact confined_pure _

theorem confined_settleFrom (hw : p.Whole) (n : Nat) :
    Confined (Within p) Fault.Keyless (settleFrom n) := by
  induction n with
  | zero => exact confined_throw rfl
  | succ n ih =>
      rw [settleFrom]
      refine confined_get_bind fun s hs => confined_ofExcept_bind hs.found fun i hi => ?_
      cases i with
      | none => exact confined_pure _
      | some i =>
          have hplace : p.instructionAt s.cursor = .ok (some i) := hs.program ▸ hi
          cases i with
          | text text tags => exact confined_pure _
          | choice text target =>
              exact confined_set ⟨hs.program, hs.named, hs.place, hs.offersHere hw⟩
          | assign name expression =>
              have hvalue := (s.raises_evaluate expression).mono fun _ => Fault.OfValue.keyless
              refine confined_ofExcept_bind hvalue fun v _ => confined_bind (confined_set ?_) fun _ => ih
              exact ⟨hs.program, hs.named.put name v, hs.place.next hplace, hs.offers⟩
          | divert target =>
              have htarget : p.hasTarget target = true :=
                hw.hasTarget hs.place.firm.sound hplace rfl
              refine confined_bind (confined_set ?_) fun _ => ih
              exact ⟨hs.program, hs.named, Program.place_ofTarget htarget, hs.offers⟩

theorem confined_settle (hw : p.Whole) : Confined (Within p) Fault.Keyless settle := by
  refine confined_bind (confined_modify fun s hs => ?_) fun _ => confined_settleFrom hw _
  exact ⟨hs.program, hs.named, hs.place, fun _ ho => nomatch ho⟩

theorem confined_continueLine (hw : p.Whole) : Confined (Within p) Fault.Keyless continueLine := by
  refine confined_bind confined_requireOpen fun _ => confined_bind (confined_settle hw) fun _ =>
    confined_get_bind fun s hs => confined_ofExcept_bind hs.lineAt fun line hline => ?_
  cases line with
  | none => exact confined_ofExcept_bind hs.choices fun _ _ => confined_pure _
  | some line =>
      have hplace : p.instructionAt s.cursor = .ok (some (.text line.1 line.2)) :=
        hs.program ▸ instructionAt_of_lineAt hline
      refine confined_bind (confined_set ?_) fun _ => confined_get_bind fun t ht =>
        confined_ofExcept_bind (ht.peek hw) fun can _ => ?_
      · exact ⟨hs.program, hs.named, hs.place.next hplace, hs.offers⟩
      · cases can with
        | true => exact confined_bind (confined_pure _) fun _ => confined_pure _
        | false =>
            exact confined_bind (confined_settle hw) fun _ => confined_get_bind fun u hu =>
              confined_ofExcept_bind hu.choices fun _ _ => confined_pure _

theorem confined_continueFrom (hw : p.Whole) (n : Nat) (told : String) (tags : List Json)
    (can : Bool) : Confined (Within p) Fault.Keyless (continueFrom n told tags can) := by
  induction n generalizing told tags can with
  | zero => exact confined_throw rfl
  | succ n ih =>
      rw [continueFrom]
      refine confined_get_bind fun s hs => confined_ofExcept_bind (hs.peek hw) fun more _ => ?_
      cases more with
      | true => exact confined_bind (confined_continueLine hw) fun c => ih _ _ _
      | false =>
          exact confined_get_bind fun t ht => confined_ofExcept_bind ht.choices fun _ _ =>
            confined_pure _

theorem confined_continueStory (hw : p.Whole) : Confined (Within p) Fault.Keyless continueStory :=
  confined_bind confined_requireOpen fun _ => confined_get_bind fun _ hs =>
    confined_ofExcept_bind hs.choices fun _ _ => confined_continueFrom hw _ _ _ _

theorem confined_choose (index : Int) : Confined (Within p) Fault.Keyless (choose index) := by
  refine confined_bind confined_requireOpen fun _ => confined_get_bind fun s hs => ?_
  split
  · next o ho _ =>
    obtain ⟨text, target, rfl, htarget⟩ := hs.offers o (List.mem_of_getElem? ho)
    refine confined_ofExcept_bind (raises_ok _) fun c hc => confined_set ?_
    obtain rfl := Except.ok.inj hc
    exact ⟨hs.program, hs.named, Program.place_ofTarget htarget, fun _ ho => nomatch ho⟩
  · exact confined_throw rfl

theorem confined_setVariable (name : String) (v : Json) :
    Confined (Within p) Fault.Keyless (setVariable name v) := by
  refine confined_bind confined_requireOpen fun _ => confined_get_bind fun s hs => ?_
  split
  · exact confined_throw rfl
  · exact confined_set ⟨hs.program, hs.named.put name v, hs.place, hs.offers⟩

theorem confined_reset (h : p.Formed) : Confined (Within p) Fault.Keyless reset := by
  refine confined_bind confined_requireOpen fun _ => confined_modify fun s hs => ?_
  have hnamed : s.program.bindings.Named := hs.program ▸ h.named
  exact ⟨hs.program, hnamed, place_root h, fun _ ho => nomatch ho⟩

/-- A text that a story within the program saves. -/
def SavedWithin (p : Program) (text : String) : Prop :=
  ∃ t : Story, Within p t ∧ t.Sound ∧ (saveState.on t).1 = .ok text

theorem confined_loadState {text : String} (h : SavedWithin p text) :
    Confined (Within p) Fault.Keyless (loadState text) := by
  obtain ⟨t, ht, hsound, hsave⟩ := h
  intro s hs
  cases ho : s.closed with
  | true =>
      have hclosed : requireOpen.on s = (.error .closedStory, s) := by
        rw [requireOpen_on, ho]
        rfl
      rw [loadState, on_bind_of_error hclosed]
      exact ⟨hs, raises_error rfl⟩
  | false =>
      have htext : writeJson .ascii t.stateJson = .ok text := by
        cases hto : t.closed with
        | true =>
            rw [saveState, on_bind, requireOpen_on, hto] at hsave
            cases hsave
        | false =>
            rw [saveState_on hto] at hsave
            exact hsave
      rw [loadState_saved hsound ht.named htext ho]
      exact ⟨⟨hs.program, ht.named, ht.place, ht.offers⟩, raises_ok _⟩

/-- **Every operation keeps a story within its program, and finds every key.**  A function that is
called may fail in its own way. -/
theorem confined_act (h : p.Formed) {F : Fault → Prop} (hF : ∀ f, Fault.Keyless f → F f)
    (o : Operation) (hload : ∀ text, o = .loadState text → SavedWithin p text)
    (hcall : ∀ functions name arguments, o = .call functions name arguments →
      Raises F (functions.call name arguments)) : Confined (Within p) F o.act := by
  have hw := h.whole
  have keyless {act : Act Story Unit} (hact : Confined (Within p) Fault.Keyless act) :
      Confined (Within p) F act := hact.mono hF
  cases o with
  | continueStory => exact keyless (confined_discard (confined_continueStory hw))
  | continueLine => exact keyless (confined_discard (confined_continueLine hw))
  | canContinue =>
      exact keyless (confined_discard (confined_bind confined_requireOpen fun _ =>
        confined_get_bind fun s hs => confined_ofExcept (hs.peek hw)))
  | choose index => exact keyless (confined_choose index)
  | choices =>
      exact keyless (confined_discard (confined_bind confined_requireOpen fun _ =>
        confined_get_bind fun s hs => confined_ofExcept hs.choices))
  | getVariable name =>
      exact keyless (confined_discard (confined_bind confined_requireOpen fun _ =>
        confined_get_bind fun s hs => confined_pure _))
  | setVariable name v hv => exact keyless (confined_setVariable name v)
  | saveState =>
      exact keyless (confined_discard (confined_bind confined_requireOpen fun _ =>
        confined_get_bind fun s hs => confined_ofExcept
          ((raises_writeJson _ _).mono fun _ => Fault.OfValue.keyless)))
  | loadState text => exact keyless (confined_loadState (hload text rfl))
  | reset => exact keyless (confined_reset h)
  | call functions name arguments =>
      exact confined_discard (confined_bind (confined_requireOpen.mono hF) fun _ =>
        confined_ofExcept (hcall functions name arguments rfl))
  | globalTags =>
      exact keyless (confined_discard (confined_bind confined_requireOpen fun _ =>
        confined_get_bind fun s hs => confined_pure _))
  | close => exact keyless (confined_modify fun s hs => ⟨hs.program, hs.named, hs.place, hs.offers⟩)

/-! ### Runs -/

theorem Within.after (h : p.Formed) {operations : List Operation} (hs : Within p s)
    (hloads : ∀ text, .loadState text ∈ operations → SavedWithin p text) :
    Within p (s.after operations) := by
  induction operations generalizing s with
  | nil => exact hs
  | cons o rest ih =>
      have hload : ∀ text, o = .loadState text → SavedWithin p text :=
        fun text ho => hloads text (ho ▸ List.mem_cons_self)
      have hstep := confined_act h (F := fun _ => True) (fun _ _ => trivial) o hload
        (fun _ _ _ _ _ _ => trivial) s hs
      exact ih hstep.1 fun text hmem =>
        hloads text (List.mem_cons_of_mem o hmem)

variable {source : String}

/-- A saved text was saved by a story within the program. -/
theorem saved_within (hparse : Program.parse source = .ok p) (h : p.Formed) {text : String}
    (hsaves : p.Saves text) : SavedWithin p text := by
  induction hsaves with
  | mk operations _ hsave ih =>
      exact ⟨_, (within_start h).after h ih, sound_after hparse operations, hsave⟩

/-- **A story never leaves its program.**  A story of a source without errors, after any operations
of which those that restore a state restore one that a story of the source has saved:  it stands at
an end, or in a knot that exists at an index not beyond its end; every choice on offer leads to a
knot that exists or to an end; and no such operation fails for want of a key, unless it calls a
function that does. -/
theorem stays_within (hparse : Program.parse source = .ok p) (herrors : p.errors = [])
    (operations : List Operation)
    (hloads : ∀ text, .loadState text ∈ operations → p.Saves text) :
    let s := (start p).after operations
    p.Place s.cursor ∧ (∀ o ∈ s.offers, o.Leads p) ∧
      ∀ o : Operation, (∀ text, o = .loadState text → p.Saves text) →
        (∀ functions name arguments, o = .call functions name arguments → functions.Keyless) →
        ∀ f, (o.act.on s).1 = .error f → f.kind ≠ "KeyError" := by
  intro s
  have hformed : p.Formed := Program.formed_of_parse hparse herrors
  have hwithin : Within p s := (within_start hformed).after hformed fun text hmem =>
    saved_within hparse hformed (hloads text hmem)
  refine ⟨hwithin.place, hwithin.offers, fun o hload hcall f hf => ?_⟩
  have hconfined := confined_act hformed (F := Fault.Keyless) (fun _ hf => hf) o
    (fun text ho => saved_within hparse hformed (hload text ho))
    fun functions name arguments ho => (hcall functions name arguments ho).call name arguments
  have hkeyless : f.Keyless := (hconfined s hwithin).2 f hf
  exact hkeyless.kind_ne

/-- A story that is restored to a knot that it has not come to. -/
theorem stays_within_restored :
    let source := "A\n* [go] -> K\n+ [stay]\n=== K ===\nB\n-> END"
    let p : Program :=
      ⟨[("", [.text "A" [], .choice "go" "K", .choice "stay" ""]),
        ("K", [.text "B" [], .divert "END"])], [], [], []⟩
    let text := "\x7b\"pc\": [\"K\", 0], \"variables\": \x7b\x7d, \"choices\": []\x7d"
    let s := (start p).after [.continueStory, .loadState text]
    (Program.parse source = .ok p ∧ p.errors = [] ∧ p.Saves text ∧ s.cursor = .at "K" 0) ∧
    p.Place s.cursor ∧ (∀ o ∈ s.offers, o.Leads p) ∧
      (∀ f, ((Operation.loadState text).act.on s).1 = .error f → f.kind ≠ "KeyError") ∧
      ∀ f, ((Operation.call .sample "boom" []).act.on s).1 = .error f → f.kind ≠ "KeyError" := by
  intro source p text s
  have hparse : Program.parse source = .ok p := by decide +kernel
  have hcursor : s.cursor = .at "K" 0 := by decide +kernel
  have hsaves : p.Saves text :=
    .mk [.continueStory, .choose 0] (by simp) (by decide +kernel)
  have hloads : ∀ loaded, .loadState loaded ∈ [Operation.continueStory, .loadState text] →
      p.Saves loaded := by
    intro loaded hmem
    obtain rfl : loaded = text := by simpa using hmem
    exact hsaves
  obtain ⟨hplace, hoffers, hkeys⟩ :=
    stays_within hparse rfl [.continueStory, .loadState text] hloads
  refine ⟨⟨hparse, rfl, hsaves, hcursor⟩, hplace, hoffers, hkeys _ (fun loaded ho => ?_) nofun,
    hkeys _ nofun fun functions name arguments ho => ?_⟩
  · obtain rfl := Operation.loadState.inj ho
    exact hsaves
  · obtain ⟨rfl, -, -⟩ := Operation.call.inj ho
    exact Functions.keyless_sample

end Story

end Ink

end StoryServer
