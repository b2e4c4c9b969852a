import StoryServer.Proofs.Ink.Frame
import StoryServer.Proofs.Ink.Walk

/-!
# Where a story stands by itself

A story that was never restored stands at an end or at a place counted from the beginning of a
knot, and on offer is what stands there or nothing (`Story.Settled`).  Everything that is done to
a story but restoring it keeps it so (`Stays.settled`).

*Stands.*  Where such a story halts, it is over, or it has come to a run of choices.
`Program.Stand` says which, with the whole run.

*Telling.*  Continuing such a story tells what stands on the way to its stand and lists the
choices there, with one exception (`Story.Continues`).  Where nothing is on offer and no text comes
before the stand, it tells nothing and lists nothing: the way is only looked at and not gone, so
a run of choices at its end is not found.
-/

namespace StoryServer

namespace Ink

/-! ## Stands -/

/-- A choice as a story offers it. -/
def offered (o : String × String) : Offer := .option o.1 o.2

/-- Choices as a continuation lists them. -/
def listed (options : List (String × String)) : List Choice :=
  options.zipIdx.map fun o => { index := o.2, text := .str o.1.1 }

/-- The end of a way, and the choices there: none where the story is over or a knot ends, else
the whole run of them. -/
inductive Program.Stand (p : Program) : Cursor → List (String × String) → Prop where
  | ended : Stand p .ended []
  | knotEnd {knot : String} {body : List Instruction} {index : Int}
      (hbody : p.body? knot = some body) (hend : (body.length : Int) ≤ index) :
      Stand p (.at knot index) []
  | choices {knot : String} {before after : List Instruction} {options : List (String × String)}
      (hbody : p.body? knot =
        some (before ++ options.map (fun o => .choice o.1 o.2) ++ after))
      (hsome : options ≠ []) (hafter : ∀ text target, after.head? ≠ some (.choice text target)) :
      Stand p (.at knot before.length) options

/-- A list of instructions begins with a run of choices, and what comes after it is no choice. -/
theorem leadingOffers_run : ∀ body : List Instruction,
    ∃ (options : List (String × String)) (after : List Instruction),
      body = options.map (fun o => Instruction.choice o.1 o.2) ++ after ∧
      leadingOffers body = options.map offered ∧
      ∀ text target, after.head? ≠ some (.choice text target)
  | [] => ⟨[], [], rfl, rfl, fun _ _ h => nomatch h⟩
  | .choice text target :: rest => by
      obtain ⟨options, after, hbody, hoffers, hafter⟩ := leadingOffers_run rest
      refine ⟨(text, target) :: options, after, ?_, ?_, hafter⟩
      · rw [List.map_cons, List.cons_append, ← hbody]
      · rw [leadingOffers, hoffers, List.map_cons, offered]
  | .text text tags :: rest => ⟨[], .text text tags :: rest, rfl, rfl, by simp⟩
  | .assign name expression :: rest => ⟨[], .assign name expression :: rest, rfl, rfl, by simp⟩
  | .divert target :: rest => ⟨[], .divert target :: rest, rfl, rfl, by simp⟩

/-- A choice in a list of instructions, with the run that it begins. -/
theorem run_of_getElem? {body : List Instruction} {n : Nat} {text target : String}
    (h : body[n]? = some (.choice text target)) :
    ∃ (options : List (String × String)) (after : List Instruction),
      body = body.take n ++ options.map (fun o => Instruction.choice o.1 o.2) ++ after ∧
      (body.take n).length = n ∧ options ≠ [] ∧ leadingOffers (body.drop n) = options.map offered ∧
      ∀ text target, after.head? ≠ some (.choice text target) := by
  obtain ⟨hlt, hat⟩ := List.getElem?_eq_some_iff.mp h
  obtain ⟨options, after, hsplit, hoffers, hafter⟩ := leadingOffers_run (body.drop n)
  refine ⟨options, after, ?_, List.length_take_of_le (Nat.le_of_lt hlt), ?_, hoffers, hafter⟩
  · rw [List.append_assoc, ← hsplit, List.take_append_drop]
  · rintro rfl
    have hhead : (body.drop n).head? = some (.choice text target) := by rw [List.head?_drop, h]
    rw [hsplit] at hhead
    exact hafter text target hhead

theorem instructionIn_natCast (body : List Instruction) (n : Nat) :
    instructionIn body n = .ok body[n]? := by
  have hnonneg : ¬ (n : Int) < 0 := Int.not_lt.mpr (Int.natCast_nonneg n)
  rw [instructionIn]
  by_cases hend : (body.length : Int) ≤ n
  · rw [if_pos hend, List.getElem?_eq_none (Int.ofNat_le.mp hend)]
  · simp only [if_neg hend, if_neg hnonneg, Int.toNat_natCast]

theorem choicesFrom_offered : ∀ (options : List (String × String)) (n : Nat),
    Story.choicesFrom n (options.map offered) =
      .ok ((options.zipIdx n).map fun o => { index := o.2, text := .str o.1.1 })
  | [], _ => rfl
  | o :: rest, n => by
      rw [List.map_cons, Story.choicesFrom, choicesFrom_offered rest (n + 1)]
      rfl

/-- A place that a story comes to by itself. -/
def Cursor.Plain : Cursor → Prop
  | .ended => True
  | .at _ index => 0 ≤ index
  | .stray _ => False

namespace Cursor

variable {c : Cursor}

theorem Plain.next (h : c.Plain) : c.next.Plain := by
  cases c with
  | ended => trivial
  | «at» knot index => exact Int.add_nonneg h Int.one_nonneg
  | stray cells => exact h.elim

theorem plain_ofTarget (target : String) : (ofTarget target).Plain := by
  rw [ofTarget]
  split
  · trivial
  · exact Int.le_refl 0

end Cursor

namespace Story

variable {s t u : Story}

/-- Where a story halts that stands at a plain place, and what it may offer there. -/
theorem Stops.stand (h : s.Stops) (hc : s.cursor.Plain) :
    ∃ options, s.program.Stand s.cursor options ∧ s.block = options.map offered := by
  obtain ⟨i, hi, hchoice⟩ := h
  rw [block, hi]
  cases hcursor : s.cursor with
  | stray cells => exact (hcursor ▸ hc : (Cursor.stray cells).Plain).elim
  | ended =>
      rw [hcursor] at hi
      obtain rfl := Except.ok.inj hi
      exact ⟨[], .ended, rfl⟩
  | «at» knot index =>
      rw [hcursor] at hc hi
      obtain ⟨n, rfl⟩ := Int.eq_ofNat_of_zero_le hc
      obtain ⟨body, hcell, hin⟩ := bind_eq_ok.mp hi
      obtain ⟨_, hknot, hbody⟩ := Program.body?_of_bodyAtCell hcell
      obtain rfl := Json.str.inj hknot
      obtain hat := Except.ok.inj ((instructionIn_natCast body n).symm.trans hin)
      cases i with
      | none => exact ⟨[], .knotEnd hbody (Int.ofNat_le.mpr (List.getElem?_eq_none_iff.mp hat)), rfl⟩
      | some j =>
          obtain ⟨text, target, rfl⟩ := hchoice j rfl
          obtain ⟨options, after, hsplit, hlength, hsome, hoffers, hafter⟩ := run_of_getElem? hat
          refine ⟨options, ?_, ?_⟩
          · have hstand := Program.Stand.choices (hbody.trans (congrArg some hsplit)) hsome hafter
            rwa [hlength] at hstand
          · have hnonneg : ¬ (n : Int) < 0 := Int.not_lt.mpr (Int.natCast_nonneg n)
            dsimp only
            rw [offersHere, hcursor]
            dsimp only
            rw [hbody, Option.getD_some, offersAt, if_neg hnonneg, Int.toNat_natCast, hoffers]

/-! ## Settled stories -/

/-- A story at a place of its own, with what stands there on offer, or nothing. -/
structure Settled (s : Story) : Prop where
  cursor : s.cursor.Plain
  offers : s.offers = [] ∨ s.offers = s.block

theorem settled_start (p : Program) : (start p).Settled := ⟨Int.le_refl 0, .inl rfl⟩

/-- Running leaves a story settled, also when it fails on the way. -/
theorem settleFrom_settled : ∀ (n : Nat) {s : Story}, s.cursor.Plain → s.offers = [] →
    ((settleFrom n).on s).2.Settled
  | 0, s, hc, ho => ⟨hc, .inl ho⟩
  | n + 1, s, hc, ho => by
      rw [settleFrom_succ]
      cases hi : s.program.instructionAt s.cursor with
      | error f => exact ⟨hc, .inl ho⟩
      | ok i =>
          cases i with
          | none => exact ⟨hc, .inl ho⟩
          | some i =>
              cases i with
              | text text tags => exact ⟨hc, .inl ho⟩
              | choice text target =>
                  refine ⟨hc, .inr ?_⟩
                  rw [block]
                  dsimp only
                  rw [hi]
                  rfl
              | divert target => exact settleFrom_settled n (Cursor.plain_ofTarget target) ho
              | assign name expression =>
                  dsimp only
                  cases s.evaluate expression with
                  | error f => exact ⟨hc, .inl ho⟩
                  | ok v => exact settleFrom_settled n hc.next ho

theorem settle_settled (hc : s.cursor.Plain) : (settle.on s).2.Settled := by
  rw [settle_on]
  exact settleFrom_settled _ hc rfl

theorem atStop_settled (text : String) (tags : List Json) (hc : s.cursor.Plain) :
    (atStop text tags s).2.Settled := by
  have hsettled := settle_settled hc
  rw [atStop]
  generalize settle.on s = run at hsettled
  obtain ⟨r, t⟩ := run
  cases r with
  | error f => exact hsettled
  | ok _ =>
      dsimp only
      cases t.choices <;> exact hsettled

/-- Nothing is on offer before a text. -/
theorem Settled.offers_of_line (h : s.Settled) {text : String} {tags : List String}
    (hl : s.lineAt = .ok (some (text, tags))) : s.offers = [] := by
  have hblock : s.block = [] := by rw [block, instructionAt_of_lineAt hl]
  exact h.offers.elim id fun ho => ho.trans hblock

theorem lineHere_settled (h : s.Settled) : s.lineHere.2.Settled := by
  rw [lineHere]
  cases hl : s.lineAt with
  | error f => exact h
  | ok line =>
      cases line with
      | none =>
          dsimp only
          cases s.choices <;> exact h
      | some line =>
          obtain ⟨text, tags⟩ := line
          have hafter : { s with cursor := s.cursor.next }.Settled :=
            ⟨h.cursor.next, .inl (h.offers_of_line hl)⟩
          dsimp only
          cases Story.peek { s with cursor := s.cursor.next } with
          | error f => exact hafter
          | ok more =>
              cases more with
              | true => exact hafter
              | false => exact atStop_settled _ _ hafter.cursor

theorem settling_continueLine : Act.Leads (Upholds Settled) continueLine := by
  intro s h
  cases ho : s.closed with
  | true =>
      rw [continueLine, Act.on_bind, requireOpen_on, ho]
      exact h
  | false =>
      rw [continueLine_on ho]
      have hsettled := settle_settled h.cursor
      generalize settle.on s = run at hsettled
      obtain ⟨r, t⟩ := run
      cases r with
      | error f => exact hsettled
      | ok _ => exact lineHere_settled hsettled

theorem settling_continueFrom : ∀ (n : Nat) (told : String) (tags : List Json) (can : Bool),
    Act.Leads (Upholds Settled) (continueFrom n told tags can)
  | 0, _, _, _ => Act.leads_throw _
  | n + 1, told, tags, can => by
      rw [continueFrom]
      refine Act.leads_bind Act.leads_get fun s => Act.leads_bind (Act.leads_ofExcept _) fun more => ?_
      cases more with
      | true => exact Act.leads_bind settling_continueLine fun c => settling_continueFrom n _ _ _
      | false =>
          exact Act.leads_bind Act.leads_get fun _ => Act.leads_bind (Act.leads_ofExcept _) fun _ =>
            Act.leads_pure _

theorem settling_requireOpen : Act.Leads (Upholds Settled) requireOpen := by
  intro s h
  rw [requireOpen_on]
  split <;> exact h

theorem settling_continueStory : Act.Leads (Upholds Settled) continueStory :=
  Act.leads_bind settling_requireOpen fun _ => Act.leads_bind Act.leads_get fun _ =>
    Act.leads_bind (Act.leads_ofExcept _) fun _ => settling_continueFrom _ _ _ _

theorem option_of_mem_leadingOffers {body : List Instruction} {o : Offer}
    (h : o ∈ leadingOffers body) :
    ∃ text target, o = .option text target ∧ .choice text target ∈ body := by
  obtain ⟨options, after, hbody, hoffers, -⟩ := leadingOffers_run body
  rw [hoffers] at h
  obtain ⟨p, hp, rfl⟩ := List.mem_map.mp h
  refine ⟨p.1, p.2, rfl, ?_⟩
  rw [hbody]
  exact List.mem_append_left after (List.mem_map_of_mem hp)

theorem option_of_mem_block {o : Offer} (h : o ∈ s.block) : ∃ text target, o = .option text target := by
  have hlead : ∀ {body}, o ∈ leadingOffers body → ∃ text target, o = .option text target := by
    intro body ho
    obtain ⟨text, target, rfl, -⟩ := option_of_mem_leadingOffers ho
    exact ⟨text, target, rfl⟩
  have hbody : ∀ body index, o ∈ offersAt body index → ∃ text target, o = .option text target := by
    intro body index ho
    rw [offersAt] at ho
    split at ho <;> exact hlead ho
  rw [block] at h
  split at h
  · rw [offersHere] at h
    split at h
    · exact hbody _ _ h
    · exact hbody _ _ h
    · cases h
  · cases h

/-- A choice that a settled story offers leads to a place of its own. -/
theorem Settled.destination (h : s.Settled) {o : Offer} {c : Cursor} (ho : o ∈ s.offers)
    (hc : o.destination = .ok c) : c.Plain := by
  have hblock : o ∈ s.block :=
    h.offers.elim (fun hnone => nomatch hnone ▸ ho) fun hall => hall ▸ ho
  obtain ⟨text, target, rfl⟩ := option_of_mem_block hblock
  exact Except.ok.inj hc ▸ Cursor.plain_ofTarget target

theorem settling_choose (index : Int) : Act.Leads (Upholds Settled) (choose index) := by
  refine Act.leads_bind settling_requireOpen fun _ => Act.leads_get_bind fun s h => ?_
  split
  · next o ho _ =>
    rw [Act.on_bind, Act.on_ofExcept]
    cases hc : o.destination with
    | error f => exact h
    | ok c => exact ⟨h.destination (List.mem_of_getElem? ho) hc, .inl rfl⟩
  · exact h

theorem settling_reset : Act.Leads (Upholds Settled) reset :=
  Act.leads_bind settling_requireOpen fun _ => Act.leads_modify fun _ _ => ⟨Int.le_refl 0, .inl rfl⟩

theorem settling_setVariable (name : String) (v : Json) :
    Act.Leads (Upholds Settled) (setVariable name v) := by
  refine Act.leads_bind settling_requireOpen fun _ => Act.leads_get_bind fun s h => ?_
  split
  · exact h
  · exact ⟨h.cursor, h.offers⟩

/-! ## Continuing a settled story -/

theorem stops_of_block (h : s.block ≠ []) : s.Stops := by
  rw [block] at h
  split at h
  · next hi => exact ⟨_, hi, fun j hj => ⟨_, _, (Option.some.inj hj).symm⟩⟩
  · exact absurd rfl h

theorem choices_offered {options : List (String × String)} (h : s.offers = options.map offered) :
    s.choices = .ok (listed options) := by
  rw [choices, h]
  exact choicesFrom_offered options 0

theorem plain_route {p : Program} {c d : Cursor} {spots : List Spot} (h : p.Route c spots d)
    (hc : c.Plain) : d.Plain := by
  induction h with
  | here => exact hc
  | assign _ _ ih => exact ih hc.next
  | divert _ _ ih => exact ih (Cursor.plain_ofTarget _)
  | text _ _ ih => exact ih hc.next

/-- What continuing a settled story answers, and the story that it leaves. -/
inductive Continues (s : Story) (c : Continuation) (t : Story) : Prop where
  /-- Something was told, or on offer already: what stands on the way, with the choices at its
  end. -/
  | told {spots : List Spot} {options : List (String × String)}
      (hsome : spots ≠ [] ∨ s.offers ≠ []) (hwalk : Walk s.unoffered spots t.unoffered)
      (hstand : t.program.Stand t.cursor options)
      (htext : c.text = .str (String.join (spots.map Spot.line)))
      (htags : c.tags = spots.flatMap Spot.tagged) (hchoices : c.choices = listed options)
  /-- Nothing was on offer, and no text comes before the stand: nothing is told and listed, and
  the story does not move. -/
  | untold {d : Cursor} {options : List (String × String)} (hnone : s.offers = [])
      (hroute : s.program.Route s.cursor [] d) (hstand : s.program.Stand d options)
      (hsame : t = s) (htext : c.text = .str "") (htags : c.tags = []) (hchoices : c.choices = [])

theorem Settled.continues {c : Continuation} (hs : s.Settled)
    (h : continueStory.on s = (.ok c, t)) : c.canContinue = false ∧ Continues s c t := by
  have hsettled : t.Settled := by
    have hafter := settling_continueStory s hs
    rwa [h] at hafter
  obtain ⟨hcan, ⟨spots, hsome, htelling⟩ | ⟨hpeek, rfl, hchoices, htext, htags⟩⟩ :=
    continueWithin_walk h
  · obtain ⟨options, hstand, hblock⟩ := htelling.stops.stand hsettled.cursor
    have hlisted := htelling.choices.symm.trans (choices_offered (htelling.offers.trans hblock))
    exact ⟨hcan, .told (.inl hsome) htelling.walk hstand htelling.text htelling.tags
      (Except.ok.inj hlisted)⟩
  · refine ⟨hcan, ?_⟩
    by_cases hnone : t.offers = []
    · obtain ⟨d, hroute, hhalts⟩ := Program.route_of_peekFrom_false hpeek
      obtain ⟨options, hstand, -⟩ :=
        Stops.stand (s := { t with cursor := d }) hhalts (plain_route hroute hs.cursor)
      rw [choices, hnone] at hchoices
      exact .untold hnone hroute hstand rfl htext htags (Except.ok.inj hchoices).symm
    · have hoffers : t.offers = t.block := hs.offers.resolve_left hnone
      obtain ⟨options, hstand, hblock⟩ := (stops_of_block (hoffers ▸ hnone)).stand hs.cursor
      have hlisted := hchoices.symm.trans (choices_offered (hoffers.trans hblock))
      exact .told (.inr hnone) (.here : Walk _ [] _) hstand htext htags (Except.ok.inj hlisted)

end Story

/-! ## Shelves of settled stories -/

/-- What is done to one story keeps what all stories have. -/
theorem Shelf.leads_withStory {α : Type} {P : Story → Prop} {act : Act Story α} (id : StoryId)
    (h : Act.Leads (Upholds P) act) :
    Act.Leads (Upholds fun shelf => ∀ story ∈ shelf.opened, P story) (withStory id act) := by
  intro shelf hall
  cases hs : shelf.opened[id]? with
  | none =>
      rw [withStory_none act hs]
      exact hall
  | some story =>
      rw [withStory_on act hs]
      intro other hother
      rcases List.mem_or_eq_of_mem_set hother with hmem | rfl
      · exact hall other hmem
      · exact h story (hall story (List.mem_of_getElem? hs))

/-- What only looks at a state keeps what holds of it. -/
theorem upholds_of_keeps {σ α : Type} {P : σ → Prop} {act : Act σ α} (h : Act.Keeps id act) :
    Act.Leads (Upholds P) act := by
  intro s hs
  have hsame : (act.on s).2 = s := h s
  rwa [hsame]

/-- Telling stories keeps them settled, as long as none is restored. -/
theorem engine_settles (setup : Setup) :
    (engine setup).LeadsUnrestored (Upholds fun shelf => ∀ story ∈ shelf.opened, story.Settled) :=
  have done {α : Type} {act : Act Story α} (id : StoryId) (h : Act.Leads (Upholds Story.Settled) act) :
      Act.Leads (Stage.Over (Upholds fun shelf => ∀ story ∈ shelf.opened, story.Settled))
        (Stage.inEngine (Shelf.withStory id act)) :=
    Stage.leads_inEngine (Shelf.leads_withStory id h)
  { compile := fun _ => Act.leads_ofExcept _
    continueStory := fun id => done id Story.settling_continueStory
    continueLine := fun id => done id Story.settling_continueLine
    canContinue := fun id => done id (upholds_of_keeps Story.keeps_canContinue)
    choose := fun id index => done id (Story.settling_choose index)
    choices := fun id => done id (upholds_of_keeps Story.keeps_choices)
    getVariable := fun id name => done id (upholds_of_keeps (Story.keeps_getVariable name))
    setVariable := fun id name v => done id (Story.settling_setVariable name v)
    saveState := fun id => done id (Act.leads_map (upholds_of_keeps Story.keeps_saveState))
    reset := fun id => done id Story.settling_reset
    evaluate := fun id name arguments =>
      done id (upholds_of_keeps (Story.keeps_call setup.functions name arguments))
    globalTags := fun id => done id (upholds_of_keeps Story.keeps_globalTags)
    bidify := fun _ => Act.leads_pure _
    stripBidi := fun _ => Act.leads_pure _
    bidifyCompiled := fun _ => Act.leads_ofExcept _ }

end Ink

end StoryServer
