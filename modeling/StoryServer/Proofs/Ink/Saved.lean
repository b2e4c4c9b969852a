import StoryServer.Proofs.Ink.Running
import StoryServer.Proofs.Json.RoundTrip
import StoryServer.Proofs.Tool.Likeness

/-!
# Saved states

A saved state is an object with the place of a story, its variables and its choices.  Restoring
it gives all three back (`loadState_saved`), if every variable has a text for a name; another
name becomes a text when it is written.

For that a story has to be *sound* (`Story.Sound`): no two variables have the same name, the
objects in their values have each key once, and a place or a choice that is kept as the cells
it was restored from is none that these cells spell in the usual way.  A story is sound at its
beginning, and everything that is done to it keeps it so (`stays_sound`).
-/

namespace StoryServer

namespace Act

section Yields

variable {σ α β : Type} {P : σ → Prop} {Q : α → Prop} {R : β → Prop}

/-- The action keeps what is known of the state, and something is known of its answer. -/
def Yields (P : σ → Prop) (Q : α → Prop) (act : Act σ α) : Prop :=
  ∀ s, P s → P (act.on s).2 ∧ ∀ a, (act.on s).1 = .ok a → Q a

theorem yields_pure {a : α} (h : Q a) : Yields P Q (pure a : Act σ α) :=
  fun _ hs => ⟨hs, fun _ ha => Except.ok.inj ha ▸ h⟩

theorem yields_throw (f : Fault) : Yields P Q (throw f : Act σ α) :=
  fun _ hs => ⟨hs, fun _ ha => nomatch ha⟩

theorem yields_get : Yields P P (get : Act σ σ) := fun _ hs => ⟨hs, fun _ ha => Except.ok.inj ha ▸ hs⟩

theorem yields_ofExcept {r : Except Fault α} (h : ∀ a, r = .ok a → Q a) :
    Yields P Q (ofExcept r : Act σ α) := by
  intro s hs
  rw [on_ofExcept]
  exact ⟨hs, h⟩

theorem yields_any (r : Except Fault α) : Yields P (fun _ => True) (ofExcept r : Act σ α) :=
  yields_ofExcept fun _ _ => trivial

theorem yields_modify {f : σ → σ} (h : ∀ s, P s → P (f s)) :
    Yields P (fun _ => True) (modify f : Act σ PUnit) := fun s hs => ⟨h s hs, fun _ _ => trivial⟩

theorem yields_set {t : σ} (h : P t) : Yields P (fun _ => True) (set t : Act σ PUnit) :=
  fun _ _ => ⟨h, fun _ _ => trivial⟩

theorem yields_bind {act : Act σ α} {next : α → Act σ β} (h : Yields P Q act)
    (hn : ∀ a, Q a → Yields P R (next a)) : Yields P R (act >>= next) := by
  intro s hs
  obtain ⟨hafter, hanswer⟩ := h s hs
  rw [on_bind]
  generalize act.on s = run at hafter hanswer
  obtain ⟨r, t⟩ := run
  cases r with
  | ok a => exact hn a (hanswer a rfl) t hafter
  | error f => exact ⟨hafter, fun _ hb => nomatch hb⟩

end Yields

end Act

/-! ## Parts of a value -/

namespace Json

theorem distinct_parts {v : Json} {items : List Json} (hv : v.Distinct) (h : v.parts = .ok items) :
    DistinctItems items := by
  rw [distinctItems_iff]
  intro w hw
  unfold parts at h
  split at h
  · obtain rfl := Except.ok.inj h
    exact distinctItems_iff.mp hv w hw
  · obtain rfl := Except.ok.inj h
    obtain ⟨p, -, rfl⟩ := List.mem_map.mp hw
    trivial
  · obtain rfl := Except.ok.inj h
    obtain ⟨c, -, rfl⟩ := List.mem_map.mp hw
    trivial
  · cases h

theorem distinct_item {v w : Json} {key : String} (hv : v.Distinct) (h : v.item key = .ok w) :
    w.Distinct := by
  unfold item at h
  split at h
  · split at h
    · next hget =>
      obtain rfl := Except.ok.inj h
      obtain ⟨p, hp, rfl⟩ := Option.map_eq_some_iff.mp hget
      exact distinctFields_iff.mp hv.2 p (List.mem_of_find?_eq_some hp)
    · cases h
  · cases h
  · cases h
  · cases h

end Json

namespace Ink

/-! ## Variables -/

namespace Variables

variable {bindings : Variables}

/-- No two names are the same, and the objects in values have each key once. -/
structure Sound (bindings : Variables) : Prop where
  apart : bindings.Pairwise fun p q => sameName p.1 q.1 = false
  distinct : ∀ p ∈ bindings, p.2.Distinct

theorem sound_nil : Sound [] := ⟨.nil, fun _ hp => nomatch hp⟩

theorem mem_put {bindings : Variables} {name value : Json} {p : Json × Json}
    (h : p ∈ bindings.put name value) :
    (p.1 = name ∨ ∃ q ∈ bindings, q.1 = p.1) ∧ (p ∈ bindings ∨ p.2 = value) := by
  induction bindings with
  | nil =>
      obtain rfl := List.mem_singleton.mp h
      exact ⟨.inl rfl, .inr rfl⟩
  | cons b rest ih =>
      obtain ⟨n, v⟩ := b
      rw [put] at h
      split at h
      · rcases List.mem_cons.mp h with rfl | hmem
        · exact ⟨.inr ⟨_, List.mem_cons_self, rfl⟩, .inr rfl⟩
        · exact ⟨.inr ⟨p, List.mem_cons_of_mem _ hmem, rfl⟩, .inl (List.mem_cons_of_mem _ hmem)⟩
      · rcases List.mem_cons.mp h with rfl | hmem
        · exact ⟨.inr ⟨_, List.mem_cons_self, rfl⟩, .inl List.mem_cons_self⟩
        · obtain ⟨hname, hvalue⟩ := ih hmem
          exact ⟨hname.imp_right (Exists.imp fun _ h => h.imp_left (List.mem_cons_of_mem _)),
            hvalue.imp_left (List.mem_cons_of_mem _)⟩

theorem apart_put : ∀ {bindings : Variables},
    bindings.Pairwise (fun p q => sameName p.1 q.1 = false) → ∀ name value,
    (bindings.put name value).Pairwise fun p q => sameName p.1 q.1 = false
  | [], _, _, _ => List.pairwise_singleton _ _
  | (n, v) :: rest, h, name, value => by
      obtain ⟨hfirst, hrest⟩ := List.pairwise_cons.mp h
      rw [put]
      split
      · exact List.pairwise_cons.mpr ⟨hfirst, hrest⟩
      · next hne =>
        refine List.pairwise_cons.mpr ⟨fun q hq => ?_, apart_put hrest name value⟩
        rcases (mem_put hq).1 with heq | ⟨p, hp, heq⟩
        · dsimp only
          rw [heq]
          simpa using hne
        · dsimp only
          rw [← heq]
          exact hfirst p hp

theorem Sound.put (h : bindings.Sound) (name : Json) {value : Json} (hv : value.Distinct) :
    (bindings.put name value).Sound where
  apart := apart_put h.apart name value
  distinct p hp := (mem_put hp).2.elim (h.distinct p) fun heq => heq ▸ hv

theorem sound_ofFields {fields : Fields} (h : (Json.obj fields).Distinct) : (ofFields fields).Sound where
  apart := by
    rw [ofFields, List.pairwise_map]
    have hkeys : fields.Pairwise fun p q => p.1 ≠ q.1 := List.pairwise_map.mp h.1
    refine hkeys.imp fun hne => ?_
    simpa [sameName, plainName] using hne
  distinct p hp := by
    obtain ⟨q, hq, rfl⟩ := List.mem_map.mp hp
    exact Json.distinctFields_iff.mp h.2 q hq

theorem sound_ofPairs : ∀ {rows : List Json} {position : Nat} {bindings after : Variables},
    Json.DistinctItems rows → bindings.Sound → ofPairs position bindings rows = .ok after → after.Sound
  | [], _, _, _, _, h, hafter => Except.ok.inj hafter ▸ h
  | row :: rest, position, bindings, after, hrows, h, hafter => by
      rw [ofPairs] at hafter
      obtain ⟨cells, hcells, hafter⟩ := bind_eq_ok.mp hafter
      have hdistinct : Json.DistinctItems cells := by
        rw [Variables.cells] at hcells
        split at hcells
        · next hparts => exact Except.ok.inj hcells ▸ Json.distinct_parts hrows.1 hparts
        · cases hcells
      split at hafter
      · split at hafter
        · cases hafter
        · cases hafter
        · exact sound_ofPairs hrows.2 (h.put _ hdistinct.2.1) hafter
      · cases hafter

theorem sound_ofJson {v : Json} (hv : v.Distinct) (h : ofJson v = .ok bindings) : bindings.Sound := by
  unfold ofJson at h
  split at h
  · exact Except.ok.inj h ▸ sound_ofFields hv
  · obtain ⟨rows, hrows, h⟩ := bind_eq_ok.mp h
    exact sound_ofPairs (Json.distinct_parts hv hrows) sound_nil h

/-- Variables whose names are texts are the members of the object that they are written as. -/
theorem ofFields_keys {bindings : Variables} (h : ∀ p ∈ bindings, ∃ name, p.1 = .str name) :
    ofFields (bindings.map fun p => (keyText p.1, p.2)) = bindings := by
  rw [ofFields, List.map_map]
  refine (List.map_congr_left fun p hp => ?_).trans (List.map_id bindings)
  obtain ⟨name, hname⟩ := h p hp
  obtain ⟨n, v⟩ := p
  obtain rfl : n = .str name := hname
  rfl

theorem distinct_toJson (hs : bindings.Sound) (h : ∀ p ∈ bindings, ∃ name, p.1 = .str name) :
    bindings.toJson.Distinct := by
  refine ⟨?_, Json.distinctFields_iff.mpr fun p hp => ?_⟩
  · rw [List.map_map, List.Nodup, List.pairwise_map]
    refine hs.apart.imp_of_mem fun {p q} hp hq hne => ?_
    obtain ⟨name, hname⟩ := h p hp
    obtain ⟨other, hother⟩ := h q hq
    rw [hname, hother] at hne
    simpa [Function.comp, hname, hother, keyText, sameName, plainName] using hne
  · obtain ⟨q, hq, rfl⟩ := List.mem_map.mp hp
    exact hs.distinct q hq

end Variables

/-! ## Places and choices -/

/-- Cells are kept only where they name no place that a story reaches. -/
def Cursor.Sound : Cursor → Prop
  | .stray cells => Cursor.ofCells cells = .stray cells ∧ Json.DistinctItems cells
  | _ => True

theorem Cursor.sound_ofCells {cells : List Json} (h : Json.DistinctItems cells) :
    (Cursor.ofCells cells).Sound := by
  unfold ofCells
  split
  · trivial
  · next hne =>
    refine ⟨?_, h⟩
    rw [ofCells]
    exact hne

theorem Cursor.Sound.next {c : Cursor} (h : c.Sound) : c.next.Sound := by
  unfold Cursor.next
  split
  · trivial
  · trivial
  · exact h

theorem Cursor.sound_ofTarget (target : String) : (Cursor.ofTarget target).Sound := by
  rw [ofTarget]
  split <;> trivial

def Offer.Sound : Offer → Prop
  | .option .. => True
  | .stray cells => Offer.ofCells cells = .stray cells ∧ Json.DistinctItems cells

theorem Offer.sound_ofCells {cells : List Json} (h : Json.DistinctItems cells) :
    (Offer.ofCells cells).Sound := by
  unfold ofCells
  split
  · trivial
  · next hne =>
    refine ⟨?_, h⟩
    rw [ofCells]
    exact hne

theorem Offer.Sound.destination {o : Offer} {c : Cursor} (h : o.Sound) (hc : o.destination = .ok c) :
    c.Sound := by
  unfold Offer.destination at hc
  split at hc
  · exact Except.ok.inj hc ▸ Cursor.sound_ofTarget _
  · exact Except.ok.inj hc ▸ Cursor.sound_ofTarget _
  · next text target rest hne =>
    obtain rfl := Except.ok.inj hc
    refine ⟨?_, h.2.2.1, trivial, trivial⟩
    rw [Cursor.ofCells]
    intro knot index heq
    exact hne knot (List.cons.inj heq).1
  · cases hc

theorem sound_leadingOffers : ∀ (body : List Instruction), ∀ o ∈ leadingOffers body, o.Sound
  | [], _, ho => nomatch ho
  | .choice text target :: rest, o, ho => by
      rcases List.mem_cons.mp ho with rfl | ho
      · trivial
      · exact sound_leadingOffers rest o ho
  | .text .. :: _, _, ho => nomatch ho
  | .assign .. :: _, _, ho => nomatch ho
  | .divert .. :: _, _, ho => nomatch ho

theorem sound_offersAt (body : List Instruction) (index : Int) : ∀ o ∈ offersAt body index, o.Sound := by
  rw [offersAt]
  split <;> exact sound_leadingOffers _

/-! ## Values -/

theorem distinct_literal {token : String} {v : Json} (h : literal? token = some v) : v.Distinct := by
  rw [literal?] at h
  split at h
  · exact Option.some.inj h ▸ trivial
  · split at h
    · exact Option.some.inj h ▸ trivial
    · split at h
      · exact Option.some.inj h ▸ trivial
      · split at h
        · exact Option.some.inj h ▸ trivial
        · exact Option.some.inj h ▸ trivial
        · cases h

theorem distinct_onNumbers {whole : Int → Int → Int} {real : Binary64 → Binary64 → Binary64}
    {a b : Int ⊕ Binary64} {v : Json} (h : onNumbers whole real a b = .ok v) : v.Distinct := by
  unfold onNumbers at h
  split at h
  · exact Except.ok.inj h ▸ trivial
  · obtain ⟨x, -, h⟩ := bind_eq_ok.mp h
    exact Except.ok.inj h ▸ trivial
  · obtain ⟨x, -, h⟩ := bind_eq_ok.mp h
    exact Except.ok.inj h ▸ trivial
  · exact Except.ok.inj h ▸ trivial

theorem distinct_add {a b v : Json} (ha : a.Distinct) (hb : b.Distinct) (h : add a b = .ok v) :
    v.Distinct := by
  unfold add at h
  split at h
  · exact distinct_onNumbers h
  · split at h
    · exact Except.ok.inj h ▸ trivial
    · obtain rfl := Except.ok.inj h
      refine Json.distinctItems_iff.mpr fun w hw => ?_
      exact (List.mem_append.mp hw).elim (Json.distinctItems_iff.mp ha w) (Json.distinctItems_iff.mp hb w)
    · cases h
    · cases h
    · cases h

theorem distinct_sub {a b v : Json} (h : sub a b = .ok v) : v.Distinct := by
  unfold sub at h
  split at h
  · exact distinct_onNumbers h
  · cases h

/-! ## Programs -/

namespace Program

variable {d e : Draft} {number : Nat}

/-- What a line does to the knots and to the variables. -/
theorem addLine_cases {line : String} (h : d.addLine number line = .ok e) :
    (e.program.knots = d.program.knots ∨ (∃ knot, e.program.knots = d.program.knots.start knot) ∨
      ∃ knot i, e.program.knots = d.program.knots.append knot i) ∧
    (e.program.bindings = d.program.bindings ∨ ∃ name token v, literal? token = some v ∧
      e.program.bindings = d.program.bindings.put (.str name) v) := by
  unfold Draft.addLine at h
  split at h
  · exact Except.ok.inj h ▸ ⟨.inl rfl, .inl rfl⟩
  · split at h
    · exact Except.ok.inj h ▸ ⟨.inl rfl, .inl rfl⟩
    · dsimp only at h
      split at h
      · -- a knot
        unfold Draft.knotLine at h
        dsimp only at h
        split at h
        · cases h
        · exact Except.ok.inj h ▸ ⟨.inr (.inl ⟨_, rfl⟩), .inl rfl⟩
      · split at h
        · -- a declaration
          obtain rfl := Except.ok.inj h
          unfold Draft.variableLine
          split
          dsimp only
          split
          · next hliteral => exact ⟨.inl rfl, .inr ⟨_, _, _, hliteral, rfl⟩⟩
          · exact ⟨.inl rfl, .inl rfl⟩
        · exact Except.ok.inj h ▸ ⟨.inr (.inr ⟨_, _, rfl⟩), .inl rfl⟩

/-- What every line keeps is kept by all lines. -/
theorem kept_addLines {P : Draft → Prop} {lines : List String}
    (hline : ∀ {d e number line}, d.addLine number line = .ok e → P d → P e)
    (hd : P d) (h : d.addLines number lines = .ok e) : P e := by
  induction lines generalizing d number with
  | nil => exact Except.ok.inj h ▸ hd
  | cons line rest ih =>
      rw [Draft.addLines] at h
      obtain ⟨d', hd', h⟩ := bind_eq_ok.mp h
      exact ih (hline hd' hd) h

/-- What holds of the knots and the variables before the first line and is kept by every line holds
of those of a source. -/
theorem kept_parse {P : Knots → Variables → Prop} {source : String} {p : Program}
    (hempty : P [(rootKnot, [])] [])
    (hline : ∀ {d e : Draft} {number line}, d.addLine number line = .ok e →
      P d.program.knots d.program.bindings → P e.program.knots e.program.bindings)
    (h : parse source = .ok p) : P p.knots p.bindings := by
  rw [parse] at h
  obtain ⟨d, hd, h⟩ := bind_eq_ok.mp h
  have hkept : P d.program.knots d.program.bindings :=
    kept_addLines (P := fun d => P d.program.knots d.program.bindings) hline hempty hd
  exact Except.ok.inj h ▸ hkept

/-- What holds of no variables and is kept by declarations holds of those that a source declares. -/
theorem declared_parse {P : Variables → Prop} {source : String} {p : Program} (hnil : P [])
    (hput : ∀ {bindings token v}, P bindings → literal? token = some v →
      ∀ name, P (bindings.put (.str name) v))
    (h : parse source = .ok p) : P p.bindings := by
  refine kept_parse (P := fun _ bindings => P bindings) hnil (fun hline hd => ?_) h
  obtain ⟨-, hsame | ⟨name, token, v, hliteral, hnew⟩⟩ := addLine_cases hline
  · rwa [hsame]
  · rw [hnew]
    exact hput hd hliteral name

/-- The variables that a source declares. -/
theorem sound_parse {source : String} {p : Program} (h : parse source = .ok p) : p.bindings.Sound :=
  declared_parse Variables.sound_nil (fun hb hliteral _ => hb.put _ (distinct_literal hliteral)) h

end Program

/-! ## Stories -/

namespace Story

/-- What a story has of place, variables and choices can be told from its saved state. -/
structure Sound (s : Story) : Prop where
  declared : s.program.bindings.Sound
  bindings : s.bindings.Sound
  cursor : s.cursor.Sound
  offers : ∀ o ∈ s.offers, o.Sound

theorem sound_start {p : Program} (h : p.bindings.Sound) : (start p).Sound where
  declared := h
  bindings := h
  cursor := trivial
  offers _ ho := nomatch ho

variable {s : Story}

theorem Sound.value (h : s.Sound) {token : String} {v : Json} (hv : s.value token = .ok v) :
    v.Distinct := by
  unfold Story.value at hv
  split at hv
  · next hget =>
    obtain rfl := Except.ok.inj hv
    obtain ⟨p, hp, rfl⟩ := Option.map_eq_some_iff.mp hget
    exact h.bindings.distinct p (List.mem_of_find?_eq_some hp)
  · split at hv
    · next hliteral => exact Except.ok.inj hv ▸ distinct_literal hliteral
    · cases hv

theorem Sound.evaluate (h : s.Sound) {expression : String} {v : Json}
    (hv : s.evaluate expression = .ok v) : v.Distinct := by
  unfold Story.evaluate at hv
  split at hv
  · split at hv
    · obtain ⟨a, ha, hv⟩ := bind_eq_ok.mp hv
      obtain ⟨b, hb, hv⟩ := bind_eq_ok.mp hv
      split at hv
      · exact distinct_add (h.value ha) (h.value hb) hv
      · exact distinct_sub hv
    · exact h.value hv
  · exact h.value hv

theorem sound_offersHere (s : Story) : ∀ o ∈ s.offersHere, o.Sound := by
  unfold offersHere
  split
  · exact sound_offersAt _ _
  · exact sound_offersAt _ _
  · exact fun o ho => nomatch ho

/-! ### Operations -/

open Act

theorem yields_requireOpen : Yields Sound (fun _ => True) requireOpen := by
  intro s hs
  rw [requireOpen_on]
  split
  · exact ⟨hs, fun _ _ => trivial⟩
  · exact ⟨hs, fun _ _ => trivial⟩

theorem yields_settleFrom : ∀ n : Nat, Yields Sound (fun _ => True) (settleFrom n)
  | 0 => yields_throw _
  | n + 1 => by
      rw [settleFrom]
      refine yields_bind yields_get fun s hs => yields_bind (yields_any _) fun i _ => ?_
      split
      · exact yields_pure trivial
      · exact yields_pure trivial
      · refine yields_bind (yields_ofExcept fun v hv => hs.evaluate hv) fun v hv =>
          yields_bind (yields_set ?_) fun _ _ => yields_settleFrom n
        exact ⟨hs.declared, hs.bindings.put _ hv, hs.cursor.next, hs.offers⟩
      · refine yields_bind (yields_set ?_) fun _ _ => yields_settleFrom n
        exact ⟨hs.declared, hs.bindings, Cursor.sound_ofTarget _, hs.offers⟩
      · exact yields_set ⟨hs.declared, hs.bindings, hs.cursor, sound_offersHere s⟩

theorem yields_settle : Yields Sound (fun _ => True) settle := by
  refine yields_bind (yields_modify fun s hs => ?_) fun _ _ => yields_settleFrom _
  exact ⟨hs.declared, hs.bindings, hs.cursor, fun o ho => nomatch ho⟩

theorem yields_continueLine : Yields Sound (fun _ => True) continueLine := by
  refine yields_bind yields_requireOpen fun _ _ => yields_bind yields_settle fun _ _ =>
    yields_bind yields_get fun s hs => yields_bind (yields_any _) fun line _ => ?_
  cases line with
  | none => exact yields_bind (yields_any _) fun _ _ => yields_pure trivial
  | some line =>
      refine yields_bind (yields_set ?_) fun _ _ => yields_bind yields_get fun t _ =>
        yields_bind (yields_any _) fun can _ => ?_
      · exact ⟨hs.declared, hs.bindings, hs.cursor.next, hs.offers⟩
      · have hrest : Yields Sound (fun _ => True) (do
            let choices ← if can then pure [] else Act.ofExcept (← get).choices
            return { text := .str (line.1 ++ "\n"), canContinue := can, choices,
                     tags := line.2.map .str : Continuation }) := by
          cases can with
          | true =>
              exact yields_bind (yields_pure (Q := fun _ => True) trivial) fun _ _ =>
                yields_pure trivial
          | false =>
              exact yields_bind yields_get fun _ _ => yields_bind (yields_any _) fun _ _ =>
                yields_pure trivial
        cases can with
        | true => exact hrest
        | false => exact yields_bind yields_settle fun _ _ => hrest

theorem yields_continueFrom : ∀ (n : Nat) (told : String) (tags : List Json) (can : Bool),
    Yields Sound (fun _ => True) (continueFrom n told tags can)
  | 0, _, _, _ => yields_throw _
  | n + 1, told, tags, can => by
      rw [continueFrom]
      refine yields_bind yields_get fun s _ => yields_bind (yields_any _) fun more _ => ?_
      cases more with
      | true => exact yields_bind yields_continueLine fun c _ => yields_continueFrom n _ _ _
      | false =>
          exact yields_bind yields_get fun _ _ => yields_bind (yields_any _) fun _ _ =>
            yields_pure trivial

theorem yields_continueStory : Yields Sound (fun _ => True) continueStory :=
  yields_bind yields_requireOpen fun _ _ => yields_bind yields_get fun _ _ =>
    yields_bind (yields_any _) fun _ _ => yields_continueFrom _ _ _ _

theorem yields_choose (index : Int) : Yields Sound (fun _ => True) (choose index) := by
  refine yields_bind yields_requireOpen fun _ _ => yields_bind yields_get fun s hs => ?_
  split
  · next o ho _ =>
    refine yields_bind (yields_ofExcept fun c hc =>
      (hs.offers o (List.mem_of_getElem? ho)).destination hc) fun c hc => yields_set ?_
    exact ⟨hs.declared, hs.bindings, hc, fun _ ho => nomatch ho⟩
  · exact yields_throw _

theorem yields_reset : Yields Sound (fun _ => True) reset :=
  yields_bind yields_requireOpen fun _ _ => yields_modify fun _ hs =>
    ⟨hs.declared, hs.declared, trivial, fun _ ho => nomatch ho⟩

theorem yields_setVariable (name : String) {v : Json} (hv : v.Distinct) :
    Yields Sound (fun _ => True) (setVariable name v) := by
  refine yields_bind yields_requireOpen fun _ _ => yields_bind yields_get fun s hs => ?_
  split
  · exact yields_throw _
  · exact yields_set ⟨hs.declared, hs.bindings.put _ hv, hs.cursor, hs.offers⟩

theorem sound_stateCursor {state : Json} {c : Cursor} (hd : state.Distinct)
    (h : stateCursor state = .ok c) : c.Sound := by
  rw [stateCursor] at h
  obtain ⟨v, hv, h⟩ := bind_eq_ok.mp h
  split at h
  · exact Except.ok.inj h ▸ trivial
  · obtain ⟨cells, hcells, h⟩ := bind_eq_ok.mp h
    exact Except.ok.inj h ▸
      Cursor.sound_ofCells (Json.distinct_parts (Json.distinct_item hd hv) hcells)

theorem sound_stateVariables {state : Json} {bindings : Variables} (hd : state.Distinct)
    (h : stateVariables state = .ok bindings) : bindings.Sound := by
  rw [stateVariables] at h
  obtain ⟨v, hv, h⟩ := bind_eq_ok.mp h
  exact Variables.sound_ofJson (Json.distinct_item hd hv) h

theorem sound_stateOffers {state : Json} {offers : List Offer} (hd : state.Distinct)
    (h : stateOffers state = .ok offers) : ∀ o ∈ offers, o.Sound := by
  have hall : ∀ {rows : List Json} {offers : List Offer}, Json.DistinctItems rows →
      rows.mapM (fun row => do return Offer.ofCells (← row.parts)) =
        (.ok offers : Except Fault (List Offer)) → ∀ o ∈ offers, o.Sound := by
    intro rows
    induction rows with
    | nil => exact fun _ h => Except.ok.inj h ▸ fun _ ho => nomatch ho
    | cons row rest ih =>
        intro offers hrows h
        rw [List.mapM_cons] at h
        obtain ⟨o, ho, h⟩ := bind_eq_ok.mp h
        obtain ⟨os, hos, h⟩ := bind_eq_ok.mp h
        obtain ⟨cells, hcells, ho⟩ := bind_eq_ok.mp ho
        obtain rfl := Except.ok.inj h
        intro p hp
        rcases List.mem_cons.mp hp with rfl | hp
        · exact Except.ok.inj ho ▸ Offer.sound_ofCells (Json.distinct_parts hrows.1 hcells)
        · exact ih hrows.2 hos p hp
  rw [stateOffers] at h
  obtain ⟨v, hv, h⟩ := bind_eq_ok.mp h
  obtain ⟨rows, hrows, h⟩ := bind_eq_ok.mp h
  exact hall (Json.distinct_parts (Json.distinct_item hd hv) hrows) h

theorem yields_loadState (text : String) : Yields Sound (fun _ => True) (loadState text) := by
  refine yields_bind yields_requireOpen fun _ _ => yields_bind (yields_ofExcept (Q := Json.Distinct)
    fun state hstate => ?_) fun state hstate => ?_
  · rw [readState] at hstate
    split at hstate
    · cases hstate
    · exact distinct_of_readJson hstate
  · refine yields_bind (yields_ofExcept fun c hc => sound_stateCursor hstate hc) fun c hc =>
      yields_bind (yields_modify fun s hs => ?_) fun _ _ =>
      yields_bind (yields_ofExcept fun b hb => sound_stateVariables hstate hb) fun b hb =>
      yields_bind (yields_modify fun s hs => ?_) fun _ _ =>
      yields_bind (yields_ofExcept fun o ho => sound_stateOffers hstate ho) fun o ho =>
      yields_modify fun s hs => ?_
    · exact ⟨hs.declared, hs.bindings, hc, hs.offers⟩
    · exact ⟨hs.declared, hb, hs.cursor, hs.offers⟩
    · exact ⟨hs.declared, hs.bindings, hs.cursor, ho⟩

/-! ### Saving and restoring -/

theorem distinct_stateJson (h : s.Sound) (hnames : ∀ p ∈ s.bindings, ∃ name, p.1 = .str name) :
    s.stateJson.Distinct := by
  have hcursor : s.cursor.toJson.Distinct := by
    have hc := h.cursor
    cases hs : s.cursor with
    | ended => trivial
    | «at» knot index => exact ⟨trivial, trivial, trivial⟩
    | stray cells =>
        rw [hs] at hc
        exact hc.2
  have hkeys : ["pc", "variables", "choices"].Nodup := by decide
  refine ⟨hkeys, hcursor, Variables.distinct_toJson h.bindings hnames, ?_, trivial⟩
  refine Json.distinctItems_iff.mpr fun v hv => ?_
  obtain ⟨o, ho, rfl⟩ := List.mem_map.mp hv
  have hsound := h.offers o ho
  cases o with
  | option text target => exact ⟨trivial, trivial, trivial⟩
  | stray cells => exact hsound.2

theorem stateCursor_stateJson (h : s.Sound) : stateCursor s.stateJson = .ok s.cursor := by
  have hitem : s.stateJson.item "pc" = .ok s.cursor.toJson := rfl
  have hc := h.cursor
  rw [stateCursor, hitem]
  cases hs : s.cursor with
  | ended => rfl
  | «at» knot index => rfl
  | stray cells =>
      rw [hs] at hc
      exact congrArg Except.ok hc.1

theorem stateVariables_stateJson (hnames : ∀ p ∈ s.bindings, ∃ name, p.1 = .str name) :
    stateVariables s.stateJson = .ok s.bindings := by
  have hitem : s.stateJson.item "variables" = .ok s.bindings.toJson := rfl
  rw [stateVariables, hitem]
  exact congrArg Except.ok (Variables.ofFields_keys hnames)

theorem stateOffers_stateJson (h : s.Sound) : stateOffers s.stateJson = .ok s.offers := by
  have hitem : s.stateJson.item "choices" = .ok (.arr (s.offers.map fun o => .arr o.cells)) := rfl
  have hcells : ∀ {o : Offer}, o.Sound → Offer.ofCells o.cells = o := by
    intro o ho
    cases o with
    | option text target => rfl
    | stray cells => exact ho.1
  have hall : ∀ offers : List Offer, (∀ o ∈ offers, o.Sound) →
      (offers.map fun o => Json.arr o.cells).mapM (fun row => do return Offer.ofCells (← row.parts)) =
        (.ok offers : Except Fault (List Offer)) := by
    intro offers
    induction offers with
    | nil => exact fun _ => rfl
    | cons o rest ih =>
        intro hoffers
        have hrest := ih fun o ho => hoffers o (List.mem_cons_of_mem _ ho)
        rw [List.map_cons, List.mapM_cons, hrest, Json.parts]
        exact congrArg (fun p => Except.ok (p :: rest)) (hcells (hoffers o List.mem_cons_self))
  rw [stateOffers, hitem]
  exact hall s.offers h.offers

theorem saveState_on {s : Story} (ho : s.closed = false) :
    saveState.on s = (writeJson .ascii s.stateJson, s) := by
  rw [saveState, Act.on_bind_of_ok (requireOpen_ok ho), Act.on_bind, Act.on_get]
  exact Act.on_ofExcept _ s

/-- What restoring a state takes over. -/
def restoredFrom (s u : Story) : Story :=
  { u with cursor := s.cursor, bindings := s.bindings, offers := s.offers }

/-- **A saved state is restored exactly**, in whatever state the other story is. -/
theorem loadState_saved (h : s.Sound) (hnames : ∀ p ∈ s.bindings, ∃ name, p.1 = .str name)
    {text : String} (hsave : writeJson .ascii s.stateJson = .ok text) {u : Story}
    (hu : u.closed = false) : (loadState text).on u = (.ok (), s.restoredFrom u) := by
  have hread : readState text = .ok s.stateJson := by
    have hjson := readJson_of_writeJson Json.ascii_readable (distinct_stateJson h hnames) hsave
    rw [readState, hjson]
  rw [loadState, Act.on_bind_of_ok (requireOpen_ok hu), hread, Act.on_bind, Act.on_ofExcept]
  dsimp only
  rw [stateCursor_stateJson h, stateVariables_stateJson hnames, stateOffers_stateJson h]
  rfl

/-- **Everything that is done to a story keeps its state one that can be saved.** -/
theorem stays_sound : Stays Sound Json.Distinct where
  continueStory u hu := (yields_continueStory u hu).1
  continueLine u hu := (yields_continueLine u hu).1
  choose index u hu := (yields_choose index u hu).1
  setVariable name _ hv u hu := (yields_setVariable name hv u hu).1
  loadState text u hu := (yields_loadState text u hu).1
  reset u hu := (yields_reset u hu).1

end Story

end Ink

end StoryServer
