import Mathlib.Data.List.Nodup
import Mathlib.Data.List.Perm.Subperm
import StoryServer.Proofs.Ink.Saved

/-!
# Paths through a program

Where a story goes next depends on its place and never on its variables, so a program alone says
which way leads from a place: past assignments, along diverts, and over texts.  `Program.Route`
is this way, with the texts on it.

*Halting.*  A route that comes to an end or to a choice is the only one that does
(`Route.unique`).  So it passes no text twice (`Route.places_nodup`): from the place after a text
there would be two routes of different length.  The texts on it are therefore no more than the
program has (`Route.length_le`).

*A place counted from the end.*  A restored state may put a story before an instruction that is
counted from the end of a knot.  It goes on at the beginning of the knot, so it may pass that
instruction again; the statements about halting are about places counted from the beginning.
-/

namespace StoryServer

namespace Ink

/-! ## Texts and where they stand -/

/-- A text of a program and its place there. -/
structure Spot where
  knot : String
  index : Nat
  text : String
  tags : List String
  deriving DecidableEq, Repr

namespace Spot

/-- The knot and the index, which tell one instruction from another. -/
def place (s : Spot) : String × Nat := (s.knot, s.index)

/-- The text as a line of a story. -/
def line (s : Spot) : String := s.text ++ "\n"

/-- The tags as a story tells them. -/
def tagged (s : Spot) : List Json := s.tags.map .str

end Spot

namespace Program

/-- The text that an instruction is, at an index of a knot. -/
def spot? (knot : String) : Instruction × Nat → Option Spot
  | (.text text tags, index) => some ⟨knot, index, text, tags⟩
  | _ => none

/-- All texts of a program. -/
def texts (p : Program) : List Spot := p.knots.flatMap fun k => k.2.zipIdx.filterMap (spot? k.1)

/-- The knot and the index of a place, counted from the beginning of the knot. -/
def placeOf (p : Program) : Cursor → String × Nat
  | .at knot index =>
    (knot, (if index < 0 then index + ((p.body? knot).getD []).length else index).toNat)
  | .stray [.str knot, .bool b] => (knot, if b then 1 else 0)
  | _ => (rootKnot, 0)

/-- The text that stands at a place. -/
def spotAt (p : Program) (c : Cursor) (text : String) (tags : List String) : Spot :=
  ⟨(p.placeOf c).1, (p.placeOf c).2, text, tags⟩

variable {p : Program} {c : Cursor} {i : Instruction}

theorem body?_of_bodyAtCell {cell : Json} {body : List Instruction}
    (h : p.bodyAtCell cell = .ok body) : ∃ knot, cell = .str knot ∧ p.body? knot = some body := by
  unfold bodyAtCell at h
  split at h
  · split at h
    · next hknot => exact ⟨_, rfl, hknot.trans (congrArg some (Except.ok.inj h))⟩
    · cases h
  · cases h
  · cases h
  · cases h

/-- The two kinds of places before an instruction: an index, and a truth value taken for one. -/
theorem cursor_of_instructionAt (hs : c.Sound) (h : p.instructionAt c = .ok (some i)) :
    ∃ knot body, p.body? knot = some body ∧
      ((∃ index, c = .at knot index ∧ instructionIn body index = .ok (some i)) ∨
        ∃ b, c = .stray [.str knot, .bool b] ∧
          instructionIn body (if b then 1 else 0) = .ok (some i)) := by
  unfold instructionAt at h
  split at h
  · cases h
  · obtain ⟨body, hcell, hin⟩ := bind_eq_ok.mp h
    obtain ⟨knot, hknot, hlookup⟩ := body?_of_bodyAtCell hcell
    obtain rfl := Json.str.inj hknot
    exact ⟨_, body, hlookup, .inl ⟨_, rfl, hin⟩⟩
  · next knot index =>
    obtain ⟨body, hcell, hin⟩ := bind_eq_ok.mp h
    obtain ⟨knot, rfl, hlookup⟩ := body?_of_bodyAtCell hcell
    refine ⟨knot, body, hlookup, ?_⟩
    unfold instructionAtCell at hin
    split at hin
    · -- a knot and a whole number are kept as a place and not as cells
      cases hs.1
    · exact .inr ⟨_, rfl, hin⟩
    · split at hin <;> cases hin
    · cases hin
  · cases h

/-- The place of an instruction is where it stands in the body of its knot. -/
theorem getElem?_placeOf (hs : c.Sound) (h : p.instructionAt c = .ok (some i)) :
    ∃ body, p.body? (p.placeOf c).1 = some body ∧ body[(p.placeOf c).2]? = some i := by
  have hin : ∀ {body : List Instruction} {index : Int}, instructionIn body index = .ok (some i) →
      body[(if index < 0 then index + body.length else index).toNat]? = some i := by
    intro body index hin
    unfold instructionIn at hin
    split at hin
    · cases hin
    · dsimp only at hin
      generalize (if index < 0 then index + (body.length : Int) else index) = j at hin ⊢
      split at hin
      · cases hin
      · exact Except.ok.inj hin
  obtain ⟨knot, body, hbody, ⟨index, rfl, hi⟩ | ⟨b, rfl, hi⟩⟩ := cursor_of_instructionAt hs h
  · refine ⟨body, hbody, ?_⟩
    rw [placeOf, hbody]
    exact hin hi
  · refine ⟨body, hbody, ?_⟩
    cases b with
    | true => exact hin hi
    | false => exact hin hi

theorem mem_of_lookup {knots : Knots} {knot : String} {body : List Instruction}
    (h : knots.lookup knot = some body) : (knot, body) ∈ knots := by
  rw [List.lookup_eq_some_iff] at h
  obtain ⟨before, after, rfl, -⟩ := h
  simp

theorem spotAt_mem_texts {text : String} {tags : List String} (hs : c.Sound)
    (h : p.instructionAt c = .ok (some (.text text tags))) : p.spotAt c text tags ∈ p.texts := by
  obtain ⟨body, hbody, hat⟩ := getElem?_placeOf hs h
  have hmem : (Instruction.text text tags, (p.placeOf c).2) ∈ body.zipIdx :=
    List.mem_zipIdx_iff_getElem?.mpr hat
  exact List.mem_flatMap.mpr ⟨_, mem_of_lookup hbody, List.mem_filterMap.mpr ⟨_, hmem, rfl⟩⟩

end Program

/-! ## Places counted from the beginning -/

/-- Whether a place is not counted from the end of its knot. -/
def Cursor.Forward : Cursor → Prop
  | .at _ index => 0 ≤ index
  | _ => True

instance (c : Cursor) : Decidable c.Forward := by
  cases c <;> unfold Cursor.Forward <;> infer_instance

namespace Cursor

variable {c : Cursor}

theorem Forward.next (h : c.Forward) : c.next.Forward := by
  unfold Cursor.next
  split
  · exact Int.add_nonneg h Int.one_nonneg
  · next b =>
    cases b with
    | true => exact Int.natCast_nonneg 2
    | false => exact Int.one_nonneg
  · exact h

theorem forward_ofTarget (target : String) : (ofTarget target).Forward := by
  rw [ofTarget]
  split
  · trivial
  · exact Int.le_refl 0

/-- Where a story goes on after an instruction is told by the place of the instruction. -/
theorem Forward.next_eq {p : Program} {i : Instruction} (h : c.Forward) (hs : c.Sound)
    (hi : p.instructionAt c = .ok (some i)) :
    c.next = .at (p.placeOf c).1 (((p.placeOf c).2 : Int) + 1) := by
  obtain ⟨knot, body, -, ⟨index, rfl, -⟩ | ⟨b, rfl, -⟩⟩ := Program.cursor_of_instructionAt hs hi
  · have hindex : 0 ≤ index := h
    rw [Program.placeOf, if_neg (Int.not_lt.mpr hindex)]
    exact congrArg (fun n => Cursor.at knot (n + 1)) (Int.toNat_of_nonneg hindex).symm
  · cases b <;> rfl

end Cursor

/-! ## Routes -/

namespace Program

/-- The way from a place to another one: past assignments, along diverts, and over texts. -/
inductive Route (p : Program) : Cursor → List Spot → Cursor → Prop where
  | here {c : Cursor} : Route p c [] c
  | assign {c d : Cursor} {spots : List Spot} {name expression : String}
      (hi : p.instructionAt c = .ok (some (.assign name expression)))
      (h : Route p c.next spots d) : Route p c spots d
  | divert {c d : Cursor} {spots : List Spot} {target : String}
      (hi : p.instructionAt c = .ok (some (.divert target)))
      (h : Route p (.ofTarget target) spots d) : Route p c spots d
  | text {c d : Cursor} {spots : List Spot} {text : String} {tags : List String}
      (hi : p.instructionAt c = .ok (some (.text text tags)))
      (h : Route p c.next spots d) : Route p c (p.spotAt c text tags :: spots) d

/-- A place from which nothing leads on: an end, or a choice. -/
def Halts (p : Program) (c : Cursor) : Prop :=
  ∃ i, p.instructionAt c = .ok i ∧ ∀ j, i = some j → ∃ text target, j = .choice text target

variable {p : Program} {c d e : Cursor} {xs ys : List Spot}

/-- What stands where a story halts, if anything does. -/
theorem Halts.choice {i : Instruction} (h : p.Halts c) (hi : p.instructionAt c = .ok (some i)) :
    ∃ text target, i = .choice text target := by
  obtain ⟨j, hj, hchoice⟩ := h
  exact hchoice i (Except.ok.inj (hj.symm.trans hi))

namespace Route

theorem trans (h : p.Route c xs d) (h' : p.Route d ys e) : p.Route c (xs ++ ys) e := by
  induction h with
  | here => exact h'
  | assign hi _ ih => exact .assign hi (ih h')
  | divert hi _ ih => exact .divert hi (ih h')
  | text hi _ ih => exact .text hi (ih h')

/-- A route that halts goes by every place that a route from its beginning comes to. -/
theorem rest (h : p.Route c xs d) (h' : p.Route c ys e) (he : p.Halts e) :
    ∃ zs, ys = xs ++ zs ∧ p.Route d zs e := by
  induction h generalizing ys with
  | here => exact ⟨ys, rfl, h'⟩
  | assign hi _ ih =>
      cases h' with
      | here => simpa using he.choice hi
      | assign _ h' => exact ih h'
      | divert hi' _ => cases hi.symm.trans hi'
      | text hi' _ => cases hi.symm.trans hi'
  | divert hi _ ih =>
      cases h' with
      | here => simpa using he.choice hi
      | assign hi' _ => cases hi.symm.trans hi'
      | divert hi' h' =>
          cases hi.symm.trans hi'
          exact ih h'
      | text hi' _ => cases hi.symm.trans hi'
  | text hi _ ih =>
      cases h' with
      | here => simpa using he.choice hi
      | assign hi' _ => cases hi.symm.trans hi'
      | divert hi' _ => cases hi.symm.trans hi'
      | text hi' h' =>
          cases hi.symm.trans hi'
          obtain ⟨zs, rfl, hrest⟩ := ih h'
          exact ⟨zs, rfl, hrest⟩

theorem of_halts (h : p.Route c xs d) (hc : p.Halts c) : xs = [] ∧ c = d := by
  cases h with
  | here => exact ⟨rfl, rfl⟩
  | assign hi _ => simpa using hc.choice hi
  | divert hi _ => simpa using hc.choice hi
  | text hi _ => simpa using hc.choice hi

/-- **There is only one way to an end or a choice.** -/
theorem unique (h : p.Route c xs d) (hd : p.Halts d) (h' : p.Route c ys e) (he : p.Halts e) :
    xs = ys ∧ d = e := by
  obtain ⟨zs, rfl, hrest⟩ := h.rest h' he
  obtain ⟨rfl, rfl⟩ := hrest.of_halts hd
  exact ⟨(List.append_nil xs).symm, rfl⟩

/-- The rest of a route starts after the text that was passed last. -/
theorem after {s : Spot} {spots : List Spot} (h : p.Route c spots d) (hs : c.Sound)
    (hf : c.Forward) (hspots : spots = xs ++ s :: ys) :
    p.Route (.at s.knot ((s.index : Int) + 1)) ys d := by
  induction h generalizing xs with
  | here => simp at hspots
  | assign _ _ ih => exact ih hs.next hf.next hspots
  | divert _ _ ih => exact ih (Cursor.sound_ofTarget _) (Cursor.forward_ofTarget _) hspots
  | text hi h ih =>
      cases xs with
      | nil =>
          obtain ⟨rfl, rfl⟩ := List.cons.inj hspots
          rw [hf.next_eq hs hi] at h
          exact h
      | cons x xs => exact ih hs.next hf.next (List.cons.inj hspots).2

/-- **A route that halts passes no text twice.**  From the place after a text that came again
there would be two routes, of which one is a part of the other. -/
theorem places_nodup {spots : List Spot} (h : p.Route c spots d) (hd : p.Halts d) (hs : c.Sound)
    (hf : c.Forward) : (spots.map Spot.place).Nodup := by
  induction h with
  | here => exact List.nodup_nil
  | assign _ _ ih => exact ih hd hs.next hf.next
  | divert _ _ ih => exact ih hd (Cursor.sound_ofTarget _) (Cursor.forward_ofTarget _)
  | @text c d spots text tags hi h ih =>
      refine List.nodup_cons.mpr ⟨fun hmem => ?_, ih hd hs.next hf.next⟩
      obtain ⟨s, hspot, hplace⟩ := List.mem_map.mp hmem
      obtain ⟨xs, ys, hsplit⟩ := List.append_of_mem hspot
      have hagain : p.Route (.at s.knot ((s.index : Int) + 1)) ys d :=
        h.after hs.next hf.next hsplit
      have hknot : s.knot = (p.placeOf c).1 := congrArg Prod.fst hplace
      have hindex : s.index = (p.placeOf c).2 := congrArg Prod.snd hplace
      rw [hf.next_eq hs hi, ← hknot, ← hindex] at h
      obtain ⟨hsame, -⟩ := h.unique hd hagain hd
      have hlength := congrArg List.length (hsplit.symm.trans hsame)
      simp at hlength
      omega

theorem mem_texts {spots : List Spot} (h : p.Route c spots d) (hs : c.Sound) :
    ∀ s ∈ spots, s ∈ p.texts := by
  induction h with
  | here => exact fun _ hmem => nomatch hmem
  | assign _ _ ih => exact ih hs.next
  | divert _ _ ih => exact ih (Cursor.sound_ofTarget _)
  | text hi _ ih =>
      intro s hmem
      rcases List.mem_cons.mp hmem with rfl | hmem
      · exact spotAt_mem_texts hs hi
      · exact ih hs.next s hmem

/-- A route on which no text comes twice has no more texts than the program. -/
theorem length_le {spots : List Spot} (h : p.Route c spots d) (hs : c.Sound)
    (hn : (spots.map Spot.place).Nodup) : spots.length ≤ p.texts.length :=
  (List.subperm_of_subset hn.of_map fun s hmem => h.mem_texts hs s hmem).length_le

end Route

/-! ## Looking ahead -/

/-- Looking ahead goes up to the next text, or up to where the story halts. -/
theorem route_of_peekFrom : ∀ {n : Nat} {c : Cursor} {more : Bool}, p.peekFrom n c = .ok more →
    ∃ d, p.Route c [] d ∧
      if more then ∃ text tags, p.instructionAt d = .ok (some (.text text tags)) else p.Halts d
  | 0, c, more, h => nomatch h
  | n + 1, c, more, h => by
      rw [peekFrom_succ] at h
      cases hi : p.instructionAt c with
      | error f => rw [hi] at h; cases h
      | ok i =>
          rw [hi] at h
          cases i with
          | none =>
              obtain rfl := Except.ok.inj h
              exact ⟨c, .here, none, hi, by simp⟩
          | some i =>
              cases i with
              | text text tags =>
                  obtain rfl := Except.ok.inj h
                  exact ⟨c, .here, text, tags, hi⟩
              | choice text target =>
                  obtain rfl := Except.ok.inj h
                  exact ⟨c, .here, _, hi, by simp⟩
              | assign name expression =>
                  obtain ⟨d, hroute, hd⟩ := route_of_peekFrom h
                  exact ⟨d, .assign hi hroute, hd⟩
              | divert target =>
                  dsimp only at h
                  by_cases hend : endsStory target = true
                  · rw [if_pos hend] at h
                    obtain rfl := Except.ok.inj h
                    refine ⟨.ended, .divert hi ?_, none, rfl, by simp⟩
                    rw [Cursor.ofTarget, if_pos hend]
                    exact .here
                  · rw [if_neg hend] at h
                    obtain ⟨d, hroute, hd⟩ := route_of_peekFrom h
                    refine ⟨d, .divert hi ?_, hd⟩
                    rwa [Cursor.ofTarget, if_neg hend]

theorem route_of_peekFrom_false {n : Nat} (h : p.peekFrom n c = .ok false) :
    ∃ d, p.Route c [] d ∧ p.Halts d := by
  simpa using route_of_peekFrom h

theorem route_of_peekFrom_true {n : Nat} (h : p.peekFrom n c = .ok true) :
    ∃ s d, p.Route c [s] d := by
  obtain ⟨d, hroute, text, tags, hi⟩ := route_of_peekFrom h
  exact ⟨_, _, hroute.trans (.text hi .here)⟩

end Program

end Ink

end StoryServer
