import StoryServer.Story.Engine

/-!
# Who owns a story

A `Ledger` is what matters for ownership: which session holds which story, and how often
each opened story was closed.  Three things happen to it besides opening: a session is
dropped from the table, a story is closed, and a story is put into the table.

`Ledger.Owned installed pending` is the invariant.  `installed` is everything that was put
into the table so far, in order, and `pending` are the stories in flight: opened and not
yet in the table, or out of it and not yet closed.  Every story is either held by one
session or in flight, and then it has not been closed, or it has been closed once.  Between
operations nothing is in flight; while the story of a new session is being opened, any
number of creations may be nested, and each keeps its own story in flight.
-/

namespace StoryServer

/-- Who holds which story, and how often each opened story was closed. -/
structure Ledger where
  /-- The live sessions with their stories. -/
  held : List (String × StoryId)
  /-- How often each opened story was closed, first opened first. -/
  closings : List Nat

/-- The story that was installed last under an id. -/
def latest (installed : List (String × StoryId)) (id : String) : Option StoryId :=
  (installed.reverse.find? fun p => p.1 == id).map Prod.snd

theorem latest_concat_self (installed : List (String × StoryId)) (id : String) (n : StoryId) :
    latest (installed ++ [(id, n)]) id = some n := by
  simp [latest]

theorem latest_concat_of_ne (installed : List (String × StoryId)) {id id' : String} (n : StoryId)
    (h : id ≠ id') : latest (installed ++ [(id, n)]) id' = latest installed id' := by
  simp [latest, h]

namespace Ledger

/-- The stories that sessions hold. -/
def stories (l : Ledger) : List StoryId := l.held.map Prod.snd

def opening (l : Ledger) : Ledger := { l with closings := l.closings ++ [0] }

/-- A session out of the table. -/
def drop (id : String) (l : Ledger) : Ledger :=
  { l with held := l.held.filter fun p => p.1 != id }

/-- Dropping a session removes its story and no other. -/
theorem stories_drop {l : Ledger} {id : String} {n : StoryId} (h : (l.held.map Prod.fst).Nodup)
    (hm : (id, n) ∈ l.held) : l.stories.Perm (n :: (l.drop id).stories) := by
  obtain ⟨front, back, hl⟩ := List.append_of_mem hm
  rw [hl, List.map_append, List.map_cons] at h
  obtain ⟨hid, -⟩ := List.nodup_cons.mp (List.perm_middle.nodup_iff.mp h)
  rw [List.mem_append, not_or] at hid
  have hother : ∀ part : List (String × StoryId), id ∉ part.map Prod.fst →
      (part.filter fun p => p.1 != id) = part := fun part hpart =>
    List.filter_eq_self.mpr fun p hp =>
      bne_iff_ne.mpr fun he => hpart (he ▸ List.mem_map_of_mem hp)
  have hdrop : (l.drop id).held = front ++ back := by
    rw [drop, hl, List.filter_append, List.filter_cons_of_neg (by simp), hother front hid.1,
      hother back hid.2]
  rw [stories, stories, hdrop, hl, List.map_append, List.map_append, List.map_cons]
  exact List.perm_middle

def close (n : StoryId) (l : Ledger) : Ledger := { l with closings := l.closings.modify n (· + 1) }

/-- A story put into the table. -/
def hold (id : String) (n : StoryId) (l : Ledger) : Ledger := { l with held := l.held ++ [(id, n)] }

/-- Every story is held by one session or in flight, or has been closed once. -/
structure Owned (installed : List (String × StoryId)) (pending : List StoryId) (l : Ledger) :
    Prop where
  /-- No two sessions have the same id. -/
  ids : (l.held.map Prod.fst).Nodup
  owners : (l.stories ++ pending).Nodup
  /-- A story with an owner has not been closed. -/
  unclosed : ∀ n ∈ l.stories ++ pending, l.closings[n]? = some 0
  /-- A story without an owner has been closed once. -/
  closed : ∀ n k, l.closings[n]? = some k → n ∉ l.stories ++ pending → k = 1
  /-- A session has the story that was installed last under its id. -/
  installed : ∀ p ∈ l.held, latest installed p.1 = some p.2

namespace Owned

variable {installed : List (String × StoryId)} {pending : List StoryId} {l : Ledger}

theorem start : Owned [] [] ⟨[], []⟩ where
  ids := List.nodup_nil
  owners := List.nodup_nil
  unclosed n hn := by cases hn
  closed n k hk _ := by simp at hk
  installed p hp := by cases hp

theorem perm {pending' : List StoryId} (h : Owned installed pending l) (hp : pending.Perm pending') :
    Owned installed pending' l := by
  have hall : (l.stories ++ pending).Perm (l.stories ++ pending') := hp.append_left _
  exact
    { ids := h.ids
      owners := hall.nodup_iff.mp h.owners
      unclosed := fun n hn => h.unclosed n (hall.mem_iff.mpr hn)
      closed := fun n k hk hn => h.closed n k hk fun hm => hn (hall.mem_iff.mp hm)
      installed := h.installed }

/-- A new story is in flight. -/
theorem opening (h : Owned installed pending l) :
    Owned installed (l.closings.length :: pending) l.opening := by
  have hnew : l.closings.length ∉ l.stories ++ pending := by
    intro hm
    have := h.unclosed _ hm
    simp at this
  have hmid : (l.stories ++ l.closings.length :: pending).Perm
      (l.closings.length :: (l.stories ++ pending)) := List.perm_middle
  refine ⟨h.ids, ?_, fun n hn => ?_, fun n k hk hn => ?_, h.installed⟩
  · exact hmid.nodup_iff.mpr (List.nodup_cons.mpr ⟨hnew, h.owners⟩)
  · rcases List.mem_cons.mp (hmid.mem_iff.mp hn) with rfl | hn
    · simp [Ledger.opening]
    · have hn' := h.unclosed n hn
      have hlt : n < l.closings.length := (List.getElem?_eq_some_iff.mp hn').1
      rw [Ledger.opening, List.getElem?_append_left hlt]
      exact hn'
  · have hn' : n ∉ l.closings.length :: (l.stories ++ pending) := fun hm => hn (hmid.mem_iff.mpr hm)
    rw [List.mem_cons, not_or] at hn'
    rw [Ledger.opening] at hk
    have hlt : n < l.closings.length := by
      have hle := (List.getElem?_eq_some_iff.mp hk).1
      rw [List.length_append] at hle
      exact Nat.lt_of_le_of_ne (Nat.le_of_lt_succ hle) hn'.1
    rw [List.getElem?_append_left hlt] at hk
    exact h.closed n k hk hn'.2

/-- A story whose session is dropped is in flight. -/
theorem drop {id : String} {n : StoryId} (h : Owned installed pending l) (hm : (id, n) ∈ l.held) :
    Owned installed (n :: pending) (l.drop id) := by
  have hperm : (l.stories ++ pending).Perm ((l.drop id).stories ++ n :: pending) :=
    ((stories_drop h.ids hm).append_right pending).trans List.perm_middle.symm
  refine ⟨h.ids.sublist (List.filter_sublist.map _), hperm.nodup_iff.mp h.owners, fun m hm => ?_,
    fun m k hk hm => ?_, fun p hp => ?_⟩
  · exact h.unclosed m (hperm.mem_iff.mpr hm)
  · exact h.closed m k hk fun hc => hm (hperm.mem_iff.mp hc)
  · exact h.installed p (List.mem_filter.mp hp).1

/-- When the table is emptied, all stories of sessions are in flight. -/
theorem clear (h : Owned installed pending l) :
    Owned installed (l.stories ++ pending) { l with held := [] } where
  ids := List.nodup_nil
  owners := h.owners
  unclosed := h.unclosed
  closed := h.closed
  installed p hp := by cases hp

/-- Closing a story in flight settles it. -/
theorem close {n : StoryId} (h : Owned installed (n :: pending) l) :
    Owned installed pending (l.close n) := by
  have hmid : (l.stories ++ n :: pending).Perm (n :: (l.stories ++ pending)) := List.perm_middle
  have hcons := List.nodup_cons.mp (hmid.nodup_iff.mp h.owners)
  have hget : ∀ m, (l.close n).closings[m]? = if n = m then l.closings[m]?.map (· + 1)
      else l.closings[m]? := by
    intro m
    rw [Ledger.close, List.getElem?_modify]
    split <;> simp
  refine ⟨h.ids, hcons.2, fun m hm => ?_, fun m k hk hm => ?_, h.installed⟩
  · have hne : n ≠ m := fun he => hcons.1 (he ▸ hm)
    rw [hget, if_neg hne]
    exact h.unclosed m (hmid.mem_iff.mpr (List.mem_cons_of_mem _ hm))
  · rw [hget] at hk
    by_cases he : n = m
    · subst he
      rw [if_pos rfl, h.unclosed n (hmid.mem_iff.mpr List.mem_cons_self)] at hk
      simpa using hk.symm
    · rw [if_neg he] at hk
      refine h.closed m k hk fun hc => ?_
      rcases List.mem_cons.mp (hmid.mem_iff.mp hc) with hmn | hc
      · exact he hmn.symm
      · exact hm hc

/-- A story in flight that is put into the table under a free id. -/
theorem hold {id : String} {n : StoryId} (h : Owned installed (n :: pending) l)
    (hfree : id ∉ l.held.map Prod.fst) :
    Owned (installed ++ [(id, n)]) pending (l.hold id n) := by
  have hperm : (l.stories ++ n :: pending).Perm ((l.hold id n).stories ++ pending) := by
    simp [stories, Ledger.hold]
  refine ⟨?_, hperm.nodup_iff.mp h.owners, fun m hm => ?_, fun m k hk hm => ?_, fun p hp => ?_⟩
  · rw [Ledger.hold, List.map_append, List.nodup_append]
    refine ⟨h.ids, by simp, ?_⟩
    intro a ha b hb hab
    obtain rfl : b = id := by simpa using hb
    exact hfree (hab ▸ ha)
  · exact h.unclosed m (hperm.mem_iff.mpr hm)
  · exact h.closed m k hk fun hc => hm (hperm.mem_iff.mp hc)
  · rcases List.mem_append.mp hp with hp | hp
    · have hne : id ≠ p.1 := fun he => hfree (he ▸ List.mem_map_of_mem hp)
      rw [latest_concat_of_ne _ _ hne]
      exact h.installed p hp
    · obtain rfl : p = (id, n) := by simpa using hp
      exact latest_concat_self _ _ _

end Owned

end Ledger

end StoryServer
