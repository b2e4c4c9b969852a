import StoryServer.Proofs.Bridge.Running
import StoryServer.Proofs.Session.Registry

/-!
# Who owns a process

A server whose stories run in processes is `Kept` when every process that runs is owned, by one
session or as one in flight: started and not yet in the table, or out of it and not yet ended.  Each
operation on the table keeps that: ending a session takes its process in flight and ends it
(`leads_endSession`), and a creation has a process in flight from its opening until it is put into
the table, where the process that it replaces is ended (`leads_create`).
-/

namespace StoryServer

open Bridge

variable {σ : Type}

/-- Every process that runs belongs to one session or is in flight. -/
structure Custody (held : List (String × StoryId)) (pending : List StoryId) (w : World σ) : Prop where
  /-- No two sessions have the same id. -/
  ids : (held.map Prod.fst).Nodup
  owners : (held.map Prod.snd ++ pending).Nodup
  /-- Who has an owner was started. -/
  known : ∀ n ∈ held.map Prod.snd ++ pending, n < w.processes.length
  owned : ∀ n, (w.look n).running = true → n ∈ held.map Prod.snd ++ pending
  belongs : ∀ n, (w.look n).running = true → (w.look n).attached = true

namespace Custody

variable {held : List (String × StoryId)} {pending : List StoryId} {w w' : World σ} {n : StoryId}

theorem calms (h : Custody held pending w) (hc : Calms w w') : Custody held pending w' where
  ids := h.ids
  owners := h.owners
  known := fun n hn => Nat.lt_of_lt_of_le (h.known n hn) hc.grows
  owned := fun n hn => h.owned n (hc.ran n hn).1
  belongs := fun n hn => (hc.ran n hn).2 (h.belongs n (hc.ran n hn).1)

/-- It does not matter where an owner is. -/
theorem perm {held' : List (String × StoryId)} {pending' : List StoryId}
    (h : Custody held pending w) (hids : (held'.map Prod.fst).Nodup)
    (hp : (held.map Prod.snd ++ pending).Perm (held'.map Prod.snd ++ pending')) :
    Custody held' pending' w where
  ids := hids
  owners := hp.nodup_iff.mp h.owners
  known := fun n hn => h.known n (hp.mem_iff.mpr hn)
  owned := fun n hn => hp.mem_iff.mp (h.owned n hn)
  belongs := h.belongs

/-- A new process is in flight. -/
theorem opens (h : Custody held pending w) (ho : Opens w n w') :
    Custody held (n :: pending) w' := by
  have hgrows : w.processes.length < w'.processes.length := ho.new ▸ ho.known
  have hnew : n ∉ held.map Prod.snd ++ pending := fun hn =>
    Nat.lt_irrefl _ (ho.new ▸ h.known n hn)
  have hmid : (held.map Prod.snd ++ n :: pending).Perm (n :: (held.map Prod.snd ++ pending)) :=
    List.perm_middle
  refine ⟨h.ids, hmid.nodup_iff.mpr (List.nodup_cons.mpr ⟨hnew, h.owners⟩), fun m hm => ?_,
    fun m hm => hmid.mem_iff.mpr ?_, fun m hm => ?_⟩
  · rcases List.mem_cons.mp (hmid.mem_iff.mp hm) with rfl | hm
    · exact ho.known
    · exact Nat.lt_trans (h.known m hm) hgrows
  · by_cases hne : m = n
    · exact hne ▸ List.mem_cons_self
    · exact List.mem_cons_of_mem n (h.owned m (ho.others m hne hm).1)
  · by_cases hne : m = n
    · subst hne
      exact ho.belongs hm
    · obtain ⟨hran, ha⟩ := ho.others m hne hm
      exact ha (h.belongs m hran)

/-- A process in flight is settled when it does not run any more. -/
theorem ended (h : Custody held (n :: pending) w) (hc : Calms w w')
    (hn : (w'.look n).running = false) : Custody held pending w' := by
  have hmid : (held.map Prod.snd ++ n :: pending).Perm (n :: (held.map Prod.snd ++ pending)) :=
    List.perm_middle
  have hafter := h.calms hc
  refine ⟨h.ids, (List.nodup_cons.mp (hmid.nodup_iff.mp h.owners)).2, fun m hm =>
    hafter.known m (hmid.mem_iff.mpr (List.mem_cons_of_mem n hm)), fun m hm => ?_, hafter.belongs⟩
  rcases List.mem_cons.mp (hmid.mem_iff.mp (hafter.owned m hm)) with rfl | hm
  · rw [hn] at hm
    cases hm
  · exact hm

/-- The process of a session that leaves the table is in flight. -/
theorem drop {id : String} (h : Custody held pending w) (hm : (id, n) ∈ held) :
    Custody (held.filter fun p => p.1 != id) (n :: pending) w := by
  have hperm : (held.map Prod.snd).Perm (n :: (held.filter fun p => p.1 != id).map Prod.snd) :=
    Ledger.stories_drop (l := ⟨held, []⟩) h.ids hm
  exact h.perm (h.ids.sublist (List.filter_sublist.map _))
    ((hperm.append_right pending).trans List.perm_middle.symm)

/-- A process in flight that is put into the table under a free id. -/
theorem hold {id : String} (h : Custody held (n :: pending) w) (hfree : id ∉ held.map Prod.fst) :
    Custody (held ++ [(id, n)]) pending w := by
  refine h.perm ?_ (by simp)
  rw [List.map_append, List.nodup_append]
  refine ⟨h.ids, by simp, fun a ha b hb hab => hfree ?_⟩
  obtain rfl := List.mem_singleton.mp hb
  exact hab ▸ ha

/-- When the table is emptied, the processes of all sessions are in flight. -/
theorem clear (h : Custody held pending w) : Custody [] (held.map Prod.snd ++ pending) w :=
  h.perm List.nodup_nil (List.Perm.refl _)

end Custody

namespace Server

/-- Every process that runs belongs to one session, but for those in flight. -/
def Kept (pending : List StoryId) (s : Server (World σ)) : Prop :=
  Custody s.held pending s.stage.engine

variable {pending : List StoryId} {s t : Server (World σ)}

theorem Kept.aside (h : Kept pending s) (ht : Aside Calms s t) : Kept pending t := by
  rw [Kept, ht.2]
  exact h.calms ht.1

theorem upholds_of_aside {α : Type} {act : Act (Server (World σ)) α}
    (h : Act.Leads (Aside Calms) act) : Act.Leads (Upholds (Kept pending)) act :=
  fun s hs => hs.aside (h s)

/-- A session that leaves the table has its process in flight. -/
theorem Kept.drop {id : String} {session : Session} (h : Kept pending s)
    (hs : s.sessions.find? (·.id == id) = some session) :
    Kept (session.story :: pending)
      { s with sessions := s.sessions.filter fun t => t.id != id } := by
  have hid : session.id = id := by simpa using List.find?_some hs
  have hmem : (id, session.story) ∈ s.held :=
    hid ▸ List.mem_map_of_mem (f := fun t : Session => (t.id, t.story)) (List.mem_of_find?_eq_some hs)
  have hheld : ({ s with sessions := s.sessions.filter fun t => t.id != id } : Server (World σ)).held =
      s.held.filter fun p => p.1 != id := by
    rw [held, held, List.filter_map]
    rfl
  rw [Kept, hheld]
  exact Custody.drop h hmem

/-- A process in flight that is put into the table. -/
theorem Kept.hold {id : String} {story : StoryId} (source : String) (h : Kept (story :: pending) s)
    (hfree : s.sessions.find? (·.id == id) = none) :
    Kept pending { s with sessions := s.sessions ++ [{ id, story, source }] } := by
  have hheld : ({ s with sessions := s.sessions ++ [{ id, story, source }] } : Server (World σ)).held =
      s.held ++ [(id, story)] := by
    rw [held, held, List.map_append]
    rfl
  rw [Kept, hheld]
  refine Custody.hold h fun hmem => ?_
  rw [held, List.map_map] at hmem
  obtain ⟨session, hs, he⟩ := List.mem_map.mp hmem
  exact List.find?_eq_none.mp hfree session hs (beq_iff_eq.mpr he)

end Server

namespace Registry

open Server

variable (peer : Peer σ) (settings : Settings)
variable {pending : List StoryId} {s : Server (World σ)}

/-- Closing the story of a session that is out of the table ends its process. -/
theorem close_kept {session : Session} (h : Kept (session.story :: pending) s) :
    ∃ t, (close (Bridge.engine peer settings) session).on s = (.ok (), t) ∧ Kept pending t ∧
      t.sessions = s.sessions := by
  obtain ⟨y, hend, hcalms, hdead⟩ := World.terminate_ends session.story s.stage
  have hclose : (close (Bridge.engine peer settings) session).on s =
      (.ok (), { s with stage := y }) := by
    have hterminate : (Bridge.engine peer settings).close session.story =
        World.terminate session.story := rfl
    rw [close, Server.onStage, Act.on_within, hterminate, hend]
  exact ⟨_, hclose, Custody.ended h hcalms (hdead (Custody.belongs h _)), rfl⟩

theorem leads_endSession (id : String) :
    Act.Leads (Upholds (Kept pending)) (endSession (Bridge.engine peer settings) id) := by
  intro s h
  rw [endSession, Act.on_bind_of_ok (remove_on id s)]
  cases hs : s.sessions.find? (·.id == id) with
  | none =>
      rw [filter_of_find?_none hs]
      exact h
  | some session =>
      obtain ⟨t, ht, hkept, -⟩ := close_kept peer settings (h.drop hs)
      dsimp only
      rw [Act.on_bind_of_ok ht]
      exact hkept

theorem leads_makeRoom (id : Option String) :
    Act.Leads (Upholds (Kept pending)) (makeRoom (Bridge.engine peer settings) id) := by
  rw [makeRoom]
  cases givenId id with
  | none => exact Act.leads_pure ()
  | some id => exact Act.leads_bind (leads_endSession peer settings id) fun _ => Act.leads_pure ()

/-- A process in flight is put under an id, and the one that it replaces is ended. -/
theorem place_kept {story : StoryId} (id source : String) (h : Kept (story :: pending) s) :
    ∃ t, (place (Bridge.engine peer settings) story id source).on s = (.ok (), t) ∧
      Kept pending t := by
  rw [place, Act.on_bind_of_ok (remove_on id s)]
  cases hs : s.sessions.find? (·.id == id) with
  | none =>
      rw [filter_of_find?_none hs]
      exact ⟨_, rfl, h.hold source hs⟩
  | some session =>
      have hfree : (s.sessions.filter fun t => t.id != id).find? (·.id == id) = none :=
        List.find?_eq_none.mpr fun t ht he => by
          simpa [eq_of_beq he] using (List.mem_filter.mp ht).2
      have hswap : Kept (story :: session.story :: pending)
          { s with sessions := s.sessions.filter fun t => t.id != id } :=
        Custody.perm (h.drop hs) (Custody.ids (h.drop hs)) ((List.Perm.swap _ _ _).append_left _)
      obtain ⟨t, ht, hkept, -⟩ := close_kept peer settings (hswap.hold source hfree)
      exact ⟨t, ht, hkept⟩

/-- A process in flight gets a session. -/
theorem install_kept {story : StoryId} (id : Option String) (source : String)
    (h : Kept (story :: pending) s) :
    Kept pending ((install (Bridge.engine peer settings) story id source).on s).2 := by
  obtain ⟨name, ids, hname, -⟩ := chooseId_on id s
  have hids : Kept (story :: pending) { s with ids } := h
  obtain ⟨t, ht, hkept⟩ := place_kept peer settings name source hids
  rw [install, Act.on_bind_of_ok hname, Act.on_bind_of_ok ht]
  exact hkept

/-- A session whose story is opened in a new process. -/
theorem leads_create {openStory : Act (Stage (World σ)) StoryId} (ho : OpensOne openStory)
    (id : Option String) (source : String) : Act.Leads (Upholds (Kept pending))
      (create (Bridge.engine peer settings) (Server.onStage openStory) id source) := by
  refine Act.leads_bind (leads_makeRoom peer settings id) fun _ s h => ?_
  have hopened := ho s.stage
  rw [Act.on_bind, Server.onStage, Act.on_within]
  generalize openStory.on s.stage = run at hopened
  obtain ⟨r, y⟩ := run
  cases r with
  | error f => exact Custody.calms h hopened
  | ok story =>
      have hflight : Kept (story :: pending) { s with stage := y } := Custody.opens h hopened
      exact install_kept peer settings id source hflight

/-- The processes of sessions that are out of the table are ended one after another. -/
theorem closeEach_kept (sessions : List Session)
    (h : Kept (sessions.map (·.story) ++ pending) s) :
    ∃ t, (closeEach (Bridge.engine peer settings) sessions).on s = (.ok (), t) ∧
      Kept pending t ∧ t.sessions = s.sessions := by
  induction sessions generalizing s with
  | nil => exact ⟨s, rfl, h, rfl⟩
  | cons session rest ih =>
      obtain ⟨t, ht, hkept, hsessions⟩ := close_kept peer settings h
      obtain ⟨u, hu, hrest, hlast⟩ := ih hkept
      exact ⟨u, (Act.on_bind_of_ok ht).trans hu, hrest, hlast.trans hsessions⟩

/-- No process runs after all sessions were closed. -/
theorem closeAll_kept (h : Kept [] s) :
    ∃ t, (closeAll (Bridge.engine peer settings)).on s = (.ok (), t) ∧
      ∀ n, (t.stage.engine.look n).running = false := by
  have hstories : s.held.map Prod.snd = s.sessions.map (·.story) := by
    rw [held, List.map_map]
    rfl
  have hclear : Kept (s.sessions.map (·.story) ++ []) { s with sessions := [] } :=
    hstories ▸ Custody.clear h
  obtain ⟨t, ht, hkept, hnone⟩ := closeEach_kept peer settings s.sessions hclear
  refine ⟨t, ht, fun n => Bool.eq_false_iff.mpr fun hn => ?_⟩
  have howned := Custody.owned hkept n hn
  rw [held, hnone] at howned
  cases howned

end Registry

end StoryServer
