import StoryServer.Proofs.Ink.Frame
import StoryServer.Proofs.Session.Ledger
import StoryServer.Proofs.Tool.Frame
import StoryServer.Session.Registry

/-!
# What the table of sessions does to the ledger

`Server.ledger` reads the ledger off a server that tells its stories in process.  A server
is `Settled` when its ledger is owned.  Each operation on the table keeps that, with the
stories it takes in flight and settles again: ending a session (`endSession_settled`),
putting a story into the table (`install_settled`), and closing what is left
(`closeAll_settled`).  None of them fails, because a story that has an owner is on the
shelf.
-/

namespace StoryServer

namespace Server

/-- Who holds which story of the shelf, and how often each was closed. -/
def ledger (s : Server Ink.Shelf) : Ledger := ⟨s.held, s.stage.engine.opened.map (·.closings)⟩

/-- The ledger is owned, with what was installed so far and what is in flight. -/
def Settled (installed : List (String × StoryId)) (pending : List StoryId)
    (s : Server Ink.Shelf) : Prop :=
  s.ledger.Owned installed pending

variable {installed : List (String × StoryId)} {pending : List StoryId} {s t : Server Ink.Shelf}

/-- The ledger is all that ownership looks at. -/
theorem Settled.of_ledger (h : Settled installed pending s) (ht : t.ledger = s.ledger) :
    Settled installed pending t := by
  rw [Settled, ht]
  exact h

/-- The ledger looks only at what operations aside keep. -/
theorem ledger_of_holdings (h : holdings Ink.Shelf.fixed t = holdings Ink.Shelf.fixed s) :
    t.ledger = s.ledger := by
  have hfixed : ∀ u : Server Ink.Shelf,
      u.ledger = ⟨(holdings Ink.Shelf.fixed u).2, (holdings Ink.Shelf.fixed u).1.map Prod.snd⟩ := by
    intro u
    rw [ledger, holdings, Ink.Shelf.fixed, List.map_map]
    rfl
  rw [hfixed, hfixed, h]

theorem Settled.keeps {α : Type} {act : Act (Server Ink.Shelf) α}
    (h : Settled installed pending s) (hk : Act.Keeps (holdings Ink.Shelf.fixed) act) :
    Settled installed pending (act.on s).2 :=
  h.of_ledger (ledger_of_holdings (hk s))

/-- The ids of the ledger are those of the sessions. -/
theorem ledger_ids (s : Server Ink.Shelf) : s.ledger.held.map Prod.fst = s.sessions.map (·.id) := by
  rw [ledger, held, List.map_map]
  rfl

/-- A story in flight is on the shelf. -/
theorem Settled.story {n : StoryId} (h : Settled installed pending s) (hn : n ∈ pending) :
    ∃ story, s.stage.engine.opened[n]? = some story := by
  have hc := Ledger.Owned.unclosed h n (List.mem_append_right _ hn)
  rw [ledger, List.getElem?_map] at hc
  obtain ⟨story, hs, -⟩ := Option.map_eq_some_iff.mp hc
  exact ⟨story, hs⟩

end Server

namespace Registry

open Server

variable {installed : List (String × StoryId)} {pending : List StoryId} {s : Server Ink.Shelf}
variable (setup : Ink.Setup)

/-- Counting one more closing of a story counts it in the ledger. -/
theorem closings_set {opened : List Ink.Story} {n : StoryId} {story : Ink.Story}
    (h : opened[n]? = some story) :
    (opened.set n { story with closings := story.closings + 1 }).map (·.closings) =
      (opened.map (·.closings)).modify n (· + 1) := by
  refine List.ext_getElem? fun m => ?_
  obtain ⟨hlt, -⟩ := List.getElem?_eq_some_iff.mp h
  rw [List.map_set, List.getElem?_set, List.getElem?_modify]
  split
  · next hm =>
      subst hm
      rw [List.length_map, if_pos hlt, List.getElem?_map, h]
      rfl
  · rw [id_map']

theorem close_on {session : Session} {story : Ink.Story}
    (h : s.stage.engine.opened[session.story]? = some story) :
    (close (Ink.engine setup) session).on s =
      (.ok (), { s with stage := { s.stage with engine :=
        { opened := s.stage.engine.opened.set session.story
            { story with closings := story.closings + 1 } } } }) := by
  rw [close, Server.onStage, Act.on_within]
  simp only [Ink.engine, Stage.inEngine, Act.on_within, Ink.Shelf.withStory_on _ h, Act.on_modify]

/-- Closing the story of a session that is out of the table settles it. -/
theorem close_settled {session : Session} (h : Settled installed (session.story :: pending) s) :
    ∃ t, (close (Ink.engine setup) session).on s = (.ok (), t) ∧ Settled installed pending t ∧
      t.sessions = s.sessions := by
  obtain ⟨story, hs⟩ := h.story List.mem_cons_self
  refine ⟨_, close_on setup hs, ?_, rfl⟩
  have hledger : ({ s with stage := { s.stage with engine :=
      { opened := s.stage.engine.opened.set session.story
          { story with closings := story.closings + 1 } } } } : Server Ink.Shelf).ledger =
      s.ledger.close session.story :=
    congrArg (Ledger.mk s.held) (closings_set hs)
  rw [Settled, hledger]
  exact Ledger.Owned.close h

theorem remove_on {ε : Type} (id : String) (s : Server ε) :
    (remove id).on s = (.ok (s.sessions.find? (·.id == id)),
      { s with sessions := s.sessions.filter fun t => t.id != id }) := rfl

/-- Dropping a session from the table drops it from the ledger. -/
theorem ledger_drop (id : String) (s : Server Ink.Shelf) :
    ({ s with sessions := s.sessions.filter fun t => t.id != id } : Server Ink.Shelf).ledger =
      s.ledger.drop id := by
  simp only [ledger, Ledger.drop, held, List.filter_map]
  rfl

theorem filter_of_find?_none {id : String} {sessions : List Session}
    (h : sessions.find? (·.id == id) = none) : (sessions.filter fun t => t.id != id) = sessions :=
  List.filter_eq_self.mpr fun t ht => by simpa using List.find?_eq_none.mp h t ht

/-- No session with an id, nothing to drop. -/
theorem drop_of_find?_none {id : String} (h : s.sessions.find? (·.id == id) = none) :
    s.ledger.drop id = s.ledger := by
  rw [← ledger_drop, filter_of_find?_none h]

/-- The session that is taken out of the table has its story in flight. -/
theorem drop_settled {id : String} {session : Session} (h : Settled installed pending s)
    (hs : s.sessions.find? (·.id == id) = some session) :
    Settled installed (session.story :: pending)
      { s with sessions := s.sessions.filter fun t => t.id != id } := by
  have hid : session.id = id := by simpa using List.find?_some hs
  have hmem : (id, session.story) ∈ s.ledger.held :=
    hid ▸ List.mem_map_of_mem (f := fun t : Session => (t.id, t.story)) (List.mem_of_find?_eq_some hs)
  rw [Settled, ledger_drop]
  exact Ledger.Owned.drop h hmem

/-- Ending a session closes its story, and an unknown id is passed over. -/
theorem endSession_settled (id : String) (h : Settled installed pending s) :
    ∃ b t, (endSession (Ink.engine setup) id).on s = (.ok b, t) ∧ Settled installed pending t := by
  cases hs : s.sessions.find? (·.id == id) with
  | none =>
      refine ⟨false, { s with sessions := s.sessions.filter fun t => t.id != id }, ?_, ?_⟩
      · rw [endSession, Act.on_bind_of_ok (remove_on id s)]
        simp only [hs, Act.on_pure]
      · refine h.of_ledger ?_
        rw [ledger_drop, drop_of_find?_none hs]
  | some session =>
      obtain ⟨t, ht, hsettled, -⟩ := close_settled setup (drop_settled h hs)
      refine ⟨true, ((note s!"[inky] session {id}: ended").on t).2, ?_,
        hsettled.keeps (keeps_note _)⟩
      rw [endSession, Act.on_bind_of_ok (remove_on id s)]
      simp only [hs, Act.on_bind_of_ok ht]
      rfl

theorem makeRoom_settled (id : Option String) (h : Settled installed pending s) :
    ∃ t, (makeRoom (Ink.engine setup) id).on s = (.ok (), t) ∧ Settled installed pending t := by
  rw [makeRoom]
  cases givenId id with
  | none => exact ⟨s, rfl, h⟩
  | some id =>
      obtain ⟨b, t, ht, hsettled⟩ := endSession_settled setup id h
      exact ⟨t, Act.on_bind_of_ok ht, hsettled⟩

/-! ## New ids -/

theorem longId_length (live : List String) : ∀ id ∈ live, id.length < (longId live).length := by
  intro id hid
  have hfold : ∀ (ids : List String) (n : Nat), n ≤ ids.foldl (fun n id => max n id.length) n ∧
      ∀ id ∈ ids, id.length ≤ ids.foldl (fun n id => max n id.length) n := by
    intro ids
    induction ids with
    | nil => exact fun n => ⟨Nat.le_refl n, by simp⟩
    | cons a rest ih =>
        intro n
        obtain ⟨hle, hmem⟩ := ih (max n a.length)
        refine ⟨Nat.le_trans (Nat.le_max_left _ _) hle, fun id hid => ?_⟩
        rcases List.mem_cons.mp hid with rfl | hid
        · exact Nat.le_trans (Nat.le_max_right _ _) hle
        · exact hmem id hid
  rw [longId, String.length_ofList, List.length_replicate]
  exact Nat.lt_succ_of_le ((hfold live 0).2 id hid)

/-- A new id is not live, whatever the supply gives. -/
theorem freshId_free (live : List String) : ∀ (n : Nat) (ids : IdSupply),
    (freshId live n ids).1 ∉ live
  | 0, _ => fun hm => Nat.lt_irrefl _ (longId_length live _ hm)
  | n + 1, ids => by
      rw [freshId]
      dsimp only
      split
      · exact freshId_free live n _
      · next h => simpa using h

theorem newId_on {ε : Type} (s : Server ε) :
    ∃ id ids, (newId (ε := ε)).on s = (.ok id, { s with ids }) ∧ id ∉ s.sessions.map (·.id) := by
  have hfree := freshId_free (s.sessions.map (·.id)) (s.sessions.length + s.ids.listed.length + 1)
    s.ids
  exact ⟨_, _, rfl, hfree⟩

/-- The id of a new session; the table stays as it is. -/
theorem chooseId_on {ε : Type} (id : Option String) (s : Server ε) :
    ∃ name ids, (chooseId (ε := ε) id).on s = (.ok name, { s with ids }) ∧
      (givenId id = none → name ∉ s.sessions.map (·.id)) := by
  rw [chooseId]
  cases givenId id with
  | some name => exact ⟨name, s.ids, rfl, by simp⟩
  | none =>
      obtain ⟨name, ids, hn, hfree⟩ := newId_on s
      exact ⟨name, ids, hn, fun _ => hfree⟩

/-! ## Putting a story into the table -/

/-- Holding a story in the table holds it in the ledger. -/
theorem ledger_hold (id : String) (story : StoryId) (source : String) (s : Server Ink.Shelf) :
    ({ s with sessions := s.sessions ++ [{ id, story, source }] } : Server Ink.Shelf).ledger =
      s.ledger.hold id story := by
  simp only [ledger, Ledger.hold, held, List.map_append, List.map_cons, List.map_nil]

/-- Nothing is left under an id that was dropped. -/
theorem drop_free (id : String) (s : Server Ink.Shelf) :
    id ∉ (s.ledger.drop id).held.map Prod.fst := by
  intro hm
  obtain ⟨p, hp, rfl⟩ := List.mem_map.mp hm
  simpa using (List.mem_filter.mp hp).2

/-- A story in flight is put under an id, and what it replaces is closed. -/
theorem place_settled {story : StoryId} (id source : String)
    (h : Settled installed (story :: pending) s) :
    ∃ t, (place (Ink.engine setup) story id source).on s = (.ok (), t) ∧
      Settled (installed ++ [(id, story)]) pending t := by
  have hhold : ∀ {pending}, Ledger.Owned installed (story :: pending) (s.ledger.drop id) →
      Settled (installed ++ [(id, story)]) pending
        { s with sessions := (s.sessions.filter fun t => t.id != id) ++ [{ id, story, source }] } := by
    intro pending hdropped
    have hl := ledger_hold id story source
      { s with sessions := s.sessions.filter fun t => t.id != id }
    rw [ledger_drop] at hl
    rw [Settled, hl]
    exact hdropped.hold (drop_free id s)
  rw [place, Act.on_bind_of_ok (remove_on id s)]
  cases hs : s.sessions.find? (·.id == id) with
  | none =>
      refine ⟨_, rfl, hhold ?_⟩
      rw [drop_of_find?_none hs]
      exact h
  | some session =>
      have hdropped := drop_settled h hs
      rw [Settled, ledger_drop] at hdropped
      obtain ⟨t, ht, hsettled, -⟩ :=
        close_settled setup (hhold (hdropped.perm (List.Perm.swap story session.story pending)))
      exact ⟨t, ht, hsettled⟩

/-- A story in flight gets a session. -/
theorem install_settled {story : StoryId} (id : Option String) (source : String)
    (h : Settled installed (story :: pending) s) :
    ∃ name t, (install (Ink.engine setup) story id source).on s = (.ok name, t) ∧
      Settled (installed ++ [(name, story)]) pending t := by
  obtain ⟨name, ids, hname, -⟩ := chooseId_on id s
  obtain ⟨t, ht, hsettled⟩ := place_settled setup name source (s := { s with ids }) h
  refine ⟨name, ((note s!"[inky] session {name}: created").on t).2, ?_,
    hsettled.keeps (keeps_note _)⟩
  rw [install, Act.on_bind_of_ok hname, Act.on_bind_of_ok ht]
  rfl

/-- A creation without an id fails exactly as its opening does.  Otherwise its id is not live
when the story is there, no story is closed for it, and the session is put last. -/
theorem create_new {ε : Type} (engine : StoryEngine ε) (openStory : Act (Server ε) StoryId)
    {id : Option String} (hid : givenId id = none) (source : String) (s : Server ε) :
    match openStory.on s with
    | (.error f, t) => (create engine openStory id source).on s = (.error f, t)
    | (.ok story, t) => ∃ name u, (create engine openStory id source).on s = (.ok name, u) ∧
        name ∉ t.sessions.map (·.id) ∧ u.stage.engine = t.stage.engine ∧
        u.sessions = t.sessions ++ [{ id := name, story, source }] := by
  have hroom : (makeRoom engine id).on s = (.ok (), s) := by
    rw [makeRoom, hid]
    rfl
  rw [create, Act.on_bind_of_ok hroom, Act.on_bind]
  generalize openStory.on s = run
  obtain ⟨r, t⟩ := run
  cases r with
  | error f => rfl
  | ok story =>
      obtain ⟨name, ids, hname, hfree⟩ := chooseId_on id t
      have hnone : t.sessions.find? (·.id == name) = none :=
        List.find?_eq_none.mpr fun session hs he =>
          hfree hid (eq_of_beq he ▸ List.mem_map_of_mem hs)
      have hplace : (place engine story name source).on { t with ids } = (.ok (), { t with
          ids, sessions := (t.sessions.filter fun t => t.id != name) ++
            [{ id := name, story, source }] }) := by
        rw [place, Act.on_bind_of_ok (remove_on name _)]
        simp only [hnone]
        rfl
      rw [filter_of_find?_none hnone] at hplace
      refine ⟨name, ((note s!"[inky] session {name}: created").on { t with
        ids, sessions := t.sessions ++ [{ id := name, story, source }] }).2, ?_, hfree hid, rfl, rfl⟩
      dsimp only
      rw [install, Act.on_bind_of_ok hname, Act.on_bind_of_ok hplace]
      rfl

/-! ## Closing what is left -/

theorem closeEach_settled : ∀ (sessions : List Session) {s : Server Ink.Shelf},
    Settled installed (sessions.map (·.story) ++ pending) s →
      ∃ t, (closeEach (Ink.engine setup) sessions).on s = (.ok (), t) ∧
        Settled installed pending t
  | [], s, h => ⟨s, rfl, h⟩
  | session :: rest, s, h => by
      obtain ⟨t, ht, hsettled, -⟩ := close_settled setup h
      obtain ⟨u, hu, hrest⟩ := closeEach_settled rest hsettled
      refine ⟨u, ?_, hrest⟩
      rw [closeEach, Act.on_bind_of_ok ht]
      exact hu

/-- Ending all sessions closes the story of each. -/
theorem closeAll_settled (h : Settled installed pending s) :
    ∃ t, (closeAll (Ink.engine setup)).on s = (.ok (), t) ∧ Settled installed pending t := by
  have hclear : Settled installed (s.sessions.map (·.story) ++ pending) { s with sessions := [] } := by
    have hl := Ledger.Owned.clear h
    rw [show s.ledger.stories = s.sessions.map (·.story) by
      rw [Ledger.stories, ledger, held, List.map_map]; rfl] at hl
    exact hl
  exact closeEach_settled setup s.sessions hclear

end Registry

end StoryServer
