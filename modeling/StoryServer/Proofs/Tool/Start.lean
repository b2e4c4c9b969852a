import StoryServer.Proofs.Debug.Step
import StoryServer.Proofs.Session.Ownership

/-!
# What starting a story does

`Server.tables` is what requests leave behind for later ones: the live sessions, the debug
records and the stories on the shelf.  The log, the clock and the supply of ids are no part
of it.

*Ending.*  Ending a session takes it out of the table and closes its story, and nothing else
(`endSession_tables`).

*Starting.*  There are three ways in which a start goes, and `Started` lists them with what
each leaves: its story is not opened, its story is opened and not played, or both.  In the
first the session that had the id has been ended and no debug record was looked at; in the
other two the debug record under the id of the new session is gone (`startFrom_started`).
-/

namespace StoryServer

/-- What requests leave behind for later ones. -/
structure Tables where
  sessions : List Session
  records : List Debug.Record
  /-- The stories opened so far. -/
  stories : List Ink.Story
  deriving DecidableEq, Repr

def Server.tables (s : Server Ink.Shelf) : Tables := ⟨s.sessions, s.records, s.stage.engine.opened⟩

/-- The server before any story was opened and any debug session was started. -/
def Server.bare (s : Server Ink.Shelf) : Server Ink.Shelf := { s.fresh with records := [] }

namespace Ink

/-- A server on which nothing has happened. -/
def idle : Server Shelf where
  stage := { engine := {} }
  ids := { numbered := fun n => toString n }
  clock := { now := 0, step := 1 }
  author := { endpoint := { otherwise := .failed "" } }

/-! ## Stories at their beginning -/

/-- The story in a source. -/
def storyOf (source : String) : Except Fault Story :=
  match Program.parse source with
  | .error f => .error f
  | .ok p => if p.errors.isEmpty then .ok (Story.start p) else .error (.story (.source p.errors))

/-- The story in a compiled text. -/
def storyOfCompiled (text : String) : Except Fault Story :=
  match (readJson text).bind (·.item "source") with
  | .error f => .error f
  | .ok (.str source) => storyOf source
  | .ok v => .error (.misuse (.noAttribute v.kind "splitlines"))

/-- The action puts a story on the shelf, if there is one. -/
def Opens (begun : Except Fault Story) (act : Act (Stage Shelf) StoryId) : Prop :=
  ∀ x : Stage Shelf, act.on x =
    match begun with
    | .error f => (.error f, x)
    | .ok story =>
      (.ok x.engine.opened.length, { x with engine := { opened := x.engine.opened ++ [story] } })

theorem Shelf.openSource_story (source : String) (shelf : Shelf) :
    (openSource source).on shelf =
      match storyOf source with
      | .error f => (.error f, shelf)
      | .ok story => (.ok shelf.opened.length, { opened := shelf.opened ++ [story] }) := by
  rw [openSource, storyOf, Act.on_bind, Act.on_ofExcept]
  cases Program.parse source with
  | error f => rfl
  | ok p =>
      dsimp only
      cases p.errors.isEmpty <;> rfl

theorem Shelf.openCompiled_story (text : String) (shelf : Shelf) :
    (openCompiled text).on shelf =
      match storyOfCompiled text with
      | .error f => (.error f, shelf)
      | .ok story => (.ok shelf.opened.length, { opened := shelf.opened ++ [story] }) := by
  rw [openCompiled, storyOfCompiled, Act.on_bind, Act.on_ofExcept]
  cases (readJson text).bind (·.item "source") with
  | error f => rfl
  | ok v =>
      cases v with
      | str source => exact openSource_story source shelf
      | _ => rfl

theorem opens_source (setup : Ink.Setup) (source : String) :
    Opens (storyOf source) ((engine setup).openSource source) := by
  intro x
  have hon : ((engine setup).openSource source).on x =
      (((Shelf.openSource source).on x.engine).1,
        { x with engine := ((Shelf.openSource source).on x.engine).2 }) := rfl
  rw [hon, Shelf.openSource_story]
  cases storyOf source <;> rfl

theorem opens_compiled (setup : Ink.Setup) (text : String) :
    Opens (storyOfCompiled text) ((engine setup).openCompiled text) := by
  intro x
  have hon : ((engine setup).openCompiled text).on x =
      (((Shelf.openCompiled text).on x.engine).1,
        { x with engine := ((Shelf.openCompiled text).on x.engine).2 }) := rfl
  rw [hon, Shelf.openCompiled_story]
  cases storyOfCompiled text <;> rfl

/-- An operation on the story in its place. -/
theorem Shelf.inStory_on {α : Type} {x : Stage Shelf} {n : StoryId} {story : Story}
    (act : Act Story α) (h : x.engine.opened[n]? = some story) :
    (Stage.inEngine (withStory n act)).on x =
      ((act.on story).1, { x with engine := { opened := x.engine.opened.set n (act.on story).2 } }) := by
  rw [Stage.inEngine, Act.on_within, withStory_on act h]

section OnStory

variable {α β : Type} {n : StoryId}

/-- What is done on the stage is done to the story in one place, and to nothing else. -/
def OnStory (n : StoryId) (act : Act (Stage Shelf) α) (inner : Act Story α) : Prop :=
  ∀ (x : Stage Shelf) (story : Story), x.engine.opened[n]? = some story → act.on x =
    ((inner.on story).1,
      { x with engine := { opened := x.engine.opened.set n (inner.on story).2 } })

theorem onStory_inStory (n : StoryId) (act : Act Story α) :
    OnStory n (Stage.inEngine (Shelf.withStory n act)) act := fun _ _ h => Shelf.inStory_on act h

theorem onStory_throw (f : Fault) : OnStory n (throw f : Act (Stage Shelf) α) (throw f) := by
  intro x story h
  obtain ⟨hlt, hstory⟩ := List.getElem?_eq_some_iff.mp h
  rw [Act.on_throw, Act.on_throw, ← hstory, List.set_getElem_self]

theorem onStory_bind {act : Act (Stage Shelf) α} {inner : Act Story α}
    {next : α → Act (Stage Shelf) β} {innerNext : α → Act Story β} (h : OnStory n act inner)
    (hn : ∀ a, OnStory n (next a) (innerNext a)) : OnStory n (act >>= next) (inner >>= innerNext) := by
  intro x story hstory
  rw [Act.on_bind, Act.on_bind, h x story hstory]
  generalize inner.on story = run
  obtain ⟨r, told⟩ := run
  cases r with
  | error f => rfl
  | ok a =>
      have hplace : (x.engine.opened.set n told)[n]? = some told :=
        List.getElem?_set_self (List.getElem?_eq_some_iff.mp hstory).1
      dsimp only
      rw [hn a { x with engine := { opened := x.engine.opened.set n told } } told hplace,
        List.set_set]

end OnStory

namespace Story

/-- Continues a story, from a saved state if one is given. -/
def resume (state : Option String) : Act Story Continuation := do
  if let some state := state then loadState state
  continueStory

def close (s : Story) : Story := { s with closings := s.closings + 1 }

end Story

end Ink

namespace Registry

open Server

variable {s : Server Ink.Shelf} (setup : Ink.Setup)

/-! ## Ending a session -/

/-- The sessions without the one that has an id. -/
def without (id : String) (sessions : List Session) : List Session :=
  sessions.filter fun session => session.id != id

/-- The stories on the shelf once a session has been ended. -/
def closing (s : Server Ink.Shelf) (id : String) : List Ink.Story :=
  match s.sessions.find? (·.id == id) with
  | none => s.stage.engine.opened
  | some session => s.stage.engine.opened.modify session.story Ink.Story.close

/-- The stories of all sessions are on the shelf. -/
def Shelved (s : Server Ink.Shelf) : Prop :=
  ∀ session ∈ s.sessions, session.story < s.stage.engine.opened.length

theorem Shelved.of_settled {J : List (String × StoryId)} (h : s.Settled J []) : Shelved s := by
  intro session hs
  obtain ⟨story, hstory⟩ := (story_of_session h hs).1
  exact (List.getElem?_eq_some_iff.mp hstory).1

theorem set_close {opened : List Ink.Story} {n : StoryId} {story : Ink.Story}
    (h : opened[n]? = some story) : opened.set n story.close = opened.modify n Ink.Story.close := by
  obtain ⟨hlt, hstory⟩ := List.getElem?_eq_some_iff.mp h
  refine List.ext_getElem? fun i => ?_
  rw [List.getElem?_set, List.getElem?_modify]
  by_cases hi : n = i
  · subst hi
    simp [hlt, hstory]
  · simp [hi]

theorem close_tables {session : Session} (h : session.story < s.stage.engine.opened.length) :
    ∃ t, (close (Ink.engine setup) session).on s = (.ok (), t) ∧
      t.tables = { s.tables with
        stories := s.stage.engine.opened.modify session.story Ink.Story.close } := by
  have hstory := List.getElem?_eq_getElem h
  refine ⟨_, close_on setup hstory, ?_⟩
  rw [← set_close hstory]
  rfl

theorem endSession_tables (id : String) (h : ∀ session,
      s.sessions.find? (·.id == id) = some session → session.story < s.stage.engine.opened.length) :
    ∃ t, (endSession (Ink.engine setup) id).on s =
        (.ok (s.sessions.find? (·.id == id)).isSome, t) ∧
      t.tables = ⟨without id s.sessions, s.records, closing s id⟩ := by
  rw [endSession, Act.on_bind_of_ok (remove_on id s), closing]
  cases hs : s.sessions.find? (·.id == id) with
  | none => exact ⟨_, rfl, rfl⟩
  | some session =>
      obtain ⟨t, ht, htables⟩ := close_tables setup
        (s := { s with sessions := s.sessions.filter fun t => t.id != id }) (h session hs)
      exact ⟨_, Act.on_bind_of_ok ht, htables⟩

/-! ## Creating a session -/

/-- The sessions without the one that has the given id, if one is given. -/
def withoutGiven (id : Option String) (sessions : List Session) : List Session :=
  match givenId id with
  | none => sessions
  | some id => without id sessions

/-- The stories on the shelf once there is room for a given id. -/
def closingGiven (s : Server Ink.Shelf) (id : Option String) : List Ink.Story :=
  match givenId id with
  | none => s.stage.engine.opened
  | some id => closing s id

/-- The id that a new session gets. -/
def Chosen (id : Option String) (s : Server Ink.Shelf) (name : String) : Prop :=
  ((chooseId id).on s).1 = .ok name

theorem mem_without {id : String} {sessions : List Session} {session : Session} :
    session ∈ without id sessions ↔ session ∈ sessions ∧ session.id ≠ id := by
  rw [without, List.mem_filter, bne_iff_ne]

theorem without_free {id : String} {sessions : List Session} (h : id ∉ sessions.map (·.id)) :
    without id sessions = sessions :=
  List.filter_eq_self.mpr fun _ hs =>
    bne_iff_ne.mpr fun he => h (he ▸ List.mem_map_of_mem hs)

theorem find?_free {id : String} {sessions : List Session} (h : id ∉ sessions.map (·.id)) :
    sessions.find? (·.id == id) = none :=
  List.find?_eq_none.mpr fun _ hs he => h (eq_of_beq he ▸ List.mem_map_of_mem hs)

/-- The id of a new session is free once there is room for it. -/
theorem Chosen.free {id : Option String} {name : String} (h : Chosen id s name) :
    name ∉ (withoutGiven id s.sessions).map (·.id) := by
  rw [withoutGiven]
  rw [Chosen, chooseId] at h
  cases hid : givenId id with
  | none =>
      rw [hid] at h
      obtain ⟨fresh, ids, hnew, hfree⟩ := newId_on s
      simp only [hnew, Except.ok.injEq] at h
      exact h ▸ hfree
  | some given =>
      rw [hid] at h
      obtain rfl : given = name := by simpa using h
      intro hm
      obtain ⟨session, hs, he⟩ := List.mem_map.mp hm
      exact (mem_without.mp hs).2 he

theorem makeRoom_tables (id : Option String) (h : Shelved s) :
    ∃ t, (makeRoom (Ink.engine setup) id).on s = (.ok (), t) ∧
      t.tables = ⟨withoutGiven id s.sessions, s.records, closingGiven s id⟩ ∧
      (givenId id = none → t = s) := by
  rw [makeRoom, withoutGiven, closingGiven]
  cases givenId id with
  | none => exact ⟨s, rfl, rfl, fun _ => rfl⟩
  | some id =>
      obtain ⟨t, ht, htables⟩ := endSession_tables setup id fun session hs =>
        h session (List.mem_of_find?_eq_some hs)
      exact ⟨t, Act.on_bind_of_ok ht, htables, by simp⟩

/-- A story is put into the table under an id that is not live. -/
theorem install_tables {id : Option String} {name : String} (story : StoryId) (source : String)
    (hname : Chosen id s name) (hfree : name ∉ s.sessions.map (·.id)) :
    ∃ t, (install (Ink.engine setup) story id source).on s = (.ok name, t) ∧
      t.tables = { s.tables with sessions := s.sessions ++ [{ id := name, story, source }] } := by
  obtain ⟨chosen, ids, hon, -⟩ := chooseId_on id s
  obtain rfl : chosen = name := by
    rw [Chosen, hon] at hname
    exact Except.ok.inj hname
  have hplace : (place (Ink.engine setup) story chosen source).on { s with ids } = (.ok (), { s with
      ids, sessions := without chosen s.sessions ++ [{ id := chosen, story, source }] }) := by
    rw [place, Act.on_bind_of_ok (remove_on chosen _)]
    simp only [find?_free hfree]
    rfl
  rw [without_free hfree] at hplace
  rw [install, Act.on_bind_of_ok hon, Act.on_bind_of_ok hplace]
  exact ⟨_, rfl, rfl⟩

theorem create_tables {begun : Except Fault Ink.Story} {openStory : Act (Stage Ink.Shelf) StoryId}
    (ho : Ink.Opens begun openStory) (id : Option String) (source : String) (h : Shelved s) :
    match begun with
    | .error f => ∃ t,
      (create (Ink.engine setup) (onStage openStory) id source).on s = (.error f, t) ∧
      t.tables = ⟨withoutGiven id s.sessions, s.records, closingGiven s id⟩
    | .ok story => ∃ name t,
      (create (Ink.engine setup) (onStage openStory) id source).on s = (.ok name, t) ∧
      Chosen id s name ∧
      t.tables = ⟨withoutGiven id s.sessions ++
          [{ id := name, story := (closingGiven s id).length, source }],
        s.records, closingGiven s id ++ [story]⟩ := by
  obtain ⟨t, hroom, htables, hsame⟩ := makeRoom_tables setup id h
  have hopen := ho t.stage
  rw [create, Act.on_bind_of_ok hroom, Act.on_bind, onStage, Act.on_within]
  cases begun with
  | error f =>
      rw [hopen]
      exact ⟨t, rfl, htables⟩
  | ok story =>
      rw [hopen]
      dsimp only
      obtain ⟨name, ids, hon, -⟩ := chooseId_on id s
      have hname : Chosen id s name := by rw [Chosen, hon]
      have hsessions : t.sessions = withoutGiven id s.sessions := congrArg Tables.sessions htables
      have hstories : t.stage.engine.opened = closingGiven s id := congrArg Tables.stories htables
      have hrecords : t.records = s.records := congrArg Tables.records htables
      -- the story that was opened plays no part in the choice of an id
      have hlast : Chosen id { t with stage := { t.stage with engine :=
          { opened := t.stage.engine.opened ++ [story] } } } name := by
        rw [Chosen, chooseId] at hname ⊢
        cases hid : givenId id with
        | some given => rwa [hid] at hname
        | none =>
            rw [hid] at hname
            rw [hsame hid]
            exact hname
      obtain ⟨u, hu, hutables⟩ := install_tables setup t.stage.engine.opened.length source hlast
        (hsessions ▸ hname.free)
      refine ⟨name, u, hu, hname, ?_⟩
      rw [hutables, ← hsessions, ← hstories, ← hrecords]
      rfl

end Registry

/-! ## Starting a story -/

namespace Debug

/-- The records without the one of a session. -/
def forgetting (id : String) (records : List Record) : List Record :=
  records.filter fun r => r.session != id

theorem stop_tables (id : String) (s : Server Ink.Shelf) :
    ∃ b t, (stop id).on s = (.ok b, t) ∧
      t.tables = { s.tables with records := forgetting id s.records } := by
  rw [stop, Act.on_bind, Act.on_get]
  dsimp only
  cases h : s.records.any (·.session == id) with
  | true => exact ⟨true, _, rfl, rfl⟩
  | false =>
      refine ⟨false, s, rfl, ?_⟩
      have hkept : forgetting id s.records = s.records :=
        List.filter_eq_self.mpr fun r hr => by simpa using List.any_eq_false.mp h r hr
      rw [hkept]
      rfl

end Debug

namespace Toolbox

open Registry

variable (setup : Ink.Setup) (traceLimit : Option Int) (author : Option Author.Settings)
variable {s : Server Ink.Shelf}

theorem resume_onStory (state : Option String) (n : StoryId) :
    Ink.OnStory n ((Ink.toolbox setup traceLimit author).resume state n) (Ink.Story.resume state) := by
  cases state with
  | none => exact Ink.onStory_inStory n Ink.Story.continueStory
  | some state =>
      exact Ink.onStory_bind (Ink.onStory_inStory n (Ink.Story.loadState state)) fun _ =>
        Ink.onStory_inStory n Ink.Story.continueStory

/-- Playing a session that was put last into the table. -/
theorem play_tables {rest : List Session} {new : Session} {shelf : List Ink.Story}
    {story : Ink.Story} {records : List Debug.Record} (state : Option String)
    (hs : s.tables = ⟨rest ++ [new], records, shelf ++ [story]⟩) (hn : new.story = shelf.length)
    (hfree : new.id ∉ rest.map (·.id)) :
    match (Ink.Story.resume state).on story with
    | (.ok told, told') => ∃ t,
      ((Ink.toolbox setup traceLimit author).play new.id state).on s = (.ok told, t) ∧
      t.tables = ⟨rest ++ [new], records, shelf ++ [told']⟩
    | (.error f, told') => ∃ t,
      ((Ink.toolbox setup traceLimit author).play new.id state).on s = (.error f, t) ∧
      t.tables = ⟨rest, records, shelf ++ [told'.close]⟩ := by
  have hsessions : s.sessions = rest ++ [new] := congrArg Tables.sessions hs
  have hrecords : s.records = records := congrArg Tables.records hs
  have hstories : s.stage.engine.opened = shelf ++ [story] := congrArg Tables.stories hs
  have hlive : s.sessions.find? (·.id == new.id) = some new := by
    rw [hsessions, List.find?_append, find?_free hfree]
    simp
  have hplace : s.stage.engine.opened[new.story]? = some story := by
    rw [hstories, hn, List.getElem?_concat_length]
  have hset (told : Ink.Story) : s.stage.engine.opened.set new.story told = shelf ++ [told] := by
    rw [hstories, hn, List.set_append_right _ _ (Nat.le_refl _), Nat.sub_self]
    rfl
  have hstory : (withStory new.id ((Ink.toolbox setup traceLimit author).resume state)).on s =
      (((Ink.Story.resume state).on story).1, { s with stage := { s.stage with engine :=
        { opened := shelf ++ [((Ink.Story.resume state).on story).2] } } }) := by
    rw [withStory, Act.on_bind_of_ok (Debug.session_on hlive), Server.onStage, Act.on_within,
      resume_onStory setup traceLimit author state _ _ _ hplace, hset]
  rw [play, Act.orElseDo, Act.on_bind, Act.on_attempt, hstory]
  generalize (Ink.Story.resume state).on story = run
  obtain ⟨r, told'⟩ := run
  cases r with
  | ok told =>
      refine ⟨_, rfl, ?_⟩
      rw [← hsessions, ← hrecords]
      rfl
  | error f =>
      have hlast : shelf.length < (shelf ++ [told']).length := by simp
      obtain ⟨t, ht, htables⟩ := endSession_tables setup new.id
        (s := { s with stage := { s.stage with engine := { opened := shelf ++ [told'] } } })
        fun session hs => by
          obtain rfl : new = session := Option.some.inj (hlive.symm.trans hs)
          rw [hn]
          exact hlast
      have hrest : without new.id s.sessions = rest := by
        rw [hsessions, without, List.filter_append, ← without, without_free hfree]
        simp
      have hclosing : closing { s with
          stage := { s.stage with engine := { opened := shelf ++ [told'] } } } new.id =
          shelf ++ [told'.close] := by
        rw [closing]
        simp only [hlive]
        rw [hn, ← set_close List.getElem?_concat_length, List.set_append_right _ _ (Nat.le_refl _),
          Nat.sub_self]
        rfl
      rw [hclosing, hrest, hrecords] at htables
      have hrescue : (do let _ ← endSession (Ink.engine setup) new.id :
          Act (Server Ink.Shelf) Unit).on { s with
            stage := { s.stage with engine := { opened := shelf ++ [told'] } } } = (.ok (), t) :=
        Act.on_bind_of_ok ht
      exact ⟨t, Act.on_bind_of_ok hrescue, htables⟩

/-- The records that are left when a story is opened under an id. -/
def recordsAfter (id : String) (records : List Debug.Record) : List Debug.Record :=
  if traceLimit.isSome then Debug.forgetting id records else records

/-- The ways in which a start goes, with what each answers and leaves. -/
inductive Started (begun : Except Fault Ink.Story) (id : Option String) (source : String)
    (state : Option String) (s : Server Ink.Shelf) :
    Except Fault (String × Continuation) → Tables → Prop where
  /-- No story is opened. -/
  | unopened {f : Fault} (hb : begun = .error f) :
      Started begun id source state s (.error f)
        ⟨withoutGiven id s.sessions, s.records, closingGiven s id⟩
  /-- The story that was opened cannot be restored or continued. -/
  | unplayed {story told : Ink.Story} {name : String} {f : Fault} (hb : begun = .ok story)
      (hname : Chosen id s name) (hp : (Ink.Story.resume state).on story = (.error f, told)) :
      Started begun id source state s (.error f)
        ⟨withoutGiven id s.sessions, recordsAfter traceLimit name s.records,
          closingGiven s id ++ [told.close]⟩
  | played {story told : Ink.Story} {name : String} {c : Continuation} (hb : begun = .ok story)
      (hname : Chosen id s name) (hp : (Ink.Story.resume state).on story = (.ok c, told)) :
      Started begun id source state s (.ok (name, c))
        ⟨withoutGiven id s.sessions ++
            [{ id := name, story := (closingGiven s id).length, source }],
          recordsAfter traceLimit name s.records, closingGiven s id ++ [told]⟩

theorem startFrom_started {begun : Except Fault Ink.Story}
    {openStory : Act (Stage Ink.Shelf) StoryId} (ho : Ink.Opens begun openStory)
    (id : Option String) (source : String) (state : Option String) (h : Shelved s) :
    ∃ r t, ((Ink.toolbox setup traceLimit author).startFrom openStory id source state).on s =
      (r, t) ∧ Started traceLimit begun id source state s r t.tables := by
  have hcreate := create_tables setup ho id source h
  cases begun with
  | error f =>
      obtain ⟨t, ht, htables⟩ := hcreate
      refine ⟨.error f, t, Act.on_bind_of_error ht, ?_⟩
      rw [htables]
      exact .unopened rfl
  | ok story =>
      obtain ⟨name, t, ht, hname, htables⟩ := hcreate
      -- with a debugger the record under the id is dropped before the story is played
      obtain ⟨u, hu, hutables⟩ : ∃ u : Server Ink.Shelf,
          ((Ink.toolbox setup traceLimit author).startFrom openStory id source state).on s =
            (do return (name, ← (Ink.toolbox setup traceLimit author).play name state)).on u ∧
          u.tables = { t.tables with records := recordsAfter traceLimit name s.records } := by
        have hrecords : t.records = s.records := congrArg Tables.records htables
        rw [startFrom, recordsAfter, Ink.toolbox, Act.on_bind_of_ok ht]
        cases traceLimit with
        | none =>
            refine ⟨t, rfl, ?_⟩
            rw [← hrecords]
            rfl
        | some limit =>
            obtain ⟨b, u, hu, hutables⟩ := Debug.stop_tables name t
            refine ⟨u, Act.on_bind_of_ok hu, ?_⟩
            rw [hutables, hrecords]
            rfl
      have hplay := play_tables setup traceLimit author state (hutables.trans (by rw [htables]))
        rfl hname.free
      cases hp : (Ink.Story.resume state).on story with
      | mk r told =>
          rw [hp] at hplay
          cases r with
          | error f =>
              obtain ⟨v, hv, hvtables⟩ := hplay
              refine ⟨.error f, v, hu.trans (Act.on_bind_of_error hv), ?_⟩
              rw [hvtables]
              exact .unplayed rfl hname hp
          | ok c =>
              obtain ⟨v, hv, hvtables⟩ := hplay
              refine ⟨.ok (name, c), v, hu.trans (Act.on_bind_of_ok hv), ?_⟩
              rw [hvtables]
              exact .played rfl hname hp

end Toolbox

end StoryServer
