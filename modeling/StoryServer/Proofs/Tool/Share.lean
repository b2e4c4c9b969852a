import Mathlib.Data.List.Nodup
import StoryServer.Proofs.Tool.Likeness

/-!
# What a request does to a session

The *share* of a session is what a server has of it: its story and its saved state, if it is
live, and the outline of its debug record.

*Others.*  A request about one session leaves the share of every other session alone
(`answer_beside`), and a request about no session leaves all tables alone (`answer_tables`).

*Starts and ends.*  What a start does to the share of its session depends on the story and the
state that it is given and on whether there was a debug record (`Share.restarted`).

*Likeness.*  Sessions whose shares are alike are answered alike and keep shares that are alike
(`answer_twins`).
-/

namespace StoryServer

/-- What a server has of one session. -/
structure Share where
  live : Option (Ink.Story × Json)
  record : Option Debug.Record
  deriving DecidableEq, Repr

def Tables.share (id : String) (T : Tables) : Share where
  live := (T.sessions.find? (·.id == id)).bind fun session =>
    T.stories[session.story]?.map (·, session.saved)
  record := (T.records.find? (·.session == id)).map (·.outline)

namespace Server

def share (id : String) (s : Server Ink.Shelf) : Share := s.tables.share id

/-- Every session has a story of its own and an id of its own. -/
def Orderly (s : Server Ink.Shelf) : Prop := ∃ J, s.Settled J []

variable {s t : Server Ink.Shelf} {a c : String}

theorem Orderly.shelved (h : s.Orderly) : Registry.Shelved s :=
  Registry.Shelved.of_settled h.choose_spec

/-- Two live sessions have different stories. -/
theorem Orderly.story_ne (h : s.Orderly) {x y : Session} (hne : a ≠ c)
    (hx : s.sessions.find? (·.id == a) = some x) (hy : s.sessions.find? (·.id == c) = some y) :
    y.story ≠ x.story := by
  obtain ⟨J, hJ⟩ := h
  have hstories : (s.sessions.map (·.story)).Nodup := by
    rw [← stories_of_settled]
    exact Ledger.Owned.owners hJ
  intro he
  have hsame : y = x := List.inj_on_of_nodup_map hstories (List.mem_of_find?_eq_some hy)
    (List.mem_of_find?_eq_some hx) he
  have hxa : x.id = a := by simpa using List.find?_some hx
  have hyc : y.id = c := by simpa using List.find?_some hy
  exact hne (by rw [← hxa, ← hyc, hsame])

/-! ## Shares -/

theorem share_live {x : Session} {story : Ink.Story} (hx : s.sessions.find? (·.id == a) = some x)
    (hstory : s.stage.engine.opened[x.story]? = some story) :
    (s.share a).live = some (story, x.saved) := by
  have hlive : (s.share a).live = (s.sessions.find? (·.id == a)).bind fun session =>
    s.stage.engine.opened[session.story]?.map (·, session.saved) := rfl
  rw [hlive, hx, Option.bind_some, hstory]
  rfl

theorem share_absent (h : s.sessions.find? (·.id == a) = none) : (s.share a).live = none := by
  have hlive : (s.share a).live = (s.sessions.find? (·.id == a)).bind fun session =>
    s.stage.engine.opened[session.story]?.map (·, session.saved) := rfl
  rw [hlive, h]
  rfl

/-- The share is read off three places. -/
theorem share_of_places {T : Tables}
    (hsession : T.sessions.find? (·.id == a) = s.sessions.find? (·.id == a))
    (hstory : ∀ x, s.sessions.find? (·.id == a) = some x →
      T.stories[x.story]? = s.stage.engine.opened[x.story]?)
    (hrecord : T.records.find? (·.session == a) = s.records.find? (·.session == a)) :
    T.share a = s.share a := by
  rw [Tables.share, hsession, hrecord, share, Tables.share]
  congr 1
  cases hx : s.sessions.find? (·.id == a) with
  | none =>
      have hx' : s.tables.sessions.find? (·.id == a) = none := hx
      rw [hx']
      rfl
  | some x =>
      have hx' : s.tables.sessions.find? (·.id == a) = some x := hx
      rw [hx', Option.bind_some, Option.bind_some, hstory x hx]
      rfl

theorem find?_without (hne : a ≠ c) (sessions : List Session) :
    (Registry.without c sessions).find? (·.id == a) = sessions.find? (·.id == a) := by
  rw [Registry.without, List.find?_filter]
  congr 1
  funext x
  by_cases hx : x.id = a <;> simp [hx, hne]

theorem find?_forgetting (hne : a ≠ c) (records : List Debug.Record) :
    (Debug.forgetting c records).find? (·.session == a) = records.find? (·.session == a) := by
  rw [Debug.forgetting, List.find?_filter]
  congr 1
  funext r
  by_cases hr : r.session = a <;> simp [hr, hne]

/-- Ending a session leaves the stories of others. -/
theorem closing_other (hs : s.Orderly) (hne : a ≠ c) {x : Session}
    (hx : s.sessions.find? (·.id == a) = some x) :
    (Registry.closing s c)[x.story]? = s.stage.engine.opened[x.story]? := by
  rw [Registry.closing]
  cases hy : s.sessions.find? (·.id == c) with
  | none => rfl
  | some y => exact List.getElem?_modify_ne _ _ (hs.story_ne hne hx hy)

/-- What is the same beside a session is the same for every other session. -/
theorem share_beside (hs : s.Orderly) (hne : a ≠ c) (hstory : t.storyOf c = s.storyOf c)
    (h : t.beside c = s.beside c) : t.share a = s.share a := by
  have hsessions : Registry.without c t.sessions = Registry.without c s.sessions :=
    congrArg Beside.sessions h
  have hrecords : Debug.forgetting c t.records = Debug.forgetting c s.records :=
    congrArg Beside.records h
  have hstories : t.storiesBeside c = s.storiesBeside c := congrArg Beside.stories h
  refine share_of_places ?_ (fun x hx => ?_) ?_
  · have ht := find?_without hne t.sessions
    rw [hsessions, find?_without hne] at ht
    exact ht.symm
  · rw [storiesBeside, storiesBeside, hstory] at hstories
    rw [storyOf] at hstories
    cases hy : s.sessions.find? (·.id == c) with
    | none =>
        rw [hy] at hstories
        exact congrFun hstories x.story
    | some y =>
        rw [hy] at hstories
        have hothers := congrFun hstories x.story
        rw [Option.map_some] at hothers
        dsimp only at hothers
        rwa [Ink.Shelf.others, Ink.Shelf.others, if_neg (hs.story_ne hne hx hy),
          if_neg (hs.story_ne hne hx hy)] at hothers
  · have ht := find?_forgetting hne t.records
    rw [hrecords, find?_forgetting hne] at ht
    exact ht.symm

end Server

/-! ## Starts and ends -/

section Starting

open Server Registry

variable {s : Server Ink.Shelf} {a c : String}

theorem find?_without_self (c : String) (sessions : List Session) :
    (without c sessions).find? (·.id == c) = none := by
  rw [List.find?_eq_none]
  intro x hx
  simpa using (mem_without.mp hx).2

theorem find?_forgetting_self (c : String) (records : List Debug.Record) :
    (Debug.forgetting c records).find? (·.session == c) = none := by
  rw [Debug.forgetting, List.find?_eq_none]
  intro r hr
  simpa using (List.mem_filter.mp hr).2

theorem length_closing (s : Server Ink.Shelf) (c : String) :
    (closing s c).length = s.stage.engine.opened.length := by
  rw [closing]
  split
  · rfl
  · exact List.length_modify _ _ _

/-- What ending a session leaves. -/
theorem share_ended (hs : s.Orderly) (c : String) :
    let T : Tables := ⟨without c s.sessions, s.records, closing s c⟩
    T.share c = { s.share c with live := none } ∧ ∀ a ≠ c, T.share a = s.share a := by
  refine ⟨?_, fun a hne => share_of_places (find?_without hne _)
    (fun x hx => closing_other hs hne hx) rfl⟩
  rw [Tables.share]
  dsimp only
  rw [find?_without_self]
  rfl

/-- What a start does to the session whose id it is given, and what it tells. -/
def Share.restarted (traceLimit : Option Int) (begun : Except Fault Ink.Story)
    (state : Option String) (share : Share) : Except Fault Continuation × Share :=
  let record := if traceLimit.isSome then none else share.record
  match begun with
  | .error f => (.error f, { share with live := none })
  | .ok story =>
    match (Ink.Story.resume state).on story with
    | (.error f, _) => (.error f, ⟨none, record⟩)
    | (.ok told, story) => (.ok told, ⟨some (story, .null), record⟩)

theorem record_recordsAfter (traceLimit : Option Int) (c : String) (records : List Debug.Record) :
    ((Toolbox.recordsAfter traceLimit c records).find? (·.session == c)).map (·.outline) =
      if traceLimit.isSome then none
      else (records.find? (·.session == c)).map (·.outline) := by
  rw [Toolbox.recordsAfter]
  split
  · rw [find?_forgetting_self]
    rfl
  · rfl

theorem find?_recordsAfter (traceLimit : Option Int) (hne : a ≠ c) (records : List Debug.Record) :
    (Toolbox.recordsAfter traceLimit c records).find? (·.session == a) =
      records.find? (·.session == a) := by
  rw [Toolbox.recordsAfter]
  split
  · exact find?_forgetting hne records
  · rfl

theorem Started.share {traceLimit : Option Int} {begun : Except Fault Ink.Story}
    {id state : Option String} {source : String} {r : Except Fault (String × Continuation)}
    {T : Tables} (h : Toolbox.Started traceLimit begun id source state s r T) (hs : s.Orderly)
    (hid : givenId id = some c) :
    r = ((s.share c).restarted traceLimit begun state).1.map (c, ·) ∧
    T.share c = ((s.share c).restarted traceLimit begun state).2 ∧
    ∀ a ≠ c, T.share a = s.share a := by
  have hchosen : ∀ {name : String}, Chosen id s name → name = c := by
    intro name hname
    rw [Chosen, chooseId, hid] at hname
    exact (Except.ok.inj hname).symm
  have hwithout : withoutGiven id s.sessions = without c s.sessions := by rw [withoutGiven, hid]
  have hclosing : closingGiven s id = closing s c := by rw [closingGiven, hid]
  -- a story that is put last on the shelf is in no other session's place
  have hlast : ∀ (told : Ink.Story) {a : String} {x : Session}, a ≠ c →
      s.sessions.find? (·.id == a) = some x →
      (closing s c ++ [told])[x.story]? = s.stage.engine.opened[x.story]? := by
    intro told a x hne hx
    have hlt := hs.shelved x (List.mem_of_find?_eq_some hx)
    rw [← closing_other hs hne hx, List.getElem?_append_left]
    rwa [length_closing]
  cases h with
  | unopened hb =>
      subst hb
      rw [hwithout, hclosing, Share.restarted]
      exact ⟨rfl, share_ended hs c⟩
  | unplayed hb hname hp =>
      subst hb
      obtain rfl := hchosen hname
      rw [hwithout, hclosing, Share.restarted, hp]
      refine ⟨rfl, ?_, fun a hne => ?_⟩
      · rw [Tables.share]
        dsimp only
        rw [find?_without_self, record_recordsAfter]
        rfl
      · exact share_of_places (find?_without hne _) (fun x hx => hlast _ hne hx)
          (find?_recordsAfter _ hne _)
  | played hb hname hp =>
      subst hb
      obtain rfl := hchosen hname
      rw [hwithout, hclosing, Share.restarted, hp]
      refine ⟨rfl, ?_, fun a hne => ?_⟩
      · rw [Tables.share]
        dsimp only
        rw [List.find?_append, find?_without_self, record_recordsAfter]
        simp only [List.find?_cons, beq_self_eq_true, Option.none_or, Option.bind_some,
          List.getElem?_concat_length]
        rfl
      · refine share_of_places ?_ (fun x hx => hlast _ hne hx) (find?_recordsAfter _ hne _)
        rw [List.find?_append, find?_without hne, List.find?_cons]
        simp only [beq_eq_false_iff_ne.mpr (Ne.symm hne), List.find?_nil, Option.or_none]

end Starting

/-! ## Likeness -/

/-- Both live with the same story, or both not; with debug records that are the same, where
they are compared. -/
structure Share.Like (debugging : Bool) (saved : Json → Json → Prop) (x y : Share) : Prop where
  live : match x.live, y.live with
    | none, none => True
    | some (story, v), some (story', w) => story = story' ∧ saved v w
    | _, _ => False
  record : debugging = true → x.record = y.record

theorem Share.like_refl {debugging : Bool} {saved : Json → Json → Prop} (hv : ∀ v, saved v v)
    (x : Share) : x.Like debugging saved x := by
  refine ⟨?_, fun _ => rfl⟩
  cases x.live with
  | none => trivial
  | some p => exact ⟨rfl, hv p.2⟩

theorem Share.eq_of_like {x y : Share} (h : x.Like true (· = ·) y) : x = y := by
  obtain ⟨live, record⟩ := x
  obtain ⟨live', record'⟩ := y
  obtain ⟨hlive, hrecord⟩ := h
  obtain rfl : record = record' := hrecord rfl
  cases live with
  | none =>
      cases live' with
      | none => rfl
      | some q => exact hlive.elim
  | some p =>
      cases live' with
      | none => exact hlive.elim
      | some q => exact congrArg (Share.mk · record) (congrArg some (Prod.ext hlive.1 hlive.2))

namespace Comparison

open Server

variable {s t : Server Ink.Shelf} {a b : String}

/-- The comparison of two sessions as they are. -/
def between (a b : String) (debugging : Bool) (known : Ink.Story → Prop)
    (saved : Json → Json → Prop) (s t : Server Ink.Shelf) : Comparison where
  id := a
  id' := b
  places :=
    match s.storyOf a, t.storyOf b with
    | some n, some m => some (n, m)
    | _, _ => none
  debugging := debugging
  known := known
  saved := saved
  beside := s.beside a
  beside' := t.beside b

/-- The story of a live session. -/
theorem live_story (hs : Registry.Shelved s) {x : Session}
    (hx : s.sessions.find? (·.id == a) = some x) :
    ∃ story, s.stage.engine.opened[x.story]? = some story ∧
      (s.share a).live = some (story, x.saved) := by
  have hstory := List.getElem?_eq_getElem (hs x (List.mem_of_find?_eq_some hx))
  exact ⟨_, hstory, share_live hx hstory⟩

theorem alike_of_like {debugging : Bool} {known : Ink.Story → Prop} {saved : Json → Json → Prop}
    (hs : Registry.Shelved s) (ht : Registry.Shelved t)
    (hknown : ∀ story v, (s.share a).live = some (story, v) → known story)
    (h : (s.share a).Like debugging saved (t.share b)) :
    (between a b debugging known saved s t).Alike s t := by
  refine ⟨?_, h.record, rfl, rfl⟩
  have hlive := h.live
  rw [Live, between]
  dsimp only
  cases hx : s.sessions.find? (·.id == a) with
  | none =>
      rw [share_absent hx] at hlive
      cases hy : t.sessions.find? (·.id == b) with
      | none =>
          rw [storyOf, hx]
          exact ⟨rfl, rfl⟩
      | some y =>
          obtain ⟨story, -, hstory⟩ := live_story ht hy
          rw [hstory] at hlive
          exact hlive.elim
  | some x =>
      obtain ⟨story, hplace, hstory⟩ := live_story hs hx
      rw [hstory] at hlive
      cases hy : t.sessions.find? (·.id == b) with
      | none =>
          rw [share_absent hy] at hlive
          exact hlive.elim
      | some y =>
          obtain ⟨story', hplace', hstory'⟩ := live_story ht hy
          rw [hstory'] at hlive
          obtain ⟨rfl, hsaved⟩ := hlive
          rw [storyOf, hx, storyOf, hy]
          exact ⟨x, y, story, rfl, rfl, rfl, rfl, hplace, hplace', hknown story _ hstory, hsaved⟩

theorem like_of_alike {c : Comparison} (h : c.Alike s t) :
    (s.share c.id).Like c.debugging c.saved (t.share c.id') := by
  refine ⟨?_, h.records⟩
  have hlive := h.live
  rw [Live] at hlive
  cases hp : c.places with
  | none =>
      rw [hp] at hlive
      rw [share_absent hlive.1, share_absent hlive.2]
      trivial
  | some places =>
      obtain ⟨n, m⟩ := places
      rw [hp] at hlive
      obtain ⟨x, y, story, hx, rfl, hy, rfl, hstory, hstory', -, hsaved⟩ := hlive
      rw [share_live hx hstory, share_live hy hstory']
      exact ⟨rfl, hsaved⟩

/-- The place of the story of a session does not change. -/
theorem storyOf_of_alike {c : Comparison} {s' t' : Server Ink.Shelf} (h : c.Alike s t)
    (h' : c.Alike s' t') : s'.storyOf c.id = s.storyOf c.id := by
  have hlive := h.live
  have hlive' := h'.live
  rw [Live] at hlive hlive'
  rw [storyOf, storyOf]
  cases hp : c.places with
  | none =>
      rw [hp] at hlive hlive'
      rw [hlive.1, hlive'.1]
  | some places =>
      obtain ⟨n, m⟩ := places
      rw [hp] at hlive hlive'
      obtain ⟨x, y, story, hx, hn, -⟩ := hlive
      obtain ⟨x', y', story', hx', hn', -⟩ := hlive'
      rw [hx, hx', Option.map_some, Option.map_some, hn, hn']

end Comparison

namespace Toolbox

open Server Comparison

variable (setup : Ink.Setup) (traceLimit : Option Int) (author : Option Author.Settings)
variable {s t : Server Ink.Shelf} {a b c : String} {r : Request}

/-- A request that neither starts nor ends a session, made of two sessions that are alike. -/
theorem answer_twins {debugging : Bool} {saved : Json → Json → Prop} (hv : ∀ v, saved v v)
    (hs : Registry.Shelved s) (ht : Registry.Shelved t)
    (h : (s.share a).Like debugging saved (t.share b)) (hid : r.session? = some a)
    (haside : r.isAside = true) (hd : r.recalls = true → debugging = true) :
    let run := ((Ink.toolbox setup traceLimit author).answer r).on s
    let run' := ((Ink.toolbox setup traceLimit author).answer (r.named b)).on t
    Act.Related (Fault.Alike a b) (fun v w => (r.untimed v).Alike a b (r.untimed w)) run.1 run'.1 ∧
      (run.2.share a).Like debugging saved (run'.2.share b) := by
  have halike : (between a b debugging (fun _ => True) saved s t).Alike s t :=
    alike_of_like hs ht (fun _ _ _ => trivial) h
  have hset : r.Sets fun _ => True := by cases r <;> trivial
  have hanswer := answer_alike (c := between a b debugging (fun _ => True) saved s t) setup
    traceLimit author Ink.Story.stays_any hv hid haside hset hd s t halike
  exact ⟨hanswer.1, like_of_alike hanswer.2⟩

/-- A request about one session changes nothing beside it. -/
theorem answer_apart (hs : s.Orderly) (hid : r.session? = some c) (haside : r.isAside = true) :
    let t := (((Ink.toolbox setup traceLimit author).answer r).on s).2
    t.storyOf c = s.storyOf c ∧ t.beside c = s.beside c := by
  have hself : (s.share c).Like true (fun _ _ => True) (s.share c) :=
    Share.like_refl (fun _ => trivial) _
  have halike : (between c c true (fun _ => True) (fun _ _ => True) s s).Alike s s :=
    alike_of_like hs.shelved hs.shelved (fun _ _ _ => trivial) hself
  have hset : r.Sets fun _ => True := by cases r <;> trivial
  have hafter := (answer_alike (c := between c c true (fun _ => True) (fun _ _ => True) s s) setup
    traceLimit author Ink.Story.stays_any (fun _ => trivial) hid haside hset (fun _ => rfl) s s
    halike).2
  exact ⟨storyOf_of_alike halike hafter, hafter.left⟩

/-- A request about one session leaves every other session alone. -/
theorem answer_beside (hs : s.Orderly) (hne : a ≠ c) (hid : r.session? = some c)
    (haside : r.isAside = true) :
    (((Ink.toolbox setup traceLimit author).answer r).on s).2.share a = s.share a := by
  obtain ⟨hstory, hbeside⟩ := answer_apart setup traceLimit author hs hid haside
  exact share_beside hs hne hstory hbeside

/-- A request about one session does not touch the record of another. -/
theorem answer_beside_record (hs : s.Orderly) (hne : a ≠ c) (hid : r.session? = some c)
    (haside : r.isAside = true) :
    (((Ink.toolbox setup traceLimit author).answer r).on s).2.recordOf a = s.recordOf a := by
  obtain ⟨-, hbeside⟩ := answer_apart setup traceLimit author hs hid haside
  have hrecords := congrArg Beside.records hbeside
  exact (find?_forgetting hne _).symm.trans
    ((congrArg (List.find? (·.session == a)) hrecords).trans (find?_forgetting hne _))

theorem keeps_tables_onStage {α : Type} {act : Act (Stage Ink.Shelf) α}
    (h : Act.Keeps Stage.engine act) : Act.Keeps tables (Server.onStage act) :=
  Act.keeps_within h fun s x hx => by rw [Server.tables, Server.tables, hx]

theorem keeps_tables_asAuthor (act : Author.Settings → Act Author.Work String) :
    Act.Keeps tables ((Ink.toolbox setup traceLimit author).asAuthor act) := by
  rw [asAuthor]
  split
  · exact fun _ => rfl
  · exact Act.keeps_throw _

theorem keeps_tables_compile (source : String) : Act.Keeps tables
    (Server.onStage ((Ink.toolbox setup traceLimit author).engine.compile source)) :=
  keeps_tables_onStage (Act.keeps_ofExcept _)

/-- A request about no session. -/
theorem answer_tables (hid : r.session? = none) (haside : r.isAside = true) :
    Act.Keeps tables ((Ink.toolbox setup traceLimit author).answer r) := by
  have hauthor := keeps_tables_asAuthor setup traceLimit author
  have hcompile := keeps_tables_compile setup traceLimit author
  cases r with
  | startStory | startStoryJson | generateCompilePlay => cases haside
  | compileInk source => exact Act.keeps_bind (hcompile source) fun _ => Act.keeps_pure _
  | listSessions => exact Act.keeps_bind (fun _ => rfl) fun _ => Act.keeps_pure _
  | bidify text =>
      exact Act.keeps_bind (keeps_tables_onStage (Act.keeps_pure _)) fun _ => Act.keeps_pure _
  | stripBidi text =>
      exact Act.keeps_bind (keeps_tables_onStage (Act.keeps_pure _)) fun _ => Act.keeps_pure _
  | bidifyJson json =>
      exact Act.keeps_bind (keeps_tables_onStage (Act.keeps_ofExcept _)) fun _ => Act.keeps_pure _
  | llmChat message => exact Act.keeps_bind (hauthor _) fun _ => Act.keeps_pure _
  | reviewInk source => exact Act.keeps_bind (hauthor _) fun _ => Act.keeps_pure _
  | translateInkHebrew source => exact Act.keeps_bind (hauthor _) fun _ => Act.keeps_pure _
  | generateInk prompt =>
      refine Act.keeps_bind (hauthor _) fun source =>
        Act.keeps_bind (Act.keeps_caught (hcompile source)) fun res => ?_
      cases res with
      | ok c => exact Act.keeps_bind (Act.keeps_pure _) fun _ => Act.keeps_pure _
      | error f =>
          exact Act.keeps_bind (fun _ => rfl) fun _ =>
            Act.keeps_bind (Act.keeps_pure _) fun _ => Act.keeps_pure _
  | modelInfo =>
      rw [answer]
      split
      · exact Act.keeps_bind Act.keeps_get fun _ => Act.keeps_pure _
      · exact Act.keeps_throw _
  | _ => cases hid

end Toolbox

end StoryServer
