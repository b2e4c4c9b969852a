import StoryServer.Proofs.Agreement
import StoryServer.Proofs.Tool.Start

/-!
# Sessions that are alike

A session of one server is *alike* to a session of another when both are live with the same
story, or both are not, and their debug records are the same up to the times of the trace.
The two may have different ids, and their stories different places on the shelf.

*Names and times.*  Answers and faults that are alike are the same once the session is called
the same in both (`Json.Alike`, `Fault.Alike`).  The times in a trace are no part of what is
compared: `Json.timeless` leaves them out of an answer, `Record.outline` out of a record.

*Comparison.*  A `Comparison` fixes what two servers are compared by, and with it what else
is on either server.  That part is constant, so an action that keeps the comparison has
touched nothing but the session.  The rules here are for the actions that a request is built
from; every one of them does alike in servers that are alike.
-/

namespace StoryServer

/-! ## Names and times -/

/-- A fault of another session. -/
def Fault.named (id : String) : Fault → Fault
  | .noSession _ => .noSession id
  | .noDebugSession _ => .noDebugSession id
  | .notSteppable _ waiting => .notSteppable id waiting
  | f => f

/-- Faults that differ in the session they name, if in anything. -/
def Fault.Alike (id id' : String) (f g : Fault) : Prop :=
  f.named id' = g.named id' ∧ (id = id' → f = g)

namespace Json

/-- An answer of another session. -/
def named (id : String) : Json → Json
  | .obj fields => .obj (fields.map fun p => if p.1 == "session_id" then (p.1, .str id) else p)
  | v => v

/-- An entry of a trace without its time. -/
def entry : Json → Json
  | .obj fields => .obj (fields.filter fun p => p.1 != "timestamp")
  | v => v

/-- An answer without the times in a trace. -/
def timeless : Json → Json
  | .obj fields => .obj (fields.map fun p =>
    match p with
    | ("trace", .arr entries) => ("trace", .arr (entries.map entry))
    | p => p)
  | v => v

/-- Answers that differ in the session they name, if in anything. -/
def Alike (id id' : String) (v w : Json) : Prop := v.named id' = w.named id' ∧ (id = id' → v = w)

end Json

namespace Debug

/-- A record without the name of the session and the times of its trace. -/
def Record.outline (r : Record) : Record :=
  { r with session := "", trace := r.trace.map fun v => { v with time := 0 } }

end Debug

theorem Fault.alike_refl {id id' : String} (f : Fault) : f.Alike id id' f := ⟨rfl, fun _ => rfl⟩

theorem Json.alike_refl {id id' : String} (v : Json) : v.Alike id id' v := ⟨rfl, fun _ => rfl⟩

/-! ## What is beside a session -/

namespace Ink

/-- The stories on a shelf but for one place. -/
def Shelf.others (n : StoryId) (shelf : Shelf) (i : StoryId) : Option Story :=
  if n = i then none else shelf.opened[i]?

end Ink

/-- What a server has beside one session. -/
structure Beside where
  sessions : List Session
  records : List Debug.Record
  stories : StoryId → Option Ink.Story

namespace Server

variable {α : Type}

/-- The place of the story of a session, if the session is live. -/
def storyOf (id : String) (s : Server Ink.Shelf) : Option StoryId :=
  (s.sessions.find? (·.id == id)).map (·.story)

def storiesBeside (id : String) (s : Server Ink.Shelf) : StoryId → Option Ink.Story :=
  match s.storyOf id with
  | none => fun i => s.stage.engine.opened[i]?
  | some n => s.stage.engine.others n

def beside (id : String) (s : Server Ink.Shelf) : Beside :=
  ⟨Registry.without id s.sessions, Debug.forgetting id s.records, s.storiesBeside id⟩

end Server

/-! ## Comparing two sessions -/

/-- What two servers are compared by. -/
structure Comparison where
  /-- The sessions. -/
  id : String
  id' : String
  /-- The places of their stories, if they are live. -/
  places : Option (StoryId × StoryId)
  /-- Whether their debug records are compared. -/
  debugging : Bool
  /-- What is known of their story. -/
  known : Ink.Story → Prop
  /-- How their saved states compare. -/
  saved : Json → Json → Prop
  /-- What is beside them. -/
  beside : Beside
  beside' : Beside

namespace Ink

/-- Two shelves with one story in a place of each, and what else is on them. -/
structure SameStory (known : Story → Prop) (n m : StoryId) (others others' : StoryId → Option Story)
    (x y : Stage Shelf) : Prop where
  story : ∃ u, known u ∧ x.engine.opened[n]? = some u ∧ y.engine.opened[m]? = some u
  left : x.engine.others n = others
  right : y.engine.others m = others'

/-- What is said of a story alone is the same on both shelves. -/
theorem agree_inStory {α : Type} {known : Story → Prop} {n m : StoryId}
    {others others' : StoryId → Option Story} {F : Fault → Fault → Prop} (hF : ∀ f, F f f)
    (act : Act Story α) (hk : ∀ u, known u → known (act.on u).2) :
    Act.Agree (SameStory known n m others others') F (· = ·)
      (Stage.inEngine (Shelf.withStory n act)) (Stage.inEngine (Shelf.withStory m act)) := by
  rintro x y ⟨⟨u, hu, hx, hy⟩, hleft, hright⟩
  have hothers : ∀ {shelf : Shelf} {k : StoryId} {v : Story},
      Shelf.others k { opened := shelf.opened.set k v } = shelf.others k := by
    intro shelf k v
    funext i
    rw [Shelf.others, Shelf.others]
    by_cases hi : k = i
    · rw [if_pos hi, if_pos hi]
    · rw [if_neg hi, if_neg hi, List.getElem?_set_ne hi]
  rw [Shelf.inStory_on act hx, Shelf.inStory_on act hy]
  refine ⟨Act.related_refl hF (fun _ => rfl) _, ⟨(act.on u).2, hk u hu, ?_, ?_⟩, ?_, ?_⟩
  · exact List.getElem?_set_self (List.getElem?_eq_some_iff.mp hx).1
  · exact List.getElem?_set_self (List.getElem?_eq_some_iff.mp hy).1
  · exact hothers.trans hleft
  · exact hothers.trans hright

end Ink

namespace Comparison

variable {α β γ δ : Type} {Q : α → β → Prop} (c : Comparison)

/-- The faults of the two sessions. -/
def Fault : StoryServer.Fault → StoryServer.Fault → Prop := StoryServer.Fault.Alike c.id c.id'

/-- Both sessions are live with the same story, or neither is. -/
def Live (s t : Server Ink.Shelf) : Prop :=
  match c.places with
  | none => s.sessions.find? (·.id == c.id) = none ∧ t.sessions.find? (·.id == c.id') = none
  | some (n, m) => ∃ session session' story,
    s.sessions.find? (·.id == c.id) = some session ∧ session.story = n ∧
    t.sessions.find? (·.id == c.id') = some session' ∧ session'.story = m ∧
    s.stage.engine.opened[n]? = some story ∧ t.stage.engine.opened[m]? = some story ∧
    c.known story ∧ c.saved session.saved session'.saved

/-- The two servers compare as they should. -/
structure Alike (s t : Server Ink.Shelf) : Prop where
  live : c.Live s t
  records : c.debugging = true →
    (s.recordOf c.id).map (·.outline) = (t.recordOf c.id').map (·.outline)
  left : s.beside c.id = c.beside
  right : t.beside c.id' = c.beside'

variable {c}

theorem fault_refl (f : StoryServer.Fault) : c.Fault f f := StoryServer.Fault.alike_refl f

theorem fault_noSession : c.Fault (.noSession c.id) (.noSession c.id') :=
  ⟨rfl, fun h => congrArg _ h⟩

theorem fault_noDebugSession : c.Fault (.noDebugSession c.id) (.noDebugSession c.id') :=
  ⟨rfl, fun h => congrArg _ h⟩

theorem fault_notSteppable (waiting : Bool) :
    c.Fault (.notSteppable c.id waiting) (.notSteppable c.id' waiting) :=
  ⟨rfl, fun h => congrArg (StoryServer.Fault.notSteppable · waiting) h⟩

/-! ### The session -/

theorem agree_session : Act.Agree c.Alike c.Fault
    (fun x y => c.places = some (x.story, y.story)) (Server.session c.id) (Server.session c.id') := by
  intro s t h
  have hlive := h.live
  rw [Live] at hlive
  cases hp : c.places with
  | none =>
      rw [hp] at hlive
      rw [Debug.session_none hlive.1, Debug.session_none hlive.2]
      exact ⟨fault_noSession, h⟩
  | some places =>
      obtain ⟨n, m⟩ := places
      rw [hp] at hlive
      obtain ⟨x, y, story, hx, rfl, hy, rfl, -⟩ := hlive
      rw [Debug.session_on hx, Debug.session_on hy]
      exact ⟨rfl, h⟩

theorem agree_note (line line' : String) :
    Act.Agree c.Alike c.Fault (fun _ _ => True) (Server.note line) (Server.note line') :=
  fun _ _ h => ⟨trivial, h.live, h.records, h.left, h.right⟩

theorem agree_readClock : Act.Agree c.Alike c.Fault (fun _ _ => True) Server.readClock
    Server.readClock := fun _ _ h => ⟨trivial, h.live, h.records, h.left, h.right⟩

/-- The stage of a live session. -/
def Same (c : Comparison) (n m : StoryId) : Stage Ink.Shelf → Stage Ink.Shelf → Prop :=
  Ink.SameStory c.known n m c.beside.stories c.beside'.stories

theorem agree_onStage {n m : StoryId} (hp : c.places = some (n, m))
    {act : Act (Stage Ink.Shelf) α} {act' : Act (Stage Ink.Shelf) β}
    (h : Act.Agree (c.Same n m) c.Fault Q act act') :
    Act.Agree c.Alike c.Fault Q (Server.onStage act) (Server.onStage act') := by
  refine Act.agree_within h (fun s t hst => ?_) fun s t x y hst hxy => ?_
  all_goals
    obtain ⟨hlive, hrecords, hleft, hright⟩ := hst
    rw [Live, hp] at hlive
    obtain ⟨a, b, story, ha, rfl, hb, rfl, hstory, hstory', hknown, hsaved⟩ := hlive
  · refine ⟨⟨story, hknown, hstory, hstory'⟩, ?_, ?_⟩
    · rw [← hleft, Server.beside, Server.storiesBeside, Server.storyOf, ha]
      rfl
    · rw [← hright, Server.beside, Server.storiesBeside, Server.storyOf, hb]
      rfl
  · obtain ⟨⟨u, hu, hx, hy⟩, hothers, hothers'⟩ := hxy
    refine ⟨?_, hrecords, ?_, ?_⟩
    · rw [Live, hp]
      exact ⟨a, b, u, ha, rfl, hb, rfl, hx, hy, hu, hsaved⟩
    · rw [Server.beside, Server.storiesBeside, Server.storyOf] at hleft ⊢
      simp only [ha, Option.map_some] at hleft ⊢
      rw [hothers, ← hleft]
    · rw [Server.beside, Server.storiesBeside, Server.storyOf] at hright ⊢
      simp only [hb, Option.map_some] at hright ⊢
      rw [hothers', ← hright]

theorem agree_withStory {act : StoryId → Act (Stage Ink.Shelf) α}
    {act' : StoryId → Act (Stage Ink.Shelf) β}
    (h : ∀ n m, Act.Agree (c.Same n m) c.Fault Q (act n) (act' m)) :
    Act.Agree c.Alike c.Fault Q (Toolbox.withStory c.id act) (Toolbox.withStory c.id' act') :=
  Act.agree_bind agree_session fun _ _ hp => agree_onStage hp (h _ _)

theorem agree_keepState (hs : ∀ v, c.saved v v) (v : Json) :
    Act.Agree c.Alike c.Fault (fun _ _ => True) (Registry.keepState c.id v)
      (Registry.keepState c.id' v) := by
  refine Act.agree_modify fun s t h => ?_
  have hfind : ∀ (id : String) (sessions : List Session),
      (sessions.map fun x => if x.id == id then { x with saved := v } else x).find? (·.id == id) =
        (sessions.find? (·.id == id)).map fun x => { x with saved := v } := by
    intro id sessions
    induction sessions with
    | nil => rfl
    | cons x rest ih =>
        rw [List.map_cons, List.find?_cons, List.find?_cons]
        cases hx : x.id == id with
        | true => simp [hx]
        | false => simp only [Bool.false_eq_true, if_false, hx, ih]
  have hwithout : ∀ (id : String) (sessions : List Session),
      Registry.without id
        (sessions.map fun x => if x.id == id then { x with saved := v } else x) =
        Registry.without id sessions := by
    intro id sessions
    rw [Registry.without, Registry.without]
    induction sessions with
    | nil => rfl
    | cons x rest ih =>
        rw [List.map_cons]
        by_cases hx : x.id == id
        · rw [if_pos hx, List.filter_cons_of_neg (by simpa using hx),
            List.filter_cons_of_neg (by simpa using hx), ih]
        · rw [if_neg hx, List.filter_cons_of_pos (by simpa using hx),
            List.filter_cons_of_pos (by simpa using hx), ih]
  have hbeside : ∀ (id : String) (s : Server Ink.Shelf), Server.beside id { s with
      sessions := s.sessions.map fun x => if x.id == id then { x with saved := v } else x } =
      s.beside id := by
    intro id s
    have hstory : Server.storyOf id { s with
        sessions := s.sessions.map fun x => if x.id == id then { x with saved := v } else x } =
        s.storyOf id := by
      rw [Server.storyOf, hfind, Option.map_map]
      rfl
    rw [Server.beside, hwithout, Server.storiesBeside, hstory]
    rfl
  refine ⟨?_, h.records, (hbeside _ s).trans h.left, (hbeside _ t).trans h.right⟩
  have hlive := h.live
  rw [Live] at hlive ⊢
  cases hp : c.places with
  | none =>
      rw [hp] at hlive
      dsimp only
      rw [hfind, hfind, hlive.1, hlive.2]
      exact ⟨rfl, rfl⟩
  | some places =>
      obtain ⟨n, m⟩ := places
      rw [hp] at hlive
      obtain ⟨a, b, story, ha, hn, hb, hm, hstory, hstory', hknown, -⟩ := hlive
      dsimp only
      rw [hfind, hfind, ha, hb]
      exact ⟨_, _, story, rfl, hn, rfl, hm, hstory, hstory', hknown, hs v⟩

/-! ### The debug record -/

theorem forgetting_update {id : String} {f : Debug.Record → Debug.Record}
    (hf : ∀ r, (f r).session = r.session) (records : List Debug.Record) :
    Debug.forgetting id (records.map fun r => if r.session == id then f r else r) =
      Debug.forgetting id records := by
  rw [Debug.forgetting, Debug.forgetting]
  induction records with
  | nil => rfl
  | cons r rest ih =>
      rw [List.map_cons]
      by_cases hr : r.session == id
      · rw [if_pos hr, List.filter_cons_of_neg (by simpa [hf] using hr),
          List.filter_cons_of_neg (by simpa using hr), ih]
      · rw [if_neg hr, List.filter_cons_of_pos (by simpa using hr),
          List.filter_cons_of_pos (by simpa using hr), ih]

theorem agree_update {f g : Debug.Record → Debug.Record} (hf : ∀ r, (f r).session = r.session)
    (hg : ∀ r, (g r).session = r.session)
    (h : ∀ r q, r.outline = q.outline → (f r).outline = (g q).outline) :
    Act.Agree c.Alike c.Fault (fun _ _ => True) (Debug.update c.id f) (Debug.update c.id' g) := by
  refine Act.agree_modify fun s t hst => ⟨hst.live, fun hd => ?_, ?_, ?_⟩
  · have hs : ((Debug.update c.id f).on s).2.recordOf c.id = _ := Debug.recordOf_update hf s
    have ht : ((Debug.update c.id' g).on t).2.recordOf c.id' = _ := Debug.recordOf_update hg t
    refine (congrArg (Option.map (·.outline)) hs).trans
      (Eq.trans ?_ (congrArg (Option.map (·.outline)) ht).symm)
    have hrecords := hst.records hd
    cases hr : s.recordOf c.id with
    | none =>
        rw [hr] at hrecords
        rw [Option.map_eq_none_iff.mp hrecords.symm]
        rfl
    | some r =>
        rw [hr] at hrecords
        obtain ⟨q, hq, hqr⟩ := Option.map_eq_some_iff.mp hrecords.symm
        rw [hq]
        exact congrArg some (h r q hqr.symm)
  · rw [← hst.left, Server.beside, forgetting_update hf]
    rfl
  · rw [← hst.right, Server.beside, forgetting_update hg]
    rfl

/-- A change that is made in an outline as it is in a record. -/
theorem agree_change {f : Debug.Record → Debug.Record} (hf : ∀ r, (f r).session = r.session)
    (h : ∀ r, (f r).outline = f r.outline) :
    Act.Agree c.Alike c.Fault (fun _ _ => True) (Debug.update c.id f) (Debug.update c.id' f) :=
  agree_update hf hf fun r q hrq => by rw [h, h, hrq]

theorem agree_record (hd : c.debugging = true) :
    Act.Agree c.Alike c.Fault (fun r q => r.outline = q.outline) (Server.record c.id)
      (Server.record c.id') := by
  intro s t h
  have hrecords := h.records hd
  cases hr : s.recordOf c.id with
  | none =>
      rw [hr] at hrecords
      have hq : t.recordOf c.id' = none := Option.map_eq_none_iff.mp hrecords.symm
      rw [Server.recordOf] at hr hq
      rw [Server.record, Server.record, Act.on_bind, Act.on_bind, Act.on_get, Act.on_get]
      simp only [hr, hq]
      exact ⟨fault_noDebugSession, h⟩
  | some r =>
      rw [hr] at hrecords
      obtain ⟨q, hq, hqr⟩ := Option.map_eq_some_iff.mp hrecords.symm
      rw [Debug.record_on hr, Debug.record_on hq]
      exact ⟨hqr.symm, h⟩

end Comparison

end StoryServer
