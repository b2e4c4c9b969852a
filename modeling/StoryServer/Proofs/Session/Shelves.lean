import StoryServer.Proofs.Tool.Outset

/-!
# What all stories on the shelf have

`Server.Shelves P` says that every story on the shelf has a property.  Ending a session closes
its story, and starting one puts a story on the shelf that has been continued, so both keep a
property that closing keeps and that the new story has (`shelves_end`, `shelves_start`).  What a
call keeps is what its request keeps (`shelves_after`).
-/

namespace StoryServer

open Server Registry

section Shelves

variable (setup : Ink.Setup) (traceLimit : Option Int) (author : Option Author.Settings)
variable {P : Ink.Story → Prop} {s t : Server Ink.Shelf} {r : Request} {c : ToolCall}

/-- Every story on the shelf has the property. -/
def Server.Shelves (P : Ink.Story → Prop) (s : Server Ink.Shelf) : Prop :=
  ∀ story ∈ s.stage.engine.opened, P story

theorem Server.Shelves.of_tables (h : s.Shelves P) (ht : t.tables = s.tables) : t.Shelves P := by
  have hstories : t.stage.engine.opened = s.stage.engine.opened := congrArg Tables.stories ht
  intro story hstory
  exact h story (hstories ▸ hstory)

theorem shelves_closing (hclose : ∀ story : Ink.Story, P story → P story.close) (h : s.Shelves P)
    (id : String) : ∀ story ∈ closing s id, P story := by
  intro story hstory
  rw [closing] at hstory
  split at hstory
  · exact h story hstory
  · obtain ⟨n, hn⟩ := List.getElem?_of_mem hstory
    rw [List.getElem?_modify] at hn
    obtain ⟨old, hold, heq⟩ := Option.map_eq_some_iff.mp hn
    have hkept := h old (List.mem_of_getElem? hold)
    split at heq
    · exact heq ▸ hclose old hkept
    · exact heq ▸ hkept

theorem shelves_closingGiven (hclose : ∀ story : Ink.Story, P story → P story.close)
    (h : s.Shelves P) (id : Option String) : ∀ story ∈ closingGiven s id, P story := by
  rw [closingGiven]
  split
  · exact h
  · exact shelves_closing hclose h _

variable {traceLimit} in
theorem Toolbox.Started.shelves {begun : Except Fault Ink.Story} {id state : Option String}
    {source : String} {res : Except Fault (String × Continuation)} {T : Tables}
    (h : Toolbox.Started traceLimit begun id source state s res T)
    (hclose : ∀ story : Ink.Story, P story → P story.close) (hs : s.Shelves P)
    (hresume : ∀ story, begun = .ok story → P ((Ink.Story.resume state).on story).2) :
    ∀ story ∈ T.stories, P story := by
  have hclosing := shelves_closingGiven hclose hs id
  have htold : ∀ {story told : Ink.Story} {res : Except Fault Continuation}, begun = .ok story →
      (Ink.Story.resume state).on story = (res, told) → P told := by
    intro story told res hb hp
    have hafter := hresume story hb
    rwa [hp] at hafter
  cases h with
  | unopened => exact hclosing
  | unplayed hb hname hp =>
      intro story hstory
      rcases List.mem_append.mp hstory with hstory | hstory
      · exact hclosing story hstory
      · exact List.mem_singleton.mp hstory ▸ hclose _ (htold hb hp)
  | played hb hname hp =>
      intro story hstory
      rcases List.mem_append.mp hstory with hstory | hstory
      · exact hclosing story hstory
      · exact List.mem_singleton.mp hstory ▸ htold hb hp

/-- A start adds a story that has been continued, from a saved state if one is given. -/
theorem shelves_start (hs : s.Orderly) (h : s.Shelves P)
    (hclose : ∀ story : Ink.Story, P story → P story.close) (hstarts : r.starts = true)
    (hresume : ∀ o u story, Comes setup traceLimit author s r o u → o.begun = .ok story →
      P ((Ink.Story.resume o.state).on story).2) :
    (((Ink.toolbox setup traceLimit author).answer r).on s).2.Shelves P := by
  rcases comes_or_apart setup traceLimit author hstarts s with ⟨o, u, hcomes⟩ | ⟨hsame, -⟩
  · obtain ⟨source, res, hstarted, -⟩ := hcomes.started hs
    exact hstarted.shelves hclose (h.of_tables hcomes.tables) fun story => hresume o u story hcomes
  · exact h.of_tables hsame

theorem shelves_end (hs : s.Orderly) (h : s.Shelves P)
    (hclose : ∀ story : Ink.Story, P story → P story.close) (id : String) :
    (((Ink.toolbox setup traceLimit author).answer (.endSession id)).on s).2.Shelves P := by
  obtain ⟨t, ht, hended⟩ := endSession_tables setup id fun session hsession =>
    hs.shelved session (List.mem_of_find?_eq_some hsession)
  have hrun : ((Ink.toolbox setup traceLimit author).answer (.endSession id)).on s =
      (.ok (.obj [("ok", .bool true), ("session_id", .str id),
        ("ended", .bool (s.sessions.find? (·.id == id)).isSome)]), t) := Act.on_bind_of_ok ht
  have hclosing : t.stage.engine.opened = closing s id := congrArg Tables.stories hended
  rw [hrun]
  exact fun story hstory => shelves_closing hclose h id story (hclosing ▸ hstory)

/-- What a request keeps, its call keeps. -/
theorem shelves_after {box : Toolbox Ink.Shelf} (h : s.Shelves P)
    (hanswer : ∀ r, box.requested c.name c.arguments = some r →
      ((box.answer r).on s).2.Shelves P) : (box.after c s).Shelves P := by
  have htables := Toolbox.after_tables box c s
  cases hr : box.requested c.name c.arguments with
  | none =>
      rw [hr] at htables
      exact h.of_tables htables
  | some r =>
      rw [hr] at htables
      exact (hanswer r hr).of_tables htables

end Shelves

end StoryServer
