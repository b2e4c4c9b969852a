import StoryServer.Ink.Shelf
import StoryServer.Proofs.Frame
import StoryServer.Proofs.Ink.Running

/-!
# What telling a story leaves alone

No operation on an open story but closing it changes its program or how often it was
closed, and none of them opens a story (`engine_keeps`).
-/

namespace StoryServer

namespace Ink

namespace Story

section Reading

/-! Looking at a story keeps all of it, whatever the view. -/

variable {γ : Type} {view : Story → γ}

/-- A story that is closed is refused, with nothing changed. -/
theorem keeps_requireOpen : Act.Keeps view requireOpen := by
  intro s
  rw [requireOpen_on]
  split <;> rfl

theorem keeps_canContinue : Act.Keeps view canContinue :=
  Act.keeps_bind keeps_requireOpen fun _ => Act.keeps_bind Act.keeps_get fun _ => Act.keeps_ofExcept _

theorem keeps_choices :
    Act.Keeps view (do
      requireOpen
      Act.ofExcept (← get).choices) :=
  Act.keeps_bind keeps_requireOpen fun _ => Act.keeps_bind Act.keeps_get fun _ => Act.keeps_ofExcept _

theorem keeps_getVariable (name : String) : Act.Keeps view (getVariable name) :=
  Act.keeps_bind keeps_requireOpen fun _ => Act.keeps_bind Act.keeps_get fun _ => Act.keeps_pure _

theorem keeps_saveState : Act.Keeps view saveState :=
  Act.keeps_bind keeps_requireOpen fun _ => Act.keeps_bind Act.keeps_get fun _ => Act.keeps_ofExcept _

/-- Functions see their arguments only. -/
theorem keeps_call (functions : Functions) (name : String) (arguments : List Json) :
    Act.Keeps view (do
      requireOpen
      Act.ofExcept (functions.call name arguments)) :=
  Act.keeps_bind keeps_requireOpen fun _ => Act.keeps_ofExcept _

theorem keeps_globalTags :
    Act.Keeps view (do
      requireOpen
      return (← get).program.globalTags.map Json.str) :=
  Act.keeps_bind keeps_requireOpen fun _ => Act.keeps_bind Act.keeps_get fun _ => Act.keeps_pure _

end Reading

/-- A line moves the place and the variables, of which nothing is fixed. -/
theorem keeps_continueLine : Act.Keeps fixed continueLine := continueLine_fixed

/-- By induction on the lines that may still be told. -/
theorem keeps_continueFrom : ∀ (n : Nat) (told : String) (tags : List Json) (can : Bool),
    Act.Keeps fixed (continueFrom n told tags can)
  | 0, _, _, _ => Act.keeps_throw _
  | n + 1, told, tags, can => by
      rw [continueFrom]
      refine Act.keeps_bind Act.keeps_get fun s => Act.keeps_bind (Act.keeps_ofExcept _) fun more => ?_
      cases more with
      | true => exact Act.keeps_bind keeps_continueLine fun c => keeps_continueFrom n _ _ _
      | false =>
          exact Act.keeps_bind Act.keeps_get fun _ => Act.keeps_bind (Act.keeps_ofExcept _) fun _ =>
            Act.keeps_pure _

theorem keeps_continueStory : Act.Keeps fixed continueStory :=
  Act.keeps_bind keeps_requireOpen fun _ => Act.keeps_bind Act.keeps_get fun _ =>
    Act.keeps_bind (Act.keeps_ofExcept _) fun _ => keeps_continueFrom _ _ _ _

/-- A choice moves the place, or fails before anything is changed. -/
theorem keeps_choose (index : Int) : Act.Keeps fixed (choose index) := by
  refine Act.keeps_bind keeps_requireOpen fun _ => Act.keeps_get_bind fun s => ?_
  split
  · rename_i o _ _
    simp only [Act.on_bind, Act.on_ofExcept, Act.on_set]
    cases o.destination <;> rfl
  · rfl

theorem keeps_reset : Act.Keeps fixed reset :=
  Act.keeps_bind keeps_requireOpen fun _ => Act.keeps_modify fun _ => rfl

theorem keeps_setVariable (name : String) (v : Json) : Act.Keeps fixed (setVariable name v) := by
  refine Act.keeps_bind keeps_requireOpen fun _ => Act.keeps_get_bind fun s => ?_
  split <;> rfl

/-- A state is restored part by part, and no part of it is fixed; so it keeps what is fixed even
where it stops half way. -/
theorem keeps_loadState (text : String) : Act.Keeps fixed (loadState text) :=
  Act.keeps_bind keeps_requireOpen fun _ => Act.keeps_bind (Act.keeps_ofExcept _) fun _ =>
    Act.keeps_bind (Act.keeps_ofExcept _) fun _ => Act.keeps_bind (Act.keeps_modify fun _ => rfl)
      fun _ => Act.keeps_bind (Act.keeps_ofExcept _) fun _ =>
        Act.keeps_bind (Act.keeps_modify fun _ => rfl) fun _ =>
          Act.keeps_bind (Act.keeps_ofExcept _) fun _ => Act.keeps_modify fun _ => rfl

end Story

namespace Shelf

/-- What telling stories does not change of those opened so far. -/
def fixed (shelf : Shelf) : List (Program × Nat) := shelf.opened.map Story.fixed

/-- An action on an open story, as one on the shelf. -/
theorem withStory_on {α : Type} {shelf : Shelf} {id : StoryId} {story : Story}
    (act : Act Story α) (h : shelf.opened[id]? = some story) :
    (withStory id act).on shelf =
      ((act.on story).1, { shelf with opened := shelf.opened.set id (act.on story).2 }) := by
  rw [withStory, Act.on_bind, Act.on_get]
  simp only [h, Act.on_bind, Act.on_modify, Act.on_ofExcept]

/-- There is nothing to act on where no story was opened. -/
theorem withStory_none {α : Type} {shelf : Shelf} {id : StoryId} (act : Act Story α)
    (h : shelf.opened[id]? = none) : (withStory id act).on shelf = (.error .closedStory, shelf) := by
  rw [withStory, Act.on_bind, Act.on_get]
  simp only [h, Act.on_throw]

/-- What is kept of one story is kept of all, since the others are not touched. -/
theorem keeps_withStory {α : Type} {act : Act Story α} (id : StoryId)
    (h : Act.Keeps Story.fixed act) : Act.Keeps fixed (withStory id act) := by
  intro shelf
  cases hs : shelf.opened[id]? with
  | none => rw [withStory_none act hs]
  | some story =>
      rw [withStory_on act hs, fixed, fixed, List.map_set, h story]
      refine List.ext_getElem? fun i => ?_
      rw [List.getElem?_set]
      split
      · next hi =>
          subst hi
          rw [List.getElem?_map, hs]
          obtain ⟨hlt, _⟩ := List.getElem?_eq_some_iff.mp hs
          simp [hlt]
      · rfl

end Shelf

/-- Telling stories leaves alone what is fixed of them. -/
theorem engine_keeps (setup : Setup) : (engine setup).Keeps Shelf.fixed where
  compile _ := Act.leads_ofExcept _
  continueStory id := Stage.keeps_inEngine (Shelf.keeps_withStory id Story.keeps_continueStory)
  continueLine id := Stage.keeps_inEngine (Shelf.keeps_withStory id Story.keeps_continueLine)
  canContinue id := Stage.keeps_inEngine (Shelf.keeps_withStory id Story.keeps_canContinue)
  choose id index := Stage.keeps_inEngine (Shelf.keeps_withStory id (Story.keeps_choose index))
  choices id := Stage.keeps_inEngine (Shelf.keeps_withStory id Story.keeps_choices)
  getVariable id name := Stage.keeps_inEngine (Shelf.keeps_withStory id (Story.keeps_getVariable name))
  setVariable id name v :=
    Stage.keeps_inEngine (Shelf.keeps_withStory id (Story.keeps_setVariable name v))
  saveState id := Stage.keeps_inEngine (Shelf.keeps_withStory id (Act.keeps_map Story.keeps_saveState))
  loadState id text := Stage.keeps_inEngine (Shelf.keeps_withStory id (Story.keeps_loadState text))
  reset id := Stage.keeps_inEngine (Shelf.keeps_withStory id Story.keeps_reset)
  evaluate id name arguments :=
    Stage.keeps_inEngine (Shelf.keeps_withStory id (Story.keeps_call setup.functions name arguments))
  globalTags id := Stage.keeps_inEngine (Shelf.keeps_withStory id Story.keeps_globalTags)
  bidify _ := Act.leads_pure _
  stripBidi _ := Act.leads_pure _
  bidifyCompiled _ := Act.leads_ofExcept _

end Ink

end StoryServer
