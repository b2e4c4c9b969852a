import StoryServer.Proofs.Ink.Saved

/-!
# What is done to a story

An `Operation` is anything that a story engine can be asked to do with an open story, and
`Story.after` is the story that some operations leave, whether they answer or fail.  What stays
known of a story whatever is done to it is known after any operations (`Stays.after`).

Among the operations is restoring a state, from any text.  `Program.Saves` says of a text that it
is the state of a story of the program to which only such texts were restored.
-/

namespace StoryServer

theorem Act.on_discard {σ α : Type} (act : Act σ α) (s : σ) :
    (discard act).on s = ((act.on s).1.map fun _ => ⟨⟩, (act.on s).2) :=
  Act.on_map _ act s

namespace Ink

open Story

/-- What can be asked of an open story. -/
inductive Operation where
  | continueStory
  | continueLine
  | canContinue
  | choose (index : Int)
  | choices
  | getVariable (name : String)
  /-- A variable is set to a value whose objects have each key once. -/
  | setVariable (name : String) (v : Json) (hv : v.Distinct)
  | saveState
  | loadState (text : String)
  | reset
  /-- One of some functions is called. -/
  | call (functions : Functions) (name : String) (arguments : List Json)
  | globalTags
  | close

/-- The operation, without its answer. -/
def Operation.act : Operation → Act Story Unit
  | .continueStory => discard Story.continueStory
  | .continueLine => discard Story.continueLine
  | .canContinue => discard Story.canContinue
  | .choose index => Story.choose index
  | .choices => discard do
    requireOpen
    Act.ofExcept (← get).choices
  | .getVariable name => discard (Story.getVariable name)
  | .setVariable name v _ => Story.setVariable name v
  | .saveState => discard Story.saveState
  | .loadState text => Story.loadState text
  | .reset => Story.reset
  | .call functions name arguments => discard do
    requireOpen
    Act.ofExcept (functions.call name arguments)
  | .globalTags => discard do
    requireOpen
    return (← get).program.globalTags.map Json.str
  | .close => modify fun s => { s with closings := s.closings + 1 }

/-- The story that some operations leave. -/
def Story.after : List Operation → Story → Story
  | [], s => s
  | o :: rest, s => Story.after rest (o.act.on s).2

/-- A text that a story of the program saves after some operations, which restore only such
texts. -/
inductive Program.Saves (p : Program) : String → Prop where
  | mk {text : String} (operations : List Operation)
      (hloads : ∀ loaded, .loadState loaded ∈ operations → Saves p loaded)
      (hsave : (saveState.on ((start p).after operations)).1 = .ok text) : Saves p text

namespace Story

section Stays

variable {known : Story → Prop} {s : Story}

theorem Stays.act (h : Stays known Json.Distinct)
    (hclose : ∀ u, known u → known { u with closings := u.closings + 1 }) (o : Operation)
    (hs : known s) : known (o.act.on s).2 := by
  have reading {α : Type} {act : Act Story α} (hkeeps : Act.Keeps id act) :
      known ((discard act).on s).2 := by
    have hsame : (act.on s).2 = s := hkeeps s
    rw [Act.on_discard, hsame]
    exact hs
  cases o with
  | continueStory => exact Act.on_discard Story.continueStory s ▸ h.continueStory s hs
  | continueLine => exact Act.on_discard Story.continueLine s ▸ h.continueLine s hs
  | canContinue => exact reading keeps_canContinue
  | choose index => exact h.choose index s hs
  | choices => exact reading keeps_choices
  | getVariable name => exact reading (keeps_getVariable name)
  | setVariable name v hv => exact h.setVariable name hv s hs
  | saveState => exact reading keeps_saveState
  | loadState text => exact h.loadState text s hs
  | reset => exact h.reset s hs
  | call functions name arguments => exact reading (keeps_call functions name arguments)
  | globalTags => exact reading keeps_globalTags
  | close => exact hclose s hs

theorem Stays.after (h : Stays known Json.Distinct)
    (hclose : ∀ u, known u → known { u with closings := u.closings + 1 })
    (operations : List Operation) (hs : known s) : known (s.after operations) := by
  induction operations generalizing s with
  | nil => exact hs
  | cons o rest ih => exact ih (h.act hclose o hs)

end Stays

theorem stays_program (p : Program) : Stays (fun u => u.program = p) Json.Distinct where
  continueStory u hu := (congrArg Prod.fst (keeps_continueStory u)).trans hu
  continueLine u hu := (congrArg Prod.fst (keeps_continueLine u)).trans hu
  choose index u hu := (congrArg Prod.fst (keeps_choose index u)).trans hu
  setVariable name v _ u hu := (congrArg Prod.fst (keeps_setVariable name v u)).trans hu
  loadState text u hu := (congrArg Prod.fst (keeps_loadState text u)).trans hu
  reset u hu := (congrArg Prod.fst (keeps_reset u)).trans hu

variable {source : String} {p : Program}

theorem program_after (p : Program) (operations : List Operation) :
    ((start p).after operations).program = p :=
  (stays_program p).after (fun _ hu => hu) operations rfl

/-- **A story of a source is sound after any operations.** -/
theorem sound_after (h : Program.parse source = .ok p) (operations : List Operation) :
    ((start p).after operations).Sound :=
  stays_sound.after (fun _ hu => ⟨hu.declared, hu.bindings, hu.cursor, hu.offers⟩) operations
    (sound_start (Program.sound_parse h))

end Story

end Ink

end StoryServer
