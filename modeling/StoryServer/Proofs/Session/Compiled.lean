import StoryServer.Proofs.Session.Restore
import StoryServer.Proofs.Tool.Blindness

/-!
# Stories started from compiled texts

A story can be started from its source, or from the compiled text that `compile_ink` reports for
the source.  The compiled text passes through two texts on the way: the answer that reports it is
written and read, and then the compiled text itself is.  Nothing is lost on it, so both starts
answer the same and leave servers that differ in the recorded source alone
(`compiled_as_source`).  A source with mistakes cannot be started: the answer to the start names
the mistakes that the compilation reports.

*Reports.*  What `compile_ink` says of a source is read back from the text of its answer
(`reported_clean`, `reported_mistaken`).

*Starts.*  Opening the compiled text does on every stage what opening the source does
(`alike_compiled`).  So the two starts are alike at a glance that does not show the source.
-/

namespace StoryServer

open Server Registry

/-- All of a session but the source that it was started from. -/
def Glance.sourceless : Glance where
  look x := { x with source := "" }
  id _ := rfl
  story _ := rfl
  saved _ _ := rfl

/-! ## Texts in arrays -/

namespace Json

/-- The texts of an array that holds nothing else. -/
def texts? : Json → Option (List String)
  | .arr items => items.mapM fun
    | .str s => some s
    | _ => none
  | _ => none

theorem texts?_texts (items : List String) : (texts items).texts? = some items := by
  rw [texts, texts?]
  induction items with
  | nil => rfl
  | cons s rest ih => rw [List.map_cons, List.mapM_cons, ih]; rfl

theorem distinct_texts (items : List String) : (texts items).Distinct := by
  rw [texts, Distinct, distinctItems_iff]
  intro v hv
  obtain ⟨s, -, rfl⟩ := List.mem_map.mp hv
  trivial

theorem defect?_texts (style : JsonStyle) (items : List String) :
    (texts items).defect? style = none := by
  rw [texts, defect?]
  induction items with
  | nil => rfl
  | cons s rest ih => rw [List.map_cons, itemsDefect?, ih]; rfl

end Json

/-! ## What a compilation reports -/

/-- What the answer to a compilation reports: the compiled text, or the mistakes. -/
def ToolResult.reported (r : ToolResult) : Option (Except (List String) String) :=
  if r.isError then none
  else match readJson r.text with
    | .error _ => none
    | .ok v =>
      match v.get? "success", v.get? "json", v.get? "errors" with
      | some (.bool true), some (.str json), _ => some (.ok json)
      | some (.bool false), _, some errors => errors.texts?.map .error
      | _, _, _ => none

/-- The answer to a call with a value that can be written. -/
theorem Reply.result_value {v : Json} (hw : v.defect? .spaced = none) (hd : v.Distinct) :
    (Reply.answered (.ok v)).result = .ok ⟨Json.text .spaced v, false⟩ ∧
      readJson (Json.text .spaced v) = .ok v := by
  have hwrite : writeJson .spaced v = .ok (Json.text .spaced v) := writeJson_eq_ok.mpr ⟨hw, rfl⟩
  refine ⟨?_, readJson_of_writeJson Json.spaced_readable hd hwrite⟩
  rw [Reply.result, show (Except.ok v).bind Toolbox.resultText = writeJson .spaced v from rfl, hwrite]
  rfl

theorem reported_clean (json : String) :
    (Reply.answered (.ok (Toolbox.compilationJson
      { success := true, json := .str json }))).result.toOption.bind ToolResult.reported =
        some (.ok json) := by
  have hkeys : ["success", "json"].Nodup := by decide
  obtain ⟨hresult, hread⟩ := Reply.result_value
    (v := .obj [("success", .bool true), ("json", .str json)]) rfl ⟨hkeys, trivial, trivial, trivial⟩
  rw [show Toolbox.compilationJson { success := true, json := .str json } =
    .obj [("success", .bool true), ("json", .str json)] from rfl, hresult]
  simp only [Except.toOption, Option.bind_some, ToolResult.reported, hread]
  rfl

theorem reported_mistaken {errors : List String} (h : errors ≠ []) :
    (Reply.answered (.ok (Toolbox.compilationJson
      { success := false, errors := errors.map .str }))).result.toOption.bind ToolResult.reported =
        some (.error errors) := by
  have hkeys : ["success", "errors"].Nodup := by decide
  have hjson : Toolbox.compilationJson { success := false, errors := errors.map .str } =
      .obj [("success", .bool false), ("errors", .texts errors)] := by
    cases errors with
    | nil => exact absurd rfl h
    | cons e rest => rfl
  have hwritten : Json.defect? .spaced (.obj [("success", .bool false), ("errors", .texts errors)]) =
      none := by
    simp [Json.defect?, Json.fieldsDefect?, Json.defect?_texts]
  obtain ⟨hresult, hread⟩ := Reply.result_value hwritten
    ⟨hkeys, trivial, Json.distinct_texts errors, trivial⟩
  have htexts := Json.texts?_texts errors
  rw [hjson, hresult]
  simp only [Except.toOption, Option.bind_some, ToolResult.reported, hread]
  simp [Json.get?, Fields.get?, htexts]

namespace Ink.Program

/-- A source is refused as a whole only for a knot without a name. -/
theorem parse_error {source : String} {f : Fault} (h : parse source = .error f) :
    f = .noElement := by
  have hlines : ∀ (lines : List String) (d : Draft) (number : Nat),
      d.addLines number lines = .error f → f = .noElement := by
    intro lines
    induction lines with
    | nil => exact fun d number h => nomatch h
    | cons line rest ih =>
        intro d number h
        rw [Draft.addLines] at h
        cases hline : d.addLine number (Text.trim line) with
        | ok e =>
            rw [hline] at h
            exact ih e (number + 1) h
        | error g =>
            rw [hline] at h
            cases h
            unfold Draft.addLine Draft.knotLine at hline
            grind
  rw [parse] at h
  cases hdraft : Draft.empty.addLines 1 (Text.lines source) with
  | error g =>
      rw [hdraft] at h
      cases h
      exact hlines _ _ _ hdraft
  | ok d =>
      rw [hdraft] at h
      cases h

end Ink.Program

namespace Ink.Shelf

variable {source : String} {p : Program}

theorem compile_clean (hparse : Program.parse source = .ok p) (hclean : p.errors.isEmpty = true) :
    ∃ json, compile source = .ok { success := true, json := .str json } := by
  rw [compile, hparse]
  exact ⟨_, if_pos hclean⟩

theorem compile_mistaken (hparse : Program.parse source = .ok p)
    (hmistaken : p.errors.isEmpty = false) : compile source =
      .ok { success := false, errors := (p.errors.map SourceError.message).map .str } := by
  rw [compile, hparse, List.map_map]
  exact if_neg (by simp [hmistaken])

end Ink.Shelf

/-! ## Calls -/

namespace ToolCall

/-- Compiles a source. -/
def compileInk (source : String) : ToolCall := ⟨"compile_ink", .obj [("source", .str source)]⟩

/-- Starts a story from its source. -/
def startStory (source : String) (id : Option String) : ToolCall :=
  ⟨"start_story", .obj [("source", .str source), ("session_id", .ofText? id)]⟩

/-- Starts a compiled story. -/
def startStoryJson (json : String) (id : Option String) : ToolCall :=
  ⟨"start_story_json", .obj [("json", .str json), ("session_id", .ofText? id)]⟩

end ToolCall

/-- What a compilation of a source reports on a server. -/
def Toolbox.reported {ε : Type} (box : Toolbox ε) (source : String) (s : Server ε) :
    Option (Except (List String) String) :=
  (box.result (.compileInk source) s).toOption.bind ToolResult.reported

section Starts

variable (setup : Ink.Setup) (traceLimit : Option Int) (author : Option Author.Settings)

theorem read_compileInk (source : String) :
    Request.ofJson (Toolbox.argumentsOf (ToolCall.compileInk source).arguments) .compileInk =
      .ok (.compileInk source) := rfl

theorem read_startStory (source : String) (id : Option String) :
    Request.ofJson (Toolbox.argumentsOf (ToolCall.startStory source id).arguments) .startStory =
      .ok (.startStory source id) := by cases id <;> rfl

theorem read_startStoryJson (json : String) (id : Option String) :
    Request.ofJson (Toolbox.argumentsOf (ToolCall.startStoryJson json id).arguments)
      .startStoryJson = .ok (.startStoryJson json id none) := by cases id <;> rfl

/-- A call answers as its request does. -/
theorem Toolbox.result_made {box : Toolbox Ink.Shelf} {c : ToolCall} {tool : Tool} {r : Request}
    (htool : box.find? c.name = some tool)
    (hread : Request.ofJson (argumentsOf c.arguments) tool = .ok r) (s : Server Ink.Shelf) :
    box.result c s = (Reply.answered ((box.answer r).on s).1).result := by
  obtain ⟨-, hreply, -⟩ := reply_made htool hread (fun _ v => v) s
  rw [result, call_reply, hreply]
  cases ((box.answer r).on s).1 <;> rfl

theorem result_compileInk (source : String) (s : Server Ink.Shelf) :
    (Ink.toolbox setup traceLimit author).result (.compileInk source) s =
      (Reply.answered ((Ink.Shelf.compile source).map Toolbox.compilationJson)).result := by
  have hanswer : (((Ink.toolbox setup traceLimit author).answer (.compileInk source)).on s).1 =
      (Ink.Shelf.compile source).map Toolbox.compilationJson := by
    change ((do
      return Toolbox.compilationJson (← Server.onStage (Act.ofExcept (Ink.Shelf.compile source))) :
      Act (Server Ink.Shelf) Json).on s).1 = _
    cases Ink.Shelf.compile source <;> rfl
  rw [Toolbox.result_made rfl (read_compileInk source), hanswer]

/-- A compiled text is opened as its source is. -/
theorem alike_compiled {source json : String}
    (h : Ink.storyOfCompiled json = Ink.storyOf source) :
    Act.Alike (Stage.Over (· = ·)) ((Ink.engine setup).openCompiled json)
      ((Ink.engine setup).openSource source) :=
  Act.alike_of_on ((Ink.engine_blind setup).openCompiled json) fun x =>
    (Ink.opens_source setup source x).trans (h ▸ (Ink.opens_compiled setup json x).symm)

/-- Calls that start a story from its source and from its compiled text. -/
theorem alike_start {source json : String} (h : Ink.storyOfCompiled json = Ink.storyOf source)
    (id : Option String) :
    let box := Ink.toolbox setup traceLimit author
    Act.Alike (Matches .sourceless)
      (box.call (ToolCall.startStoryJson json id).name (ToolCall.startStoryJson json id).arguments)
      (box.call (ToolCall.startStory source id).name (ToolCall.startStory source id).arguments) := by
  intro box
  have hengine : box.engine.Blind := Ink.engine_blind setup
  have hoverlooks : Glance.sourceless.Overlooks "" source := fun _ _ => rfl
  have hanswer : Act.Alike (Matches .sourceless) (box.answer (.startStoryJson json id none))
      (box.answer (.startStory source id)) :=
    Act.alike_bind (Toolbox.alike_startFrom hengine hoverlooks (alike_compiled setup h) id none)
      fun _ => Act.blind_pure _
  have htool : box.find? "start_story_json" = some .startStoryJson := rfl
  have htool' : box.find? "start_story" = some .startStory := rfl
  refine Toolbox.alike_call htool htool' (Toolbox.alike_perform ?_)
  rw [read_startStoryJson, read_startStory]
  exact hanswer

/-- A source that is refused: no session is started, and the one with the given id is ended. -/
theorem start_unopened {source : String} {f : Fault} (h : Ink.storyOf source = .error f)
    (hends : f ≠ .endless) (id : Option String) {s : Server Ink.Shelf} (hs : s.Orderly) :
    let box := Ink.toolbox setup traceLimit author
    box.result (.startStory source id) s = .ok ⟨f.report, true⟩ ∧
      (box.after (.startStory source id) s).tables =
        ⟨withoutGiven id s.sessions, s.records, closingGiven s id⟩ := by
  intro box
  have htool : box.find? "start_story" = some .startStory := rfl
  obtain ⟨-, -, htables⟩ := Toolbox.reply_made htool (read_startStory source id) (fun _ v => v) s
  have hcomes : Comes setup traceLimit author s (.startStory source id)
    ⟨Ink.storyOf source, id, none⟩ s := .source source id
  rw [h] at hcomes
  obtain ⟨_, res, hstarted, hanswers⟩ := hcomes.started hs
  obtain ⟨rfl, hT⟩ := started_unopened hstarted
  refine ⟨?_, htables.trans hT⟩
  rw [Toolbox.result_made htool (read_startStory source id)]
  generalize ((box.answer (.startStory source id)).on s).1 = answer at hanswers
  cases answer with
  | error g =>
      rw [show g = f from hanswers.symm]
      cases f <;> first | exact absurd rfl hends | rfl
  | ok v => exact hanswers.elim

/-- **Starting from a compiled text is starting from the source.**  On a server as any operations
leave it, and for every source that is compiled there: if a compiled text is reported, a start
from it and a start from the source answer the same and leave servers that differ in the recorded
source alone, so that all later calls answer the same; if mistakes are reported, a start from the
source answers with them, and no session is started; and if the compilation is an error, a start
from the source is the same error. -/
theorem compiled_as_source (ops : List Operation) (s₀ : Server Ink.Shelf) (source : String)
    (id : Option String) :
    let box := Ink.toolbox setup traceLimit author
    let s := Operation.run box ops s₀.fresh
    let t := box.after (.compileInk source) s
    match box.reported source s with
    | some (.ok json) =>
      box.result (.startStoryJson json id) t = box.result (.startStory source id) t ∧
      (box.after (.startStoryJson json id) t).Matches .sourceless
        (box.after (.startStory source id) t) ∧
      ∀ calls, box.results calls (box.after (.startStoryJson json id) t) =
        box.results calls (box.after (.startStory source id) t)
    | some (.error mistakes) =>
      box.result (.startStory source id) t =
        .ok ⟨"FakeInkError: " ++ "\n".intercalate mistakes, true⟩ ∧
      (box.after (.startStory source id) t).tables =
        ⟨withoutGiven id t.sessions, t.records, closingGiven t id⟩
    | none => ∃ f : Fault, box.result (.compileInk source) s = .ok ⟨f.report, true⟩ ∧
      box.result (.startStory source id) t = .ok ⟨f.report, true⟩ := by
  intro box s t
  have hs : s.Orderly := ⟨_, run_settled setup traceLimit author ops Ledger.Owned.start⟩
  have ht : t.Orderly := hs.after setup traceLimit author _
  have hresult : box.result (.compileInk source) s = _ :=
    result_compileInk setup traceLimit author source s
  have hreported : box.reported source s = (Reply.answered
      ((Ink.Shelf.compile source).map Toolbox.compilationJson)).result.toOption.bind
        ToolResult.reported := by
    rw [Toolbox.reported, hresult]
  rw [hreported, hresult]
  cases hparse : Ink.Program.parse source with
  | error f =>
      have hcompile : Ink.Shelf.compile source = .error f := by rw [Ink.Shelf.compile, hparse]; rfl
      have hstory : Ink.storyOf source = .error f := by rw [Ink.storyOf, hparse]
      obtain rfl := Ink.Program.parse_error hparse
      rw [hcompile]
      exact ⟨_, rfl, (start_unopened setup traceLimit author hstory (by simp) id ht).1⟩
  | ok p =>
      cases hclean : p.errors.isEmpty with
      | true =>
          obtain ⟨json, hcompile⟩ := Ink.Shelf.compile_clean hparse hclean
          have hsource : Ink.storyOf source = .ok (Ink.Story.start p) := by
            rw [Ink.storyOf, hparse]
            exact if_pos hclean
          have hsame := (Ink.storyOfCompiled_compile hcompile hparse).trans hsource.symm
          rw [hcompile, Except.map, reported_clean]
          obtain ⟨hstart, hafter⟩ := (alike_start setup traceLimit author hsame id).run
            (refl_of (Matches .sourceless) t)
          exact ⟨hstart, hafter, fun calls =>
            Toolbox.results_matches (Ink.engine_blind setup) calls hafter⟩
      | false =>
          have hcompile := Ink.Shelf.compile_mistaken hparse hclean
          have hstory : Ink.storyOf source = .error (.story (.source p.errors)) := by
            rw [Ink.storyOf, hparse]
            exact if_neg (by simp [hclean])
          have hmistakes : p.errors.map SourceError.message ≠ [] := by
            rw [Ne, List.map_eq_nil_iff, ← List.isEmpty_iff, hclean]
            exact Bool.false_ne_true
          rw [hcompile, Except.map, reported_mistaken hmistakes]
          exact start_unopened setup traceLimit author hstory (by simp) id ht

/-- A source that compiles, one with a mistake, and one that is no ink. -/
example :
    let box := Ink.toolbox false none none
    box.reported "A" Ink.idle = some (.ok "\x7b\"inkVersion\": 21, \"source\": \"A\"\x7d") ∧
    box.reported "-> K" Ink.idle = some (.error ["ERROR: Divert target not found: '-> K'"]) ∧
    box.reported "===" Ink.idle = none := by decide +kernel

end Starts

end StoryServer
