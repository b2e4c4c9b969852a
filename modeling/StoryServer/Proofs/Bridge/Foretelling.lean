import StoryServer.Proofs.Bridge.LineByLine

/-!
# Compiling foretells loading

A source is compiled to see whether it can be loaded, and the errors are shown before a story is
opened from it.  `compile_foretells` says that a process keeps this word: what it answers when a
source is to be compiled is what it does when the same source is to be loaded.

*Compilers.*  A compiler may list errors and give a story, none, or throw.  `Interpreter.Worded` is
what has to hold of it: what it says is said in words.

*Rejections.*  A source that gives no story is rejected with at least one error, and none is empty
(`rejection_worded`).  The same errors are listed in one answer and joined in the other.
-/

namespace StoryServer

/-- A text of a value is read as the value with its members in order. -/
theorem Playbook.readSettled?_of_parse {text : String} {v : Json}
    (h : Json.parseStrict text = .ok v) : readSettled? (some (.str text)) = some v.settled := by
  have hread : readSettled (some (.str text)) = .ok v.settled := by
    refine bind_eq_ok.mpr ⟨text, rfl, ?_⟩
    rw [h]
    rfl
  rw [readSettled?, hread]

namespace Bridge

variable {σ : Type}

/-- Whether an interpreter gives `c` for a source and speaks in words of it: it lists texts that are
not empty, throws nothing but errors, and can write a story that it gives. -/
structure Interpreter.Worded (i : Interpreter σ) (source : Json) (c : Compiling σ) : Prop where
  given : i.compile source = .ok c
  errors : ∃ texts, Json.orEmpty c.errors = Json.texts texts ∧ "" ∉ texts
  thrown : ∀ t, c.result = .error t → ∃ message, t = .error message
  compiled : ∀ story, c.result = .ok (some story) → ∃ text, i.compiled story = .ok text

theorem Thrown.ofMessage_ne_empty (message : String) : ofMessage message ≠ "" := by
  rw [ofMessage]
  split
  · decide
  · next h => exact fun hempty => h (String.isEmpty_iff.mpr hempty)

theorem Thrown.ofMessage_eq {message : String} (h : message ≠ "") : ofMessage message = message :=
  if_neg (mt String.isEmpty_iff.mp h)

/-- Errors that are not empty make a message that is not empty. -/
theorem intercalate_ne_empty {texts : List String} (hne : texts ≠ []) (h : "" ∉ texts) :
    "\n".intercalate texts ≠ "" := by
  obtain ⟨text, rest, rfl⟩ := List.exists_cons_of_ne_nil hne
  have htext : text ≠ "" := fun hempty => h (hempty ▸ List.mem_cons_self)
  cases rest with
  | nil => rwa [String.intercalate_singleton]
  | cons next rest =>
      rw [String.intercalate_cons_cons, Ne, String.append_eq_empty_iff, String.append_eq_empty_iff]
      exact fun hempty => htext hempty.1.1

theorem spelledItems?_texts (texts : List String) :
    Json.spelledItems? (texts.map .str) = some texts := by
  induction texts with
  | nil => rfl
  | cons text rest ih =>
      rw [List.map_cons, Json.spelledItems?, ih]
      · rfl
      · exact nofun

namespace Compiling

variable {i : Interpreter σ} {source : Json} {c : Compiling σ}

theorem joined_texts (texts : List String) :
    joined (Json.texts texts) = .ok ("\n".intercalate texts) := by
  change joined (.arr (texts.map .str)) = _
  rw [joined, spelledItems?_texts]

theorem onlyError_worded (h : i.Worded source c) :
    ∃ message, onlyError c.result = .ok message ∧ message ≠ "" := by
  cases hresult : c.result with
  | ok given => exact ⟨_, rfl, (by decide : "Compilation failed" ≠ "")⟩
  | error t =>
      obtain ⟨message, rfl⟩ := h.thrown t hresult
      exact ⟨_, rfl, Thrown.ofMessage_ne_empty message⟩

/-- A source is rejected with the errors listed, or with the only one there is. -/
theorem rejection_eq {errors : List String} (h : c.complaints = .ok (Json.texts errors)) :
    c.rejection =
      { thrown := .error ("\n".intercalate errors), errors := some (Json.texts errors)
        warnings := some (Json.orEmpty c.warnings) } := by
  rw [rejection, h]
  dsimp only
  rw [joined_texts]

/-- A source is rejected with errors, and none of them is empty. -/
theorem rejection_worded (h : i.Worded source c) :
    ∃ errors, errors ≠ [] ∧ "" ∉ errors ∧ c.rejection =
      { thrown := .error ("\n".intercalate errors), errors := some (Json.texts errors)
        warnings := some (Json.orEmpty c.warnings) } := by
  obtain ⟨texts, htexts, hwords⟩ := h.errors
  cases texts with
  | nil =>
      obtain ⟨message, honly, hne⟩ := onlyError_worded h
      have hcomplaints : c.complaints = .ok (Json.texts [message]) := by
        rw [complaints, htexts, honly]
        rfl
      exact ⟨[message], List.cons_ne_nil _ _, fun hmem => hne (List.mem_singleton.mp hmem).symm,
        rejection_eq hcomplaints⟩
  | cons text rest =>
      have hcomplaints : c.complaints = .ok (Json.texts (text :: rest)) := by
        rw [complaints, htexts]
        rfl
      exact ⟨text :: rest, List.cons_ne_nil _ _, hwords, rejection_eq hcomplaints⟩

theorem story?_eq_some {story : σ} (h : c.story? = some story) : c.result = .ok (some story) := by
  rw [story?] at h
  split at h
  · cases h
  · cases hresult : c.result with
    | ok given =>
        rw [hresult] at h
        exact congrArg _ h
    | error t =>
        rw [hresult] at h
        cases h

end Compiling

namespace Responder

variable {r : Responder σ} {source : Json} {c : Compiling σ}

theorem compileSource_eq (h : r.interpreter.Worded source c) :
    r.compileSource source =
      match c.story? with
      | some story => .ok (story, Json.orEmpty c.warnings)
      | none => .error c.rejection := by
  rw [compileSource, h.given]
  dsimp only
  cases hstory : c.story? with
  | some story => rfl
  | none =>
      cases hresult : c.result with
      | ok given => rfl
      | error t =>
          obtain ⟨message, rfl⟩ := h.thrown t hresult
          rfl

/-- What a process says to a source that is to be compiled. -/
theorem answer_compile {line : String} {fields : Fields}
    (hread : r.readLine line = .command "compile" (.obj fields)) (held : Option σ) :
    (r.answer line).run held =
      match r.compile (sourceOf fields) with
      | .ok reply => (written reply, held)
      | .error t => (refused t, held) := by
  have hact : r.perform? "compile" (.obj fields) = some (r.perform fields .compile) := rfl
  rw [answer_perform hread hact]
  unfold perform
  cases r.compile (sourceOf fields) <;> rfl

/-- What a process says to a source that is to be loaded. -/
theorem answer_loadSource {line : String} {fields : Fields}
    (hread : r.readLine line = .command "load-source" (.obj fields)) (held : Option σ) :
    (r.answer line).run held =
      match r.compileSource (sourceOf fields) with
      | .ok (story, _) => (written (ok []), some story)
      | .error f => (refused f.thrown, held) := by
  have hact : r.perform? "load-source" (.obj fields) = some (r.perform fields .loadSource) := rfl
  rw [answer_perform hread hact]
  unfold perform
  cases r.compileSource (sourceOf fields) <;> rfl

/-- A process that leaves the story answers later lines as if it had not been asked. -/
theorem converse_cons_of_left {line : String} {reply : Json} {held : Option σ}
    (h : (r.answer line).run held = (written reply, held)) (later : List String) :
    (r.converse (line :: later)).run held =
      ((Json.text Json.terse reply :: ((r.converse later).run held).1.1,
        ((r.converse later).run held).1.2), ((r.converse later).run held).2) := by
  rw [converse_cons, h]
  rfl

/-- **Compiling foretells loading.**  A process that is asked to compile a source always answers.  It
says that the source compiles just if loading the same source succeeds, which is when the compiler
gives a story and lists no errors; then loading leaves the story whose compiled form was given.  Else
it lists errors, at least one and none empty, and loading answers these errors, one a line, and leaves
the story that was held, so that all later lines are answered as if it had not been asked. -/
theorem compile_foretells (r : Responder σ) {source : Json} {c : Compiling σ}
    (h : r.interpreter.Worded source c) {compiling loading : String} {brought brought' : Fields}
    (hcompiling : r.readLine compiling = .command "compile" (.obj brought))
    (hloading : r.readLine loading = .command "load-source" (.obj brought'))
    (hsource : sourceOf brought = source) (hsource' : sourceOf brought' = source)
    (held : Option σ) :
    ∃ foretold told left, (r.answer compiling).run held = (written foretold, held) ∧
      (r.answer loading).run held = (written told, left) ∧
      foretold.get? "status" = some (.str "ok") ∧
      (foretold.get? "success" = some (.bool true) ↔ told.get? "status" = some (.str "ok")) ∧
      (foretold.get? "success" = some (.bool true) ↔ c.story?.isSome = true) ∧
      (foretold.get? "success" = some (.bool true) →
        ∃ story text, left = some story ∧ r.interpreter.compiled story = .ok text ∧
          foretold.get? "json" = some (.str text)) ∧
      (foretold.get? "success" ≠ some (.bool true) →
        foretold.get? "success" = some (.bool false) ∧
        ∃ errors, errors ≠ [] ∧ "" ∉ errors ∧ foretold.get? "errors" = some (Json.texts errors) ∧
          told = refusal (.str ("\n".intercalate errors)) ∧ left = held ∧
          ∀ later, (r.converse (loading :: later)).run held =
            (((Json.text Json.terse told :: ((r.converse later).run held).1.1),
              ((r.converse later).run held).1.2), ((r.converse later).run held).2)) := by
  have hcompile := answer_compile (r := r) hcompiling held
  have hload := answer_loadSource (r := r) hloading held
  rw [hsource, compile] at hcompile
  rw [hsource'] at hload
  cases hstory : c.story? with
  | some story =>
      obtain ⟨text, htext⟩ := h.compiled story (Compiling.story?_eq_some hstory)
      rw [compileSource_eq h, hstory] at hcompile hload
      dsimp only at hcompile hload
      rw [htext] at hcompile
      exact ⟨_, _, _, hcompile, hload, rfl, iff_of_true rfl rfl, iff_of_true rfl rfl,
        fun _ => ⟨story, text, rfl, htext, rfl⟩, fun hnot => absurd rfl hnot⟩
  | none =>
      obtain ⟨errors, hne, hwords, hrejection⟩ := Compiling.rejection_worded h
      rw [compileSource_eq h, hstory] at hcompile hload
      dsimp only at hcompile hload
      rw [hrejection] at hcompile hload
      have hrefused : refused (.error ("\n".intercalate errors)) =
          written (refusal (.str ("\n".intercalate errors))) := by
        rw [refused, Thrown.said, Thrown.ofMessage_eq (intercalate_ne_empty hne hwords)]
      dsimp only at hload
      rw [hrefused] at hload
      have hstatus : (refusal (.str ("\n".intercalate errors))).get? "status" ≠
          some (.str "ok") := fun hok => absurd (Json.str.inj (Option.some.inj hok)) (by decide)
      have hfails : some (Json.bool false) ≠ some (.bool true) := by simp
      exact ⟨_, _, _, hcompile, hload, rfl, iff_of_false hfails hstatus,
        iff_of_false hfails Bool.false_ne_true, fun hok => absurd hok hfails,
        fun _ => ⟨rfl, errors, hne, hwords, rfl, rfl, rfl, converse_cons_of_left hload⟩⟩

/-- A source with two errors, for which the compiler gives a story all the same. -/
theorem compile_foretells_errors :
    let r : Responder Playbook := { interpreter := Playbook.interpreter }
    let script : Json := .obj [("blocks", .obj []), ("errors", Json.texts ["a", "b c"])]
    let source := Json.text Json.terse script
    let c : Compiling Playbook :=
      { errors := some (Json.texts ["a", "b c"]), result := .ok (some (Playbook.opening script)) }
    let members (word : String) : Fields := [("op", .str word), ("source", .str source)]
    let line (word : String) : String := Json.text Json.terse (.obj (members word))
    r.interpreter.Worded (.str source) c ∧
      r.readLine (line "compile") = .command "compile" (.obj (members "compile")) ∧
      r.readLine (line "load-source") = .command "load-source" (.obj (members "load-source")) ∧
      ∀ held, ∃ foretold errors, (r.answer (line "compile")).run held = (written foretold, held) ∧
        foretold.get? "success" = some (.bool false) ∧
        foretold.get? "errors" = some (Json.texts errors) ∧
        (r.answer (line "load-source")).run held =
          (written (refusal (.str ("\n".intercalate errors))), held) := by
  intro r script source c members line
  have hscript : script.settled = script := by
    have hblocks : Json.indexKey? "blocks" = none := by decide +kernel
    have herrors : Json.indexKey? "errors" = none := by decide +kernel
    simp [script, Json.texts, Json.settled, Json.settledFields, Json.settledItems, Json.indexFirst,
      hblocks, herrors]
  have hmembers (word : String) : (Json.obj (members word)).settled = .obj (members word) := by
    have hop : Json.indexKey? "op" = none := by decide +kernel
    have hsource : Json.indexKey? "source" = none := by decide +kernel
    simp [members, Json.settled, Json.settledFields, Json.indexFirst, hop, hsource]
  have hcompiling : r.readLine (line "compile") = .command "compile" (.obj (members "compile")) :=
    readLine_members (by decide +kernel) (by decide +kernel) (hmembers _) rfl
  have hloading : r.readLine (line "load-source") =
      .command "load-source" (.obj (members "load-source")) :=
    readLine_members (by decide +kernel) (by decide +kernel) (hmembers _) rfl
  have hparsed : Json.parseStrict source = .ok script := by decide +kernel
  have hgiven : Playbook.compile (.str source) = .ok c := by
    rw [Playbook.compile, Playbook.readSettled?_of_parse hparsed, hscript]
    rfl
  have hworded : r.interpreter.Worded (.str source) c :=
    ⟨hgiven, ⟨["a", "b c"], rfl, by decide⟩, fun _ hfault => (by cases hfault),
      fun story _ => ⟨_, rfl⟩⟩
  refine ⟨hworded, hcompiling, hloading, fun held => ?_⟩
  obtain ⟨foretold, told, left, hcompile, hload, -, -, hsome, -, hrejected⟩ :=
    compile_foretells r hworded hcompiling hloading rfl rfl held
  obtain ⟨hfalse, errors, -, -, herrors, rfl, rfl, -⟩ := hrejected (mt hsome.mp (by decide))
  exact ⟨foretold, errors, hcompile, hfalse, herrors, hload⟩

end Responder

end Bridge

end StoryServer
