import StoryServer.Proofs.Rpc.Response

/-!
# What a response takes over from its message

Of the values that a client sends only the id comes back in a response; all else there is made of
texts, truth values and the codes of errors.  So a property of JSON values that they have when
their parts do holds of every response to a message of which it holds (`message_carried`).
Whether a response can be written, is read back as it was, or has only finite numbers are three
such properties.
-/

namespace StoryServer

/-- The properties of a tool have different names. -/
theorem Tool.properties_nodup (t : Tool) : (t.card.properties.map (·.name)).Nodup := by
  cases t <;> decide

namespace Json

/-- A property that values hand on to their members and have when their parts do. -/
structure Carried (P : Json → Prop) : Prop where
  null : P .null
  bool (b : Bool) : P (.bool b)
  str (s : String) : P (.str s)
  code (e : RpcError) : P (.int e.code)
  arr {items : List Json} (h : ∀ v ∈ items, P v) : P (.arr items)
  obj {fields : Fields} (hkeys : (fields.map (·.1)).Nodup) (h : ∀ p ∈ fields, P p.2) :
    P (.obj fields)
  member {fields : Fields} (h : P (.obj fields)) : ∀ p ∈ fields, P p.2

namespace Carried

variable {P : Json → Prop} (hP : Carried P)

include hP

theorem get? {v w : Json} {key : String} (hv : P v) (h : v.get? key = some w) : P w := by
  cases v with
  | obj fields =>
      obtain ⟨p, hp, rfl⟩ := Option.map_eq_some_iff.mp h
      exact hP.member hv p (List.mem_of_find?_eq_some hp)
  | _ => cases h

theorem texts (items : List String) : P (Json.texts items) :=
  hP.arr fun v hv => by
    obtain ⟨s, -, rfl⟩ := List.mem_map.mp hv
    exact hP.str s

theorem empty : P (.obj []) := hP.obj List.nodup_nil (by simp)

/-! ## Tools -/

theorem property (q : Property) : P q.toJson.2 := by
  refine hP.obj ?_ ?_
  · split <;> split <;> simp
  · simp only [List.forall_mem_append, List.forall_mem_singleton]
    refine ⟨⟨?_, ?_⟩, hP.str _⟩
    · split
      · exact List.forall_mem_singleton.mpr (hP.str _)
      · simp
    · split
      · simp
      · exact List.forall_mem_singleton.mpr (hP.texts q.options)

theorem card (t : Tool) : P t.card.toJson := by
  have hproperties : P (.obj (t.card.properties.map Property.toJson)) := by
    refine hP.obj ?_ fun p hp => ?_
    · rw [List.map_map]
      exact t.properties_nodup
    · obtain ⟨q, -, rfl⟩ := List.mem_map.mp hp
      exact hP.property q
  have hschema : P (.obj ([("type", .str "object"),
      ("properties", .obj (t.card.properties.map Property.toJson))] ++
        if t.card.required.isEmpty then [] else [("required", .texts t.card.required)])) := by
    refine hP.obj ?_ ?_
    · split <;> simp
    · simp only [List.forall_mem_append, List.forall_mem_cons]
      refine ⟨⟨hP.str _, hproperties, by simp⟩, ?_⟩
      split
      · simp
      · exact List.forall_mem_singleton.mpr (hP.texts _)
  refine hP.obj (by simp) ?_
  simp only [List.forall_mem_cons]
  exact ⟨hP.str _, hP.str _, hschema, by simp⟩

theorem toolResult (r : ToolResult) : P r.toJson := by
  have hblock : P (.obj [("type", .str "text"), ("text", .str r.text)]) :=
    hP.obj (by simp) (by simp [hP.str])
  exact hP.obj (by simp) (by simp [hP.arr, hblock, hP.bool])

/-! ## Responses -/

theorem errorResponse {id : Json} (hid : P id) (e : RpcError) : P (errorResponse id e) := by
  have herror : P (.obj [("code", .int e.code), ("message", .str e.message)]) :=
    hP.obj (by simp) (by simp [hP.code, hP.str])
  exact hP.obj (by simp) (by simp [hP.str, hid, herror])

theorem resultResponse {id result : Json} (hid : P id) (h : P result) :
    P (resultResponse id result) :=
  hP.obj (by simp) (by simp [hP.str, hid, h])

end Carried

end Json

namespace Processor

variable {ε : Type} (p : Processor ε) {P : Json → Prop}

/-- The results of methods are made of nothing that a client sends. -/
theorem Course.carried (hP : Json.Carried P) {s : Server ε} {method : String} {message : Fields}
    {r : Except RpcError Json} (h : p.Course s method message r) {id : Json} (hid : P id) :
    P (respond id r) := by
  cases h with
  | unknown | badParams | badClient | unshown | badCall => exact hP.errorResponse hid _
  | notice | pinged => exact hP.resultResponse hid hP.empty
  | introduced =>
      have htools : P (.obj [("tools", .obj [("listChanged", .bool false)])]) :=
        hP.obj (by simp) (by simp [hP.obj, hP.bool])
      have hserver : P (.obj [("name", .str p.identity.name),
          ("version", .str p.identity.version)]) := hP.obj (by simp) (by simp [hP.str])
      exact hP.resultResponse hid (hP.obj (by simp) (by simp [hP.str, htools, hserver]))
  | called => exact hP.resultResponse hid (hP.toolResult _)
  | listed =>
      refine hP.resultResponse hid (hP.obj (by simp) ?_)
      refine List.forall_mem_singleton.mpr (hP.arr fun v hv => ?_)
      obtain ⟨t, -, rfl⟩ := List.mem_map.mp hv
      exact hP.card t

/-- **The response to a message has the property if the id has it.** -/
theorem message_carried (hP : Json.Carried P) {m v : Json} (s : Server ε)
    (hid : P ((m.get? "id").getD .null)) (h : ((p.message m).on s).1 = .ok (some v)) : P v := by
  cases hmethod : methodOf m with
  | none =>
      obtain ⟨e, -, hon⟩ := p.message_refused s hmethod
      rw [hon] at h
      cases h
      exact hP.errorResponse hid e
  | some method =>
      cases m with
      | obj message =>
          rw [p.message_named s hmethod] at h
          obtain ⟨hrun, -⟩ | ⟨r, t, hrun, hcourse⟩ := p.run_course s hmethod
          · rw [hrun] at h
            cases h
          · rw [hrun] at h
            dsimp only [Except.map] at h
            rw [answerTo] at h
            split at h <;> cases h
            exact hcourse.carried p hP hid
      | _ => cases hmethod

theorem id_carried (hP : Json.Carried P) {m : Json} (hm : P m) : P ((m.get? "id").getD .null) := by
  cases hget : m.get? "id" with
  | none => exact hP.null
  | some id => exact hP.get? hm hget

end Processor

end StoryServer
