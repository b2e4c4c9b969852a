import StoryServer.Proofs.Web.Standard

/-!
# Short ways to tools

A tool can be called by a message, or on a short way: a path for the tool, with the object of
arguments as the body.  `shortcuts_called` says that the two ways agree.

*Bodies.*  What is read of a body is what is read of the payload with the same octets; a message
that cannot be read and a body that cannot be read are refused for the same reason
(`objectOf_of_reading`, `objectOf_of_complaint`).

*Calls.*  A message that calls a tool with an object of arguments leaves the state that the tool
leaves, and its response has the result of the tool (`message_call`).  On a short way the text of
the same result is the body of the answer (`shortcut_called`).
-/

namespace StoryServer

/-! ## Bodies -/

/-- What is said of a payload that is to be an object and is not. -/
def Reading.complaint? : Reading → Option String
  | .value (.obj _) => none
  | .value _ => some (bodyComplaint "expected an object")
  | .refused reason => some (bodyComplaint reason)
  | .overlong d => some d.message
  | .tooDeep _ => none

section Bodies

variable {room : Nat} {body : Octets}

/-- The object in a body is the object in the payload. -/
theorem objectOf_of_reading {fields : Fields}
    (h : (Payload.octets body).reading room = .value (.obj fields)) :
    objectOf room body = .ok (.ok fields) := by
  rw [Payload.reading] at h
  rw [objectOf]
  cases hdecode : Encoding.decode body with
  | error d =>
      rw [hdecode] at h
      cases h
  | ok s =>
      rw [hdecode] at h
      dsimp only at h ⊢
      rw [Reading.read_of_value h]

/-- A body without an object is refused, and something is said of it. -/
theorem objectOf_of_complaint {reason : String}
    (h : ((Payload.octets body).reading room).complaint? = some reason) :
    objectOf room body = .ok (.error reason) := by
  rw [Payload.reading] at h
  rw [objectOf]
  cases hdecode : Encoding.decode body with
  | error d =>
      rw [hdecode] at h
      obtain rfl := Option.some.inj h
      rfl
  | ok s =>
      rw [hdecode] at h
      dsimp only at h ⊢
      cases hparse : Json.parseAll (.within room) s.toList with
      | ok v =>
          rw [hparse] at h
          cases v <;> cases h <;> rfl
      | error defect =>
          rw [hparse] at h
          cases defect <;> cases h <;> rfl

/-- There is no room for a body as there is none for the payload. -/
theorem objectOf_of_tooDeep {kind : Json.Kind}
    (h : (Payload.octets body).reading room = .tooDeep kind) :
    objectOf room body = .error (.tooDeep kind) := by
  rw [Payload.reading] at h
  rw [objectOf]
  cases hdecode : Encoding.decode body with
  | error d =>
      rw [hdecode] at h
      cases h
  | ok s =>
      rw [hdecode] at h
      dsimp only at h ⊢
      rw [Reading.read_of_tooDeep h]

end Bodies

theorem Reading.complaint?_isSome {r : Reading} (h : ∀ fields, r ≠ .value (.obj fields))
    (hroom : ∀ kind, r ≠ .tooDeep kind) : ∃ reason, r.complaint? = some reason := by
  cases r with
  | value m =>
      cases m with
      | obj fields => exact absurd rfl (h fields)
      | _ => exact ⟨_, rfl⟩
  | refused reason => exact ⟨_, rfl⟩
  | overlong d => exact ⟨_, rfl⟩
  | tooDeep kind => exact absurd rfl (hroom kind)

/-! ## Calls in messages -/

/-- A message calls a tool with an object of arguments. -/
structure Calls (m : Json) (tool : Tool) (arguments : Fields) : Prop where
  method : methodOf m = some RpcMethod.toolsCall.name
  name : parameter m "name" = some (.str tool.name)
  arguments : parameter m "arguments" = some (.obj arguments)

theorem Tool.name_isEmpty (tool : Tool) : tool.name.isEmpty = false := by cases tool <;> decide

namespace Calls

variable {message arguments : Fields} {tool : Tool}

/-- What the tool of a call is asked. -/
theorem read (h : Calls (.obj message) tool arguments) :
    ∃ params, Processor.paramsOf message = .ok params ∧
      Processor.callOf params = .ok (tool.name, .obj arguments) := by
  obtain ⟨-, hname, harguments⟩ := h
  rw [parameter, Json.get?] at hname harguments
  cases hparams : message.get? "params" with
  | none =>
      rw [hparams] at hname
      cases hname
  | some v =>
      rw [hparams, Option.bind_some] at hname harguments
      cases v with
      | obj params =>
          rw [Json.get?] at hname harguments
          refine ⟨params, by rw [Processor.paramsOf, hparams], ?_⟩
          rw [Processor.callOf, hname, harguments]
          dsimp only
          rw [tool.name_isEmpty, if_neg Bool.false_ne_true]
      | _ => cases hname

end Calls

namespace Processor

variable {ε : Type} (p : Processor ε)

/-- The method of a call answers what its tool comes to. -/
theorem dispatch_call {message arguments : Fields} {tool : Tool}
    (h : Calls (.obj message) tool arguments) (s : Server ε) :
    (p.dispatch RpcMethod.toolsCall.name message).on s =
      (((p.box.call tool.name (.obj arguments)).on s).1.map fun result => .ok result.toJson,
        ((p.box.call tool.name (.obj arguments)).on s).2) := by
  obtain ⟨params, hparams, hread⟩ := h.read
  rw [p.dispatch_known hparams, perform, hread]
  dsimp only
  rw [Act.on_bind]
  generalize (p.box.call tool.name (.obj arguments)).on s = called
  obtain ⟨res, t⟩ := called
  cases res <;> rfl

section Call

variable {m : Json} {tool : Tool} {arguments : Fields} {s t : Server ε} {result : ToolResult}

/-- The response to a call has the result of the tool, and the tool leaves the state. -/
theorem message_call (h : Calls m tool arguments)
    (hcall : (p.box.call tool.name (.obj arguments)).on s = (.ok result, t)) :
    (p.message m).on s = (.ok ((m.get? "id").map (resultResponse · result.toJson)), t) := by
  cases m with
  | obj message =>
      have hdispatch := p.dispatch_call h s
      rw [hcall] at hdispatch
      rw [p.message_named s h.method, p.run_of_dispatch hdispatch, Json.get?]
      dsimp only [Except.map]
      rw [answerTo]
      cases Fields.get? message "id" <;> rfl
  | _ => cases h.method

theorem payload_call {x : Payload} (hx : x.reading p.room = .value m) (h : Calls m tool arguments)
    (hcall : (p.box.call tool.name (.obj arguments)).on s = (.ok result, t)) :
    (p.payload x).on s = (.ok ((m.get? "id").map (resultResponse · result.toJson)), t) := by
  rw [p.payload_on, hx]
  exact p.message_call h hcall

/-- A message that calls a tool which never ends is never done with. -/
theorem message_hangs (h : Calls m tool arguments)
    (hcall : ((p.box.call tool.name (.obj arguments)).on s).1 = .error .endless) :
    ((p.message m).on s).1 = .error .endless := by
  cases m with
  | obj message =>
      have hdispatch : ((p.dispatch RpcMethod.toolsCall.name message).on s).1 = .error .endless := by
        rw [p.dispatch_call h s, hcall]
        rfl
      rw [p.message_named s h.method, run,
        Act.on_bind_of_error (Act.on_caught_of_endless hdispatch)]
      rfl
  | _ => cases h.method

end Call

end Processor

/-! ## The short ways -/

namespace Service

/-- The paths of the short ways, with the tool that an object of arguments is for.  A variable is
set when there is a value, be it null, and read otherwise. -/
def shortWays : List (String × (Fields → Tool)) :=
  [("/api/compile", fun _ => .compileInk), ("/api/start", fun _ => .startStory),
    ("/api/choose", fun _ => .choose),
    ("/api/variable", fun arguments =>
      if (arguments.get? "value").isSome then .setVariable else .getVariable),
    ("/api/debug/start", fun _ => .startDebug), ("/api/debug/step", fun _ => .debugStep)]

variable {ε : Type} (p : Processor ε)

theorem respond_short {r : HttpRequest} {toolFor : Fields → Tool}
    (hway : (r.path, toolFor) ∈ shortWays) (hpost : r.method = "POST") :
    respond p r = shortcut p toolFor r.body := by
  have hvariable : (fun fields : Fields => if fields.has "value" then Tool.setVariable
      else .getVariable) = fun fields =>
        if (fields.get? "value").isSome then .setVariable else .getVariable := by
    funext fields
    rw [Fields.has_eq]
  -- each of the paths has a route, and the route takes what is posted
  have hroute : ∃ route, Route.ofPath? r.path = some route ∧ route.methods.contains "POST" = true ∧
      answer p r route = shortcut p toolFor r.body := by
    simp only [shortWays, List.mem_cons, List.not_mem_nil, or_false, Prod.mk.injEq] at hway
    obtain ⟨hpath, rfl⟩ | ⟨hpath, rfl⟩ | ⟨hpath, rfl⟩ | ⟨hpath, rfl⟩ | ⟨hpath, rfl⟩ |
      ⟨hpath, rfl⟩ := hway <;> rw [hpath]
    · exact ⟨.shortcut .compileInk, by decide, rfl, rfl⟩
    · exact ⟨.shortcut .startStory, by decide, rfl, rfl⟩
    · exact ⟨.shortcut .choose, by decide, rfl, rfl⟩
    · exact ⟨.storyVariable, by decide, rfl, congrArg (shortcut p · r.body) hvariable⟩
    · exact ⟨.shortcut .startDebug, by decide, rfl, rfl⟩
    · exact ⟨.shortcut .debugStep, by decide, rfl, rfl⟩
  obtain ⟨route, hroute, hmethods, hanswer⟩ := hroute
  rw [respond, hroute]
  dsimp only
  rw [hpost, if_pos hmethods, hanswer]

theorem serve_short {r : HttpRequest} {toolFor : Fields → Tool}
    (hway : (r.path, toolFor) ∈ shortWays) (hpost : r.method = "POST") (h : Hub ε) :
    serve p r h = match (shortcut p toolFor r.body).on h with
      | (.ok response, t) => ((Origin.mark r response, none), t)
      | (.error f, t) => ((.plain 500 "Internal Server Error", some f), t) := by
  have hon : (respond p r).on h = (shortcut p toolFor r.body).on h := by
    rw [respond_short p hway hpost]
  rw [serve, preflight?_post hpost]
  dsimp only
  generalize (shortcut p toolFor r.body).on h = run at hon ⊢
  obtain ⟨answer, t⟩ := run
  cases answer <;> rw [hon]

theorem ofResult_status (r : ToolResult) :
    (ofResult r).status = if r.isError then 400 else 200 := by
  rw [ofResult]
  split <;> rfl

theorem ofResult_body (r : ToolResult) : (ofResult r).body = .text r.text := by
  rw [ofResult]
  split <;> rfl

section Shortcut

variable {toolFor : Fields → Tool} {body : Octets} {h : Hub ε}

/-- On a short way the tool for the object is called, and its result is the answer. -/
theorem shortcut_called {arguments : Fields} {result : ToolResult} {t : Server ε}
    (hobject : objectOf p.room body = .ok (.ok arguments))
    (hcall : (p.box.call (toolFor arguments).name (.obj arguments)).on h.server = (.ok result, t)) :
    (shortcut p toolFor body).on h = (.ok (ofResult result), { h with server := t }) := by
  have hon : (Hub.onServer (p.box.call (toolFor arguments).name (.obj arguments))).on h =
      (.ok result, { h with server := t }) := by
    rw [Hub.onServer, Act.on_within, hcall]
  rw [shortcut, hobject, Act.on_bind_of_ok (Act.on_ofExcept _ h)]
  dsimp only
  rw [callTool, Act.on_bind_of_ok hon, Act.on_pure]

/-- A short way to a tool that never ends is never done with. -/
theorem shortcut_hangs {arguments : Fields} (hobject : objectOf p.room body = .ok (.ok arguments))
    (hcall : ((p.box.call (toolFor arguments).name (.obj arguments)).on h.server).1 =
      .error .endless) : ((shortcut p toolFor body).on h).1 = .error .endless := by
  obtain ⟨t, hon⟩ : ∃ t, (Hub.onServer
      (p.box.call (toolFor arguments).name (.obj arguments))).on h = (.error .endless, t) := by
    rw [Hub.onServer, Act.on_within, hcall]
    exact ⟨_, rfl⟩
  rw [shortcut, hobject, Act.on_bind_of_ok (Act.on_ofExcept _ h)]
  dsimp only
  rw [callTool, Act.on_bind_of_error hon]

theorem complaint_writable (reason : String) : Json.Writable (complaint reason) :=
  Json.writable_carried.obj (by simp) (by simp [Json.writable_carried.str])

theorem complaint_finite (reason : String) : (complaint reason).Finite := by
  rw [complaint, Json.finite_obj]
  exact List.forall_mem_singleton.mpr (.str reason)

/-- The text of a complaint is one by the standard, and it is read as the complaint. -/
theorem complaint_text (reason : String) :
    Json.Standard (Json.text .compact (complaint reason)).toList ∧
      Json.parse (Json.text .compact (complaint reason)) = .ok (complaint reason) := by
  have hfinite := complaint_finite reason
  refine ⟨?_, Json.parse_text Json.compact_readable ⟨by simp, trivial, trivial⟩
    ((complaint_writable reason).defect?_compact.mpr hfinite)⟩
  rw [Json.text, String.toList_ofList]
  exact (Json.standard_chars_iff Json.compact_readable _).mpr hfinite

/-- On a short way a body without an object is refused. -/
theorem shortcut_refused {reason : String} (hobject : objectOf p.room body = .ok (.error reason))
    (toolFor : Fields → Tool) (h : Hub ε) : (shortcut p toolFor body).on h =
      (.ok (.json 400 (Json.text .compact (complaint reason))), h) := by
  rw [shortcut, hobject, Act.on_bind_of_ok (Act.on_ofExcept _ h)]
  dsimp only
  rw [Act.on_ofExcept, value_finite (complaint_writable reason) (complaint_finite reason)]

end Shortcut

end Service

/-! ## Both ways agree -/

open Service in
/-- **A short way is a call of its tool.**  If the body holds an object, the status says whether
the tool failed, the body of the answer is the text in the result that a message with the same
call is answered with, and both leave the same state; if the tool never ends, both ways are never
done with.  Any other body is refused with status 400 and an object that says why, and nothing
changes; but for one that there is no room for, which is a fault. -/
theorem shortcuts_called {ε : Type} (p : Processor ε) {r : HttpRequest} {toolFor : Fields → Tool}
    (hway : (r.path, toolFor) ∈ shortWays) (hpost : r.method = "POST") (h : Hub ε) :
    let reading := (Payload.octets r.body).reading p.room
    (∀ arguments, reading = .value (.obj arguments) →
      (p.box.Hangs (toolFor arguments).name (.obj arguments) h.server ∧
        (∀ m, Calls m (toolFor arguments) arguments →
          ((p.message m).on h.server).1 = .error .endless) ∧
        (serve p r h).1.2 = some .endless) ∨
      ∃ (result : ToolResult) (t : Server ε) (response : HttpResponse),
        (∀ m, Calls m (toolFor arguments) arguments →
          let answered := (Except.ok ((m.get? "id").map (resultResponse · result.toJson)), t)
          (p.message m).on h.server = answered ∧
            ∀ x : Payload, x.reading p.room = .value m → (p.payload x).on h.server = answered) ∧
        serve p r h = ((response, none), { h with server := t }) ∧
        response.body = .text result.text ∧
        response.status = if result.isError then 400 else 200) ∧
    ((∀ arguments, reading ≠ .value (.obj arguments)) →
      (∀ kind, reading ≠ .tooDeep kind) →
      ∃ (reason text : String) (response : HttpResponse),
        reading.complaint? = some reason ∧
        serve p r h = ((response, none), h) ∧ response.status = 400 ∧
        response.body = .text text ∧ Json.Standard text.toList ∧
        Json.parse text = .ok (.obj [("error", .str reason)])) ∧
    ∀ kind, reading = .tooDeep kind →
      serve p r h = ((.plain 500 "Internal Server Error", some (.tooDeep kind)), h) := by
  intro reading
  rw [serve_short p hway hpost h]
  refine ⟨fun arguments hread => ?_, fun hread hroom => ?_, fun kind hread => ?_⟩
  · have hobject := objectOf_of_reading hread
    obtain ⟨hhangs, hcall⟩ | ⟨-, result, t, hcall, -⟩ :=
      p.box.call_result (toolFor arguments).name (.obj arguments) h.server
    · refine .inl ⟨hhangs, fun m hm => p.message_hangs hm hcall, ?_⟩
      have hshort := shortcut_hangs p hobject hcall
      generalize (shortcut p toolFor r.body).on h = run at hshort
      obtain ⟨res, u⟩ := run
      cases hshort
      rfl
    · rw [shortcut_called p hobject hcall]
      exact .inr ⟨result, t, _,
        fun m hm => ⟨p.message_call hm hcall, fun x hx => p.payload_call hx hm hcall⟩,
        rfl, (body_mark _ _).trans (ofResult_body result),
        (status_mark _ _).trans (ofResult_status result)⟩
  · obtain ⟨reason, hreason⟩ := Reading.complaint?_isSome hread hroom
    rw [shortcut_refused p (objectOf_of_complaint hreason) toolFor h]
    exact ⟨reason, _, _, hreason, rfl, status_mark _ _, body_mark _ _, complaint_text reason⟩
  · rw [shortcut, objectOf_of_tooDeep hread, Act.on_bind_of_error (Act.on_ofExcept _ h)]

open Service in
/-- A value that is null sets a variable, as a message does; a list is refused. -/
theorem shortcuts_called_null :
    let p : Processor Ink.Shelf := { box := Ink.toolbox false none none }
    let story : Json := .obj [("session_id", .str "a"), ("source", .str "VAR x = 1")]
    let s := ((p.box.call "start_story" story).on Ink.idle).2
    let h : Hub Ink.Shelf := { server := s, ids := s.ids }
    let body := "\x7b\"session_id\": \"a\", \"name\": \"x\", \"value\": null\x7d"
    let line := "\x7b\"id\": 1, \"method\": \"tools/call\", \"params\": " ++
      "\x7b\"name\": \"set_variable\", \"arguments\": " ++ body ++ "\x7d\x7d"
    let request (body : String) : HttpRequest :=
      { method := "POST", host := "", path := "/api/variable", body := body.toUTF8.toList }
    let arguments : Fields := [("session_id", .str "a"), ("name", .str "x"), ("value", .null)]
    (Payload.octets (request body).body).reading p.room = .value (.obj arguments) ∧
    (Payload.octets (request "[]").body).reading p.room = .value (.arr []) ∧
    (∃ (result : ToolResult) (t : Server Ink.Shelf),
      (p.payload (.text line)).on h.server =
        (.ok (some (resultResponse (.int 1) result.toJson)), t) ∧
      (serve p (request body) h).2.server = t ∧
      (serve p (request body) h).1.1.body = .text result.text ∧
      (serve p (request body) h).1.1.status = 200) ∧
    (serve p (request "[]") h).2 = h ∧ (serve p (request "[]") h).1.1.status = 400 := by
  intro p story s h body line request arguments
  let m : Json := .obj [("id", .int 1), ("method", .str "tools/call"),
    ("params", .obj [("name", .str "set_variable"), ("arguments", .obj arguments)])]
  let toolFor (arguments : Fields) : Tool :=
    if (arguments.get? "value").isSome then .setVariable else .getVariable
  have hbody : (Payload.octets (request body).body).reading p.room = .value (.obj arguments) := by
    decide +kernel
  have hlist : (Payload.octets (request "[]").body).reading p.room = .value (.arr []) := by
    decide +kernel
  have hline : (Payload.text line).reading p.room = .value m := by decide +kernel
  have hway (body : String) : ((request body).path, toolFor) ∈ shortWays := by
    simp [shortWays, request, toolFor]
  have hcalls : Calls m (toolFor arguments) arguments := ⟨by decide, by decide, by decide⟩
  obtain ⟨hset, -⟩ := shortcuts_called p (r := request body) (hway body) rfl h
  have hends : (serve p (request body) h).1.2 = none := by decide +kernel
  obtain ⟨-, -, hhangs⟩ | ⟨result, t, response, hanswered, hserve, htext, -⟩ := hset arguments hbody
  · cases hends.symm.trans hhangs
  obtain ⟨-, hrefused, -⟩ := shortcuts_called p (r := request "[]") (hway "[]") rfl h
  obtain ⟨-, -, refusal, -, hrefusal, h400, -⟩ :=
    hrefused (fun o ho => by rw [hlist] at ho; cases ho) (fun k hk => by rw [hlist] at hk; cases hk)
  have hstatus : (serve p (request body) h).1.1.status = 200 := by decide +kernel
  have hreply := (hanswered m hcalls).2 _ hline
  -- the runs are not to be evaluated any more
  clear_value h s
  have hkept := congrArg Prod.snd hrefusal
  refine ⟨hbody, hlist, ⟨result, t, hreply, ?_, ?_, hstatus⟩, hkept, ?_⟩
  · exact congrArg (fun run => run.2.server) hserve
  · exact (congrArg (fun run => run.1.1.body) hserve).trans htext
  · exact (congrArg (fun run => run.1.1.status) hrefusal).trans h400

end StoryServer
