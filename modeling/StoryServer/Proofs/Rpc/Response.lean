import StoryServer.Proofs.Json.Refusal
import StoryServer.Rpc.Processor

/-!
# The response to a message

`Processor.message` takes any JSON value, and no fault comes out of it.  `Answers` says what does:
whether there is a response at all, what every response has, and which values get which error.
Only a message that calls a tool which never ends is never done with (`Unending`).

*Calls.*  A call of a tool that ends gives a result whatever happens in the tool; the result is
marked as an error when there is no such tool or the tool fails (`Toolbox.call_result`).

*Methods.*  `Course` lists the ways in which a named method goes to its end, in the order of the
checks.  Each error code belongs to some of the ways, so that what is known of a message under a
code is read off the ways (`Course.unknown_iff` and its siblings).

*Names of clients.*  A client that introduces itself is named in the log.  Not every value can be
shown there, but a value that was read can (`nameUnshown_of_read`).

*Ids.*  The id of a message is looked at only after the method has run, so that it has no
bearing on what the message does (`message_withId`, `message_withoutId`).
-/

namespace StoryServer

/-! ## Parts of a message -/

/-- The method that a message names. -/
def methodOf (m : Json) : Option String :=
  match m.get? "method" with
  | some (.str method) => some method
  | _ => none

/-- A parameter of a message. -/
def parameter (m : Json) (key : String) : Option Json := (m.get? "params").bind (·.get? key)

/-- Whether a value is left out, null or an object. -/
def objectOrNone : Option Json → Bool
  | none | some .null | some (.obj _) => true
  | some _ => false

/-- Whether a value names a tool. -/
def namesTool : Option Json → Bool
  | some (.str name) => !name.isEmpty
  | _ => false

/-- Whether a value counts as true and is no object. -/
def trueNoObject : Option Json → Bool
  | none | some (.obj _) => false
  | some v => v.truthy

/-- The message with an id. -/
def withId (id : Json) : Json → Json
  | .obj fields => .obj (Fields.put fields "id" id)
  | m => m

/-- The message without an id. -/
def withoutId : Json → Json
  | .obj fields => .obj (fields.filter fun p => p.1 != "id")
  | m => m

theorem Fields.has_eq (fields : Fields) (key : String) :
    fields.has key = (fields.get? key).isSome := by
  rw [Fields.has, Fields.get?, Option.isSome_map, List.isSome_find?]

theorem Fields.get?_without {fields : Fields} {key other : String} (h : key ≠ other) :
    Fields.get? (fields.filter fun p => p.1 != other) key = fields.get? key := by
  induction fields with
  | nil => rfl
  | cons p rest ih =>
      by_cases hp : p.1 = other
      · have hk : p.1 ≠ key := fun e => h (e ▸ hp)
        simpa [Fields.get?, hp, hk, Ne.symm h] using ih
      · by_cases hk : p.1 = key
        · simp [Fields.get?, hk, h]
        · simpa [Fields.get?, hp, hk] using ih

/-! ## Methods -/

namespace RpcMethod

/-- The name of a method. -/
def name : RpcMethod → String
  | .introduction => "initialize"
  | .toolsList => "tools/list"
  | .toolsCall => "tools/call"
  | .ping => "ping"

end RpcMethod

/-- The methods that are answered, by name. -/
def answered : List String := ["initialize", "tools/list", "tools/call", "ping"]

namespace RpcMethod

theorem ofName?_eq_some {method : String} {k : RpcMethod} :
    ofName? method = some k ↔ method = k.name := by
  constructor
  · intro h
    unfold ofName? at h
    split at h <;> cases h <;> rfl
  · rintro rfl
    cases k <;> rfl

theorem name_answered (k : RpcMethod) : k.name ∈ answered := by cases k <;> decide

theorem answered_iff {method : String} : method ∈ answered ↔ ∃ k : RpcMethod, method = k.name := by
  constructor
  · intro h
    simp only [answered, List.mem_cons, List.not_mem_nil, or_false] at h
    obtain rfl | rfl | rfl | rfl := h
    · exact ⟨.introduction, rfl⟩
    · exact ⟨.toolsList, rfl⟩
    · exact ⟨.toolsCall, rfl⟩
    · exact ⟨.ping, rfl⟩
  · rintro ⟨k, rfl⟩
    exact name_answered k

theorem ofName?_eq_none {method : String} : ofName? method = none ↔ method ∉ answered := by
  rw [answered_iff, ← Option.not_isSome_iff_eq_none, Option.isSome_iff_exists]
  simp only [ofName?_eq_some]

theorem isNotice_name (k : RpcMethod) : isNotice k.name = false := by cases k <;> decide

theorem not_answered_of_notice {method : String} (h : isNotice method = true) :
    method ∉ answered := by
  intro hm
  obtain ⟨k, rfl⟩ := answered_iff.mp hm
  exact Bool.false_ne_true (k.isNotice_name ▸ h)

theorem ne_name {method : String} (h : method ∉ answered) (k : RpcMethod) : method ≠ k.name :=
  fun e => h (e ▸ k.name_answered)

end RpcMethod

/-! ## Parts of a response -/

/-- The code of the error in a response. -/
def errorCode (response : Option Json) : Option Json :=
  response.bind fun v => (v.get? "error").bind (·.get? "code")

/-- The result in a response. -/
def resultIn (response : Option Json) : Option Json := response.bind (·.get? "result")

/-- The response with what a method answered. -/
def respond (id : Json) : Except RpcError Json → Json
  | .ok result => resultResponse id result
  | .error e => errorResponse id e

theorem respond_version (id : Json) (r : Except RpcError Json) :
    (respond id r).get? "jsonrpc" = some (.str "2.0") := by
  cases r <;> rfl

theorem respond_id (id : Json) (r : Except RpcError Json) : (respond id r).get? "id" = some id := by
  cases r <;> rfl

theorem respond_parts (id : Json) (r : Except RpcError Json) :
    ((respond id r).get? "result").isSome = !((respond id r).get? "error").isSome := by
  cases r <;> rfl

/-- The code of what a method answered, if that is an error. -/
def codeOf : Except RpcError Json → Option Int
  | .ok _ => none
  | .error e => some e.code

theorem errorCode_respond (id : Json) (r : Except RpcError Json) :
    errorCode (some (respond id r)) = (codeOf r).map .int := by
  cases r <;> rfl

/-! ## Calls of tools -/

namespace Toolbox

variable {ε : Type} (box : Toolbox ε)

/-- A call fails: there is no such tool, or the tool fails. -/
def Fails (name : String) (arguments : Json) (s : Server ε) : Prop :=
  ∀ tool, box.find? name = some tool → ∃ f, ((box.perform tool arguments).on s).1 = .error f

/-- A call goes to a tool that never ends. -/
def Hangs (name : String) (arguments : Json) (s : Server ε) : Prop :=
  ∃ tool, box.find? name = some tool ∧ ((box.perform tool arguments).on s).1 = .error .endless

theorem Hangs.congr {box : Toolbox ε} {name : String} {arguments other : Json} {s : Server ε}
    (h : box.Hangs name arguments s) (hsame : argumentsOf arguments = argumentsOf other) :
    box.Hangs name other s := by
  obtain ⟨tool, htool, hends⟩ := h
  refine ⟨tool, htool, ?_⟩
  rwa [perform, ← hsame]

/-- A call never ends, as its tool does not, or it gives a result. -/
theorem call_result (name : String) (arguments : Json) (s : Server ε) :
    (box.Hangs name arguments s ∧ ((box.call name arguments).on s).1 = .error .endless) ∨
    (¬box.Hangs name arguments s ∧ ∃ r t, (box.call name arguments).on s = (.ok r, t) ∧
      (r.isError = true ↔ box.Fails name arguments s)) := by
  cases hfind : box.find? name with
  | none =>
      rw [box.call_unknown hfind]
      exact .inr ⟨by simp [Hangs, hfind], _, _, rfl, by simp [Fails, hfind]⟩
  | some tool =>
      obtain ⟨log, hcall⟩ := box.call_known hfind s
      rw [hcall]
      by_cases hends : ((box.perform tool arguments).on s).1 = .error .endless
      · exact .inl ⟨⟨tool, hfind, hends⟩, ToolResult.made_eq_endless.mpr hends⟩
      · obtain ⟨r, hr, herror⟩ := ToolResult.made_of_ends hends
        rw [hr]
        exact .inr ⟨by simpa [Hangs, hfind] using hends, r, _, rfl,
          herror.trans (by simp [Fails, hfind])⟩

end Toolbox

/-! ## Parameters -/

namespace Processor

variable {ε : Type}

section Parameters

variable {message params : Fields} {e : RpcError}

theorem get?_params (h : paramsOf message = .ok params) (key : String) :
    params.get? key = parameter (.obj message) key := by
  unfold paramsOf at h
  rw [parameter, Json.get?]
  split at h <;> cases h <;> rename_i hp <;> rw [hp] <;> rfl

theorem paramsOf_ok (h : paramsOf message = .ok params) :
    objectOrNone (message.get? "params") = true := by
  unfold paramsOf at h
  split at h <;> cases h <;> rename_i hp <;> rw [hp] <;> rfl

theorem parameter_of_none (h : objectOrNone (message.get? "params") = false) (key : String) :
    parameter (.obj message) key = none := by
  rw [parameter, Json.get?]
  cases hp : message.get? "params" with
  | none => rfl
  | some v =>
      cases v with
      | obj fields => rw [hp] at h; cases h
      | _ => rfl

theorem paramsOf_error (h : paramsOf message = .error e) :
    e.code = -32602 ∧ objectOrNone (message.get? "params") = false := by
  unfold paramsOf at h
  split at h <;> cases h
  rename_i v hnull hobj hp
  rw [hp]
  exact ⟨rfl, objectOrNone.eq_4 v hnull hobj⟩

theorem callOf_ok {name : String} {arguments : Json} (h : callOf params = .ok (name, arguments)) :
    params.get? "name" = some (.str name) ∧ name ≠ "" ∧
      objectOrNone (params.get? "arguments") = true ∧
      Toolbox.argumentsOf arguments =
        Toolbox.argumentsOf ((params.get? "arguments").getD .null) := by
  unfold callOf at h
  split at h
  · rename_i given hname
    split at h
    · cases h
    · rename_i hempty
      have hne : given ≠ "" := by simpa using hempty
      split at h <;> cases h <;> rename_i harg <;> rw [harg] <;> exact ⟨hname, hne, rfl, rfl⟩
  · cases h

theorem callOf_error (h : callOf params = .error e) : e.code = -32602 ∧
    (namesTool (params.get? "name") && objectOrNone (params.get? "arguments")) = false := by
  unfold callOf at h
  split at h
  · rename_i name hname
    rw [hname, namesTool]
    split at h
    · cases h
      simp_all [RpcError.code]
    · split at h <;> cases h
      rename_i v hnull hobj harg
      rw [harg, objectOrNone.eq_4 v hnull hobj]
      exact ⟨rfl, Bool.and_false _⟩
  · rename_i hname
    cases h
    refine ⟨rfl, ?_⟩
    rw [namesTool.eq_2 _ hname, Bool.false_and]

theorem members_client :
    (∃ f, (orElse (params.get? "clientInfo") (.obj [])).members = .error f) ↔
      trueNoObject (params.get? "clientInfo") = true := by
  cases params.get? "clientInfo" with
  | none => simp [orElse, trueNoObject, Json.members]
  | some v =>
      cases hv : v.truthy <;> cases v <;> simp_all [orElse, trueNoObject, Json.members, Json.truthy]

theorem members_ends {v : Json} {f : Fault} (h : v.members = .error f) : f ≠ .endless := by
  rintro rfl
  cases v <;> cases h

/-- The name of a client is in the way only if one is given. -/
theorem obstacle?_clientName (room : Nat) {client : Fields}
    (h : (orElse (params.get? "clientInfo") (.obj [])).members = .ok client) :
    ((clientName client).obstacle? room).isSome =
      ((params.get? "clientInfo").bind (·.get? "name")).any
        fun v => (v.obstacle? room).isSome := by
  have hgiven : Fields.get? client "name" = (params.get? "clientInfo").bind (·.get? "name") := by
    cases hinfo : params.get? "clientInfo" with
    | none =>
        rw [hinfo] at h
        cases h
        rfl
    | some v =>
        rw [hinfo, orElse] at h
        cases htruthy : v.truthy with
        | true =>
            rw [htruthy, if_pos rfl] at h
            cases v with
            | obj fields =>
                cases h
                rfl
            | _ => cases h
        | false =>
            rw [htruthy, if_neg Bool.false_ne_true] at h
            cases h
            cases v with
            | obj fields =>
                obtain rfl : fields = [] := by simpa [Json.truthy] using htruthy
                rfl
            | _ => rfl
  rw [clientName, ← hgiven]
  cases Fields.get? client "name" <;> simp [Json.obstacle?]

end Parameters

/-! ## Names in the log -/

section Names

variable {p : Processor ε} {v : Json}

theorem display_of_shown (h : v.obstacle? p.room = none) : p.display v = .ok v.shown := by
  rw [display, h]

theorem display_of_obstacle {o : Json.Obstacle} (h : v.obstacle? p.room = some o) :
    ∃ f, p.display v = .error f ∧ f ≠ .endless := by
  rw [display, h]
  cases o <;> exact ⟨_, rfl, by simp⟩

end Names

/-! ## How a method goes -/

/-- What a client that introduces itself is told. -/
def introduction (p : Processor ε) : Json :=
  .obj [("protocolVersion", .str protocolVersion),
    ("capabilities", .obj [("tools", .obj [("listChanged", .bool false)])]),
    ("serverInfo", .obj [("name", .str p.identity.name), ("version", .str p.identity.version)])]

/-- The tools on offer, as a client is told of them. -/
def listing (p : Processor ε) : Json :=
  .obj [("tools", .arr (p.box.tools.map fun t => t.card.toJson))]

/-- A client is named by a value that cannot be shown. -/
def nameUnshown (p : Processor ε) (m : Json) : Bool :=
  ((parameter m "clientInfo").bind (·.get? "name")).any fun v => (v.obstacle? p.room).isSome

/-- A message calls a tool that never ends. -/
structure Unending (p : Processor ε) (m : Json) (s : Server ε) : Prop where
  method : methodOf m = some "tools/call"
  hangs : ∃ name, parameter m "name" = some (.str name) ∧ name ≠ "" ∧
    objectOrNone (parameter m "arguments") = true ∧
    p.box.Hangs name ((parameter m "arguments").getD .null) s

/-- The ways in which a named method goes to its end, with what it answers. -/
inductive Course (p : Processor ε) (s : Server ε) (method : String) (message : Fields) :
    Except RpcError Json → Prop
  | notice (hm : isNotice method = true) : Course p s method message (.ok (.obj []))
  | unknown (hn : isNotice method = false) (hm : method ∉ answered) :
      Course p s method message (.error (.unknownMethod method))
  | badParams {k : RpcMethod} {e : RpcError} (hm : method = k.name)
      (hp : paramsOf message = .error e) : Course p s method message (.error e)
  | badClient {params : Fields} {f : Fault} (hm : method = RpcMethod.introduction.name)
      (hp : paramsOf message = .ok params)
      (hc : trueNoObject (params.get? "clientInfo") = true) :
      Course p s method message (.error (.internal f))
  | unshown {params : Fields} {f : Fault} (hm : method = RpcMethod.introduction.name)
      (hp : paramsOf message = .ok params) (hn : p.nameUnshown (.obj message) = true) :
      Course p s method message (.error (.internal f))
  | introduced {params : Fields} (hm : method = RpcMethod.introduction.name)
      (hp : paramsOf message = .ok params)
      (hc : trueNoObject (params.get? "clientInfo") = false)
      (hn : p.nameUnshown (.obj message) = false) :
      Course p s method message (.ok p.introduction)
  | listed {params : Fields} (hm : method = RpcMethod.toolsList.name)
      (hp : paramsOf message = .ok params) : Course p s method message (.ok p.listing)
  | badCall {params : Fields} {e : RpcError} (hm : method = RpcMethod.toolsCall.name)
      (hp : paramsOf message = .ok params) (hc : callOf params = .error e) :
      Course p s method message (.error e)
  | called {params : Fields} {name : String} {arguments : Json} {r : ToolResult}
      (hm : method = RpcMethod.toolsCall.name) (hp : paramsOf message = .ok params)
      (hc : callOf params = .ok (name, arguments)) (hends : ¬p.box.Hangs name arguments s)
      (hr : r.isError = true ↔ p.box.Fails name arguments s) :
      Course p s method message (.ok r.toJson)
  | pinged {params : Fields} (hm : method = RpcMethod.ping.name)
      (hp : paramsOf message = .ok params) : Course p s method message (.ok (.obj []))

variable (p : Processor ε) {s : Server ε} {method : String} {message params : Fields}

/-- A method without a fault answers what its dispatch answers. -/
theorem run_of_dispatch {r : Except RpcError Json} {t : Server ε}
    (h : (p.dispatch method message).on s = (.ok r, t)) :
    (p.run method message).on s = (.ok r, t) := by
  have hcaught : (Act.caught (p.dispatch method message)).on s = (.ok (.ok r), t) := by
    rw [Act.on_caught, h]
  exact Act.on_bind_of_ok hcaught

/-- A method with a fault answers with the fault. -/
theorem run_of_fault {f : Fault} {t : Server ε}
    (h : (p.dispatch method message).on s = (.error f, t)) (hf : f ≠ .endless) :
    ∃ u, (p.run method message).on s = (.ok (.error (.internal f)), u) := by
  have hcaught : (Act.caught (p.dispatch method message)).on s = (.ok (.error f), t) := by
    rw [Act.on_caught_of_ends, h]
    rw [h]
    simpa using hf
  exact ⟨_, Act.on_bind_of_ok hcaught⟩

theorem dispatch_known {k : RpcMethod} (hp : paramsOf message = .ok params) :
    p.dispatch k.name message = p.perform params k := by
  rw [dispatch, RpcMethod.isNotice_name, if_neg Bool.false_ne_true,
    RpcMethod.ofName?_eq_some.mpr rfl, hp]

theorem run_introduction (hp : paramsOf message = .ok params) :
    ∃ r t, (p.run RpcMethod.introduction.name message).on s = (.ok r, t) ∧
      p.Course s RpcMethod.introduction.name message r := by
  cases hc : (orElse (params.get? "clientInfo") (.obj [])).members with
  | error f =>
      have hdispatch : (p.dispatch RpcMethod.introduction.name message).on s = (.error f, s) := by
        rw [dispatch_known p hp, perform, introduce, hc]
        rfl
      obtain ⟨t, hrun⟩ := run_of_fault p hdispatch (members_ends hc)
      exact ⟨_, t, hrun, .badClient rfl hp (members_client.mp ⟨f, hc⟩)⟩
  | ok client =>
      have hfine : trueNoObject (params.get? "clientInfo") = false :=
        Bool.not_eq_true _ ▸ fun h => by simpa [hc] using members_client.mpr h
      have hshown : ((clientName client).obstacle? p.room).isSome =
          p.nameUnshown (.obj message) := by
        rw [nameUnshown, ← get?_params hp]
        exact obstacle?_clientName p.room hc
      cases hobstacle : (clientName client).obstacle? p.room with
      | none =>
          have hname := display_of_shown hobstacle
          rw [hobstacle] at hshown
          have hdispatch : (p.dispatch RpcMethod.introduction.name message).on s =
              (.ok (.ok p.introduction),
                s.noting s!"[inky] initialize from {(clientName client).shown}") := by
            rw [dispatch_known p hp, perform, introduce, hc]
            simp only [Act.on_bind, Act.on_ofExcept, hname]
            rfl
          exact ⟨_, _, run_of_dispatch p hdispatch, .introduced rfl hp hfine hshown.symm⟩
      | some o =>
          obtain ⟨f, hname, hf⟩ := display_of_obstacle hobstacle
          rw [hobstacle] at hshown
          have hdispatch : (p.dispatch RpcMethod.introduction.name message).on s = (.error f, s) := by
            rw [dispatch_known p hp, perform, introduce, hc]
            simp only [Act.on_bind, Act.on_ofExcept, hname]
          obtain ⟨t, hrun⟩ := run_of_fault p hdispatch hf
          exact ⟨_, t, hrun, .unshown rfl hp hshown.symm⟩

/-- A call never ends, as its tool does not, or it goes in one of the ways. -/
theorem run_call (hp : paramsOf message = .ok params) :
    (((p.run RpcMethod.toolsCall.name message).on s).1 = .error .endless ∧
      ∃ name arguments, callOf params = .ok (name, arguments) ∧ p.box.Hangs name arguments s) ∨
    ∃ r t, (p.run RpcMethod.toolsCall.name message).on s = (.ok r, t) ∧
      p.Course s RpcMethod.toolsCall.name message r := by
  cases hc : callOf params with
  | error e =>
      exact .inr ⟨_, _, run_of_dispatch p (by rw [dispatch_known p hp, perform, hc]; rfl),
        .badCall rfl hp hc⟩
  | ok call =>
      obtain ⟨name, arguments⟩ := call
      obtain ⟨hhangs, hcall⟩ | ⟨hends, r, t, hcall, hr⟩ := p.box.call_result name arguments s
      · refine .inl ⟨?_, name, arguments, rfl, hhangs⟩
        have hdispatch : ((p.dispatch RpcMethod.toolsCall.name message).on s).1 =
            .error .endless := by
          rw [dispatch_known p hp, perform, hc]
          exact congrArg Prod.fst (Act.on_bind_of_error (Prod.ext hcall rfl))
        rw [run, Act.on_bind_of_error (Act.on_caught_of_endless hdispatch)]
      · refine .inr ⟨_, t, run_of_dispatch p ?_, .called rfl hp hc hends hr⟩
        rw [dispatch_known p hp, perform, hc]
        exact (Act.on_bind_of_ok hcall).trans rfl

/-- Every method goes in one of the ways, but for calls of tools that never end.  No other fault
comes out. -/
theorem run_course (s : Server ε) {method : String} {message : Fields}
    (hm : methodOf (.obj message) = some method) :
    (((p.run method message).on s).1 = .error .endless ∧ p.Unending (.obj message) s) ∨
    ∃ r t, (p.run method message).on s = (.ok r, t) ∧ p.Course s method message r := by
  cases hn : isNotice method with
  | true =>
      exact .inr ⟨_, _, run_of_dispatch p (by rw [dispatch, if_pos hn]; rfl), .notice hn⟩
  | false =>
      by_cases hknown : method ∈ answered
      · obtain ⟨k, rfl⟩ := RpcMethod.answered_iff.mp hknown
        cases hp : paramsOf message with
        | error e =>
            refine .inr ⟨_, s, run_of_dispatch p ?_, .badParams rfl hp⟩
            rw [dispatch, hn, if_neg Bool.false_ne_true, RpcMethod.ofName?_eq_some.mpr rfl, hp]
            rfl
        | ok params =>
            cases k with
            | introduction => exact .inr (run_introduction p hp)
            | toolsList =>
                exact .inr ⟨_, _, run_of_dispatch p (by rw [dispatch_known p hp]; rfl),
                  .listed rfl hp⟩
            | toolsCall =>
                refine (run_call p hp).imp_left fun ⟨hrun, name, arguments, hc, hhangs⟩ =>
                  ⟨hrun, hm, ?_⟩
                obtain ⟨hname, hne, harg, hsame⟩ := callOf_ok hc
                rw [get?_params hp] at hname harg hsame
                exact ⟨name, hname, hne, harg, hhangs.congr hsame⟩
            | ping =>
                exact .inr ⟨_, _, run_of_dispatch p (by rw [dispatch_known p hp]; rfl),
                  .pinged rfl hp⟩
      · refine .inr ⟨_, s, run_of_dispatch p ?_, .unknown hn hknown⟩
        rw [dispatch, hn, if_neg Bool.false_ne_true, RpcMethod.ofName?_eq_none.mpr hknown]
        rfl

/-! ## Codes

Which of the ways lead to a code.  The names of the methods tell the ways of different methods
apart, and the parameters those of one method. -/

namespace Course

variable {p} {r : Except RpcError Json}

theorem unknown_iff (h : p.Course s method message r) :
    codeOf r = some (-32601) ↔ isNotice method = false ∧ method ∉ answered := by
  cases h with
  | notice hm => simp [codeOf, hm]
  | unknown hn hm => simp [codeOf, RpcError.code, hn, hm]
  | badParams hm hp =>
      subst hm
      simp [codeOf, (paramsOf_error hp).1, RpcMethod.name_answered]
  | badCall hm hp hc =>
      subst hm
      simp [codeOf, (callOf_error hc).1, RpcMethod.name_answered]
  | badClient hm | unshown hm | introduced hm | listed hm | called hm | pinged hm =>
      subst hm
      simp [codeOf, RpcError.code, RpcMethod.name_answered]

theorem params_iff (h : p.Course s method message r) :
    codeOf r = some (-32602) ↔
      (method ∈ answered ∧ objectOrNone (message.get? "params") = false) ∨
      (method = "tools/call" ∧
        (namesTool (parameter (.obj message) "name") &&
          objectOrNone (parameter (.obj message) "arguments")) = false) := by
  cases h with
  | notice hm =>
      have hout := RpcMethod.not_answered_of_notice hm
      have hne : method ≠ "tools/call" := RpcMethod.ne_name hout .toolsCall
      simp [codeOf, hout, hne]
  | unknown hn hm =>
      have hne : method ≠ "tools/call" := RpcMethod.ne_name hm .toolsCall
      simp [codeOf, RpcError.code, hm, hne]
  | badParams hm hp =>
      subst hm
      simp [codeOf, paramsOf_error hp, RpcMethod.name_answered]
  | badCall hm hp hc =>
      have hcall := callOf_error hc
      rw [get?_params hp, get?_params hp] at hcall
      simp only [codeOf, hcall.1, hcall.2, hm, RpcMethod.name, and_self, or_true]
  | called hm hp hc =>
      obtain ⟨hname, hne, harg, -⟩ := callOf_ok hc
      rw [get?_params hp] at hname harg
      simp [codeOf, paramsOf_ok hp, hname, harg, namesTool, hne]
  | badClient hm hp | unshown hm hp | introduced hm hp | listed hm hp | pinged hm hp =>
      subst hm
      simp [codeOf, RpcError.code, paramsOf_ok hp, RpcMethod.name]

theorem internal_iff (h : p.Course s method message r) :
    codeOf r = some (-32603) ↔
      method = "initialize" ∧ (trueNoObject (parameter (.obj message) "clientInfo") ||
        p.nameUnshown (.obj message)) = true := by
  cases h with
  | notice hm =>
      have hne : method ≠ "initialize" :=
        RpcMethod.ne_name (RpcMethod.not_answered_of_notice hm) .introduction
      simp [codeOf, hne]
  | unknown hn hm =>
      have hne : method ≠ "initialize" := RpcMethod.ne_name hm .introduction
      simp [codeOf, RpcError.code, hne]
  | badParams hm hp =>
      simp [codeOf, paramsOf_error hp, parameter_of_none (paramsOf_error hp).2, trueNoObject,
        nameUnshown]
  | badClient hm hp hc =>
      rw [get?_params hp] at hc
      simp [codeOf, RpcError.code, hm, hc, RpcMethod.name]
  | unshown hm hp hn => simp [codeOf, RpcError.code, hm, hn, RpcMethod.name]
  | introduced hm hp hc hn =>
      rw [get?_params hp] at hc
      simp [codeOf, hc, hn]
  | badCall hm hp hc =>
      subst hm
      simp [codeOf, callOf_error hc, RpcMethod.name]
  | listed hm | called hm | pinged hm =>
      subst hm
      simp [codeOf, RpcMethod.name]

theorem codes (h : p.Course s method message r) {c : Int} (hc : codeOf r = some c) :
    c = -32601 ∨ c = -32602 ∨ c = -32603 := by
  cases h with
  | unknown => cases hc; exact .inl rfl
  | badParams hm hp => cases hc; exact .inr (.inl (paramsOf_error hp).1)
  | badCall hm hp hcall => cases hc; exact .inr (.inl (callOf_error hcall).1)
  | badClient | unshown => cases hc; exact .inr (.inr rfl)
  | notice | introduced | listed | called | pinged => cases hc

/-- A call that names a tool, with arguments of the right kind, goes to the tool. -/
theorem call (h : p.Course s "tools/call" message r) {name : String}
    (hname : parameter (.obj message) "name" = some (.str name)) (hne : name ≠ "")
    (harg : objectOrNone (parameter (.obj message) "arguments") = true) :
    ¬p.box.Hangs name ((parameter (.obj message) "arguments").getD .null) s ∧
    ∃ result : ToolResult, r = .ok result.toJson ∧
      (result.isError = true ↔
        p.box.Fails name ((parameter (.obj message) "arguments").getD .null) s) := by
  cases h with
  | notice hm => exact absurd hm (by decide)
  | unknown hn hm => exact absurd (RpcMethod.name_answered .toolsCall) hm
  | badParams hm hp => cases (parameter_of_none (paramsOf_error hp).2 "name").symm.trans hname
  | badClient hm | unshown hm | introduced hm | listed hm | pinged hm =>
      exact absurd hm (by decide)
  | badCall hm hp hc =>
      have hcall := (callOf_error hc).2
      rw [get?_params hp, get?_params hp, hname, harg] at hcall
      simp [namesTool, hne] at hcall
  | called hm hp hc hends hr =>
      obtain ⟨hgiven, -, -, hsame⟩ := callOf_ok hc
      rw [get?_params hp, hname] at hgiven
      cases hgiven
      rw [get?_params hp] at hsame
      refine ⟨mt (Toolbox.Hangs.congr · hsame.symm) hends, _, rfl, hr.trans ?_⟩
      simp only [Toolbox.Fails, Toolbox.perform, hsame]

end Course

/-! ## Every message -/

/-- What comes out of a message in a state. -/
structure Answers (p : Processor ε) (m : Json) (s : Server ε) (response : Option Json) :
    Prop where
  /-- A message with a method and without an id is not answered, and every other one is. -/
  silent : response = none ↔ (methodOf m).isSome = true ∧ m.get? "id" = none
  version : ∀ v ∈ response, v.get? "jsonrpc" = some (.str "2.0")
  /-- The id is that of the message. -/
  id : ∀ v ∈ response, v.get? "id" = some ((m.get? "id").getD .null)
  /-- There is a result or an error, and not both. -/
  parts : ∀ v ∈ response, (v.get? "result").isSome = !(v.get? "error").isSome
  invalid : errorCode response = some (.int (-32600)) ↔ methodOf m = none
  unknown : errorCode response = some (.int (-32601)) ↔
    (m.get? "id").isSome = true ∧
      ∃ method, methodOf m = some method ∧ isNotice method = false ∧ method ∉ answered
  params : errorCode response = some (.int (-32602)) ↔
    (m.get? "id").isSome = true ∧
      ((∃ method, methodOf m = some method ∧ method ∈ answered ∧
          objectOrNone (m.get? "params") = false) ∨
       (methodOf m = some "tools/call" ∧
        (namesTool (parameter m "name") && objectOrNone (parameter m "arguments")) = false))
  /-- What a client says of itself counts as true and is no object, or the name in it cannot be
  shown. -/
  internal : errorCode response = some (.int (-32603)) ↔
    (m.get? "id").isSome = true ∧ methodOf m = some "initialize" ∧
      (trueNoObject (parameter m "clientInfo") || p.nameUnshown m) = true
  codes : ∀ c, errorCode response = some c →
    c = .int (-32600) ∨ c = .int (-32601) ∨ c = .int (-32602) ∨ c = .int (-32603)
  /-- A call that reaches its tool has a result, which says whether the tool failed. -/
  calls : ∀ name, (m.get? "id").isSome = true → methodOf m = some "tools/call" →
    parameter m "name" = some (.str name) → name ≠ "" →
    objectOrNone (parameter m "arguments") = true →
      ∃ r : ToolResult, resultIn response = some r.toJson ∧
        (r.isError = true ↔ p.box.Fails name ((parameter m "arguments").getD .null) s)

/-- A message that names no method is refused. -/
theorem message_refused {m : Json} (s : Server ε) (hm : methodOf m = none) :
    ∃ e : RpcError, e.code = -32600 ∧
      (p.message m).on s = (.ok (some (respond ((m.get? "id").getD .null) (.error e))), s) := by
  cases m with
  | obj fields =>
      refine ⟨.noMethod, rfl, ?_⟩
      rw [message]
      split
      · rename_i method hmethod
        rw [methodOf, Json.get?, hmethod] at hm
        cases hm
      · rfl
  | _ => exact ⟨.notObject, rfl, rfl⟩

/-- What a message with an id is answered, when its method has run. -/
def answerTo (message : Fields) (r : Except RpcError Json) : Option Json :=
  if (message.get? "id").isSome then some (respond ((message.get? "id").getD .null) r) else none

/-- A message that names a method is carried out, and answered if it has an id. -/
theorem message_named (s : Server ε) (hm : methodOf (.obj message) = some method) :
    (p.message (.obj message)).on s =
      (((p.run method message).on s).1.map (answerTo message), ((p.run method message).on s).2) := by
  have hmethod : message.get? "method" = some (.str method) := by
    rw [methodOf, Json.get?] at hm
    split at hm <;> cases hm
    assumption
  rw [Processor.message, hmethod]
  dsimp only
  rw [Act.on_bind]
  generalize (p.run method message).on s = run
  obtain ⟨res, t⟩ := run
  cases res with
  | error f => rfl
  | ok r =>
      dsimp only [Except.map]
      rw [answerTo, Fields.has_eq]
      cases (message.get? "id").isSome <;> cases r <;> rfl

theorem answers_refused {m : Json} {e : RpcError} (hm : methodOf m = none)
    (he : e.code = -32600) :
    p.Answers m s (some (respond ((m.get? "id").getD .null) (.error e))) := by
  have hcode := errorCode_respond ((m.get? "id").getD .null) (.error e)
  rw [codeOf, he, Option.map_some] at hcode
  constructor
  case version => rintro v ⟨⟩; exact respond_version _ _
  case id => rintro v ⟨⟩; exact respond_id _ _
  case parts => rintro v ⟨⟩; exact respond_parts _ _
  all_goals simp [hm, hcode]

theorem answers_named {r : Except RpcError Json} (hm : methodOf (.obj message) = some method)
    (h : p.Course s method message r) :
    p.Answers (.obj message) s (answerTo message r) := by
  rw [answerTo]
  cases hid : message.get? "id" with
  | none => constructor <;> simp [hm, hid, Json.get?, errorCode]
  | some id =>
      have hcode := errorCode_respond id r
      have hint (c : Int) :
          errorCode (some (respond id r)) = some (.int c) ↔ codeOf r = some c := by
        rw [hcode]
        cases codeOf r <;> simp
      constructor
      case silent => simp [hm, hid, Json.get?]
      case version => rintro v ⟨⟩; exact respond_version _ _
      case id => rintro v ⟨⟩; simpa [hid, Json.get?] using respond_id _ _
      case parts => rintro v ⟨⟩; exact respond_parts _ _
      case invalid =>
        refine ⟨fun hc => ?_, fun hc => by simp [hm] at hc⟩
        obtain hc | hc | hc := h.codes ((hint _).mp hc) <;> cases hc
      case unknown => simpa [hm, hid, Json.get?] using (hint _).trans h.unknown_iff
      case params => simpa [hm, hid, Json.get?] using (hint _).trans h.params_iff
      case internal => simpa [hm, hid, Json.get?] using (hint _).trans h.internal_iff
      case codes =>
        intro c hc
        obtain ⟨n, hn, rfl⟩ := Option.map_eq_some_iff.mp (hcode.symm.trans hc)
        obtain rfl | rfl | rfl := h.codes hn <;> simp
      case calls =>
        intro name _ hcall hname hne harg
        cases hm.symm.trans hcall
        obtain ⟨-, result, rfl, hr⟩ := h.call hname hne harg
        exact ⟨result, rfl, hr⟩

/-- A message that calls a tool which never ends is never done with; every other message has an
outcome that is as `Answers` says. -/
theorem message_outcome (m : Json) (s : Server ε) :
    (p.Unending m s ∧ ((p.message m).on s).1 = .error .endless) ∨
    (¬p.Unending m s ∧
      ∃ response t, (p.message m).on s = (.ok response, t) ∧ p.Answers m s response) := by
  cases hm : methodOf m with
  | none =>
      obtain ⟨e, he, hon⟩ := p.message_refused s hm
      refine .inr ⟨fun h => ?_, _, s, hon, p.answers_refused hm he⟩
      cases hm.symm.trans h.method
  | some method =>
      cases m with
      | obj message =>
          rw [p.message_named s hm]
          obtain ⟨hrun, hunending⟩ | ⟨r, t, hrun, hcourse⟩ := p.run_course s hm
          · rw [hrun]
            exact .inl ⟨hunending, rfl⟩
          · rw [hrun]
            refine .inr ⟨fun h => ?_, _, t, rfl, p.answers_named hm hcourse⟩
            obtain ⟨name, hname, hne, harg, hhangs⟩ := h.hangs
            cases hm.symm.trans h.method
            exact (hcourse.call hname hne harg).1 hhangs
      | _ => cases hm

/-! ## Ids -/

/-- A method runs on its parameters alone. -/
theorem run_congr {other : Fields} (h : other.get? "params" = message.get? "params") :
    p.run method other = p.run method message := by
  simp only [run, dispatch, paramsOf, h]

/-- Messages that differ in members other than the method and the parameters leave the same
state. -/
theorem message_state {other : Fields} (s : Server ε)
    (hmethod : other.get? "method" = message.get? "method")
    (hparams : other.get? "params" = message.get? "params") :
    ((p.message (.obj other)).on s).2 = ((p.message (.obj message)).on s).2 := by
  have hsame : methodOf (.obj other) = methodOf (.obj message) := by
    simp only [methodOf, Json.get?, hmethod]
  cases hm : methodOf (.obj message) with
  | none =>
      obtain ⟨_, -, hon⟩ := p.message_refused s hm
      obtain ⟨_, -, hother⟩ := p.message_refused s (hsame.trans hm)
      rw [hon, hother]
  | some method =>
      rw [p.message_named s hm, p.message_named s (hsame.trans hm), p.run_congr hparams]

theorem message_withId (s : Server ε) (id m : Json) :
    ((p.message (withId id m)).on s).2 = ((p.message m).on s).2 := by
  cases m with
  | obj message =>
      exact p.message_state s (Fields.get?_put_of_ne message id (by decide))
        (Fields.get?_put_of_ne message id (by decide))
  | _ => rfl

theorem message_withoutId (s : Server ε) (m : Json) :
    ((p.message (withoutId m)).on s).2 = ((p.message m).on s).2 := by
  cases m with
  | obj message =>
      exact p.message_state s (Fields.get?_without (by decide)) (Fields.get?_without (by decide))
  | _ => rfl

/-! ## The law of responses -/

/-- A client that is named in a message which was read is named by a value that can be shown. -/
theorem nameUnshown_of_read {m : Json} {text : List Char}
    (h : Json.parseAll (.within p.room) text = .ok m) : p.nameUnshown m = false := by
  have hshown := (Json.sound_of_parseAll rfl h).shown p.room rfl
  rw [nameUnshown, parameter]
  cases hparams : m.get? "params" with
  | none => rfl
  | some params =>
      rw [Option.bind_some]
      cases hinfo : params.get? "clientInfo" with
      | none => rfl
      | some info =>
          rw [Option.bind_some]
          cases hname : info.get? "name" with
          | none => rfl
          | some name =>
              have hname := Json.obstacle?_member
                (Json.obstacle?_member (Json.obstacle?_member hshown hparams) hinfo) hname
              rw [Option.any_some, hname]
              rfl

end Processor

end StoryServer
