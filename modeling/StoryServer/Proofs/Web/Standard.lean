import StoryServer.Proofs.Json.Standard
import StoryServer.Proofs.Web.Framing

/-!
# Responses by the letter of the standard

A client may send a double that is too large for its format, such as `1e400`: by the standard it
is a number, and it is read as an infinity.  Nothing checks for it.  If it stands in the id of a
message it comes back in the response, and the line or the event with the response is no text by
the standard; as the body of an answer the response is refused, and the answer has status 500.
The result of a tool is such a text too if the tool answers with a double that is not finite.

`standard_output` is the account: this is all that can go wrong.
-/

namespace StoryServer

/-- The id of a message or of a response. -/
def idOf (v : Json) : Json := (v.get? "id").getD .null

/-- The id of the message in a payload. -/
def Payload.idOf (room : Nat) (x : Payload) : Json :=
  match x.reading room with
  | .value m => StoryServer.idOf m
  | _ => .null

/-! ## Values -/

namespace Json

theorem compact_readable : Readable .compact where
  items := ⟨[], rfl, fun _ h => absurd h List.not_mem_nil⟩
  keys := ⟨[], rfl, fun _ h => absurd h List.not_mem_nil⟩
  unsorted := rfl
  doubles := rfl

theorem finite_carried : Carried Finite where
  null := .null
  bool := .bool
  str := .str
  code e := .int e.code
  arr := .arr
  obj _ := .obj
  member := finite_obj.mp

/-- Of a value that can be written to a client only the doubles can be refused elsewhere. -/
theorem Writable.defect?_compact {v : Json} (h : Writable v) :
    defect? .compact v = none ↔ Finite v := by
  induction v using byParts with
  | null => exact iff_of_true rfl .null
  | bool b => exact iff_of_true rfl (.bool b)
  | int n => exact iff_of_true h (.int n)
  | str s => exact iff_of_true rfl (.str s)
  | float x =>
      cases x with
      | nan => exact iff_of_false nofun nofun
      | infinite n => exact iff_of_false nofun nofun
      | finite n e f => exact iff_of_true rfl (.float n e f)
  | arr items ih =>
      rw [defect?_arr, finite_arr]
      exact forall₂_congr fun v hv => ih v hv (defect?_arr.mp h v hv)
  | obj fields ih =>
      rw [defect?_obj, finite_obj]
      exact forall₂_congr fun p hp => ih p hp (defect?_obj.mp h p hp)

end Json

/-! ## Responses -/

namespace Processor

variable {ε : Type} (p : Processor ε)

theorem message_id {m v : Json} {s : Server ε} (h : ((p.message m).on s).1 = .ok (some v)) :
    idOf v = idOf m := by
  have hrespond (id : Json) (r : Except RpcError Json) : idOf (respond id r) = id := by
    rw [idOf, respond_id, Option.getD_some]
  cases hmethod : methodOf m with
  | none =>
      obtain ⟨e, -, hon⟩ := p.message_refused s hmethod
      rw [hon] at h
      cases h
      exact hrespond _ _
  | some method =>
      cases m with
      | obj message =>
          rw [p.message_named s hmethod] at h
          cases hrun : ((p.run method message).on s).1 with
          | error f =>
              rw [hrun] at h
              cases h
          | ok r =>
              rw [hrun, Except.map, answerTo] at h
              split at h <;> cases h
              exact hrespond _ _
      | _ => cases hmethod

/-- A response has the id of the message in its payload. -/
theorem payload_id {x : Payload} {s : Server ε} {v : Json}
    (h : ((p.payload x).on s).1 = .ok (some v)) : idOf v = x.idOf p.room := by
  rw [payload_on] at h
  rw [Payload.idOf]
  cases hread : x.reading p.room with
  | value m =>
      rw [hread] at h
      exact p.message_id h
  | refused reason =>
      rw [hread] at h
      cases h
      rfl
  | overlong | tooDeep =>
      rw [hread] at h
      cases h

/-- Only the id of a response can hold doubles that are not finite. -/
theorem payload_finite {x : Payload} {s : Server ε} {v : Json}
    (h : ((p.payload x).on s).1 = .ok (some v)) : v.Finite ↔ (idOf v).Finite := by
  refine ⟨fun hv => id_carried Json.finite_carried hv, fun hid => ?_⟩
  rw [p.payload_id h, Payload.idOf] at hid
  rw [payload_on] at h
  cases hread : x.reading p.room with
  | value m =>
      rw [hread] at h hid
      exact p.message_carried Json.finite_carried s hid h
  | refused reason =>
      rw [hread] at h
      cases h
      exact Json.finite_carried.errorResponse .null _
  | overlong | tooDeep =>
      rw [hread] at h
      cases h

/-- A response as a client gets it on a line or in an event: the text is one by the standard
exactly if the id of the response is finite. -/
theorem payload_standard {x : Payload} {s : Server ε} {v : Json}
    (h : ((p.payload x).on s).1 = .ok (some v)) :
    Json.Standard (Json.text .spaced v).toList ↔ (idOf v).Finite := by
  rw [Json.text, String.toList_ofList, Json.standard_chars_iff Json.spaced_readable,
    p.payload_finite h]

end Processor

/-! ## Bodies -/

namespace Service

variable {ε : Type} (p : Processor ε)

theorem body_mark (r : HttpRequest) (response : HttpResponse) :
    (Origin.mark r response).body = response.body := by
  rw [Origin.mark]
  split <;> rfl

/-- A response can be sent back as the body of an answer if it is finite. -/
theorem value_finite {v : Json} (hw : Json.Writable v) (hv : v.Finite) (status : Nat) :
    HttpResponse.value status v = .ok (.json status (Json.text .compact v)) := by
  rw [HttpResponse.value, writeJson_eq_ok.mpr ⟨hw.defect?_compact.mpr hv, rfl⟩]
  rfl

theorem value_not_finite {v : Json} (hw : Json.Writable v) (hv : ¬ v.Finite) (status : Nat) :
    HttpResponse.value status v = .error .notFinite := by
  rw [HttpResponse.value]
  cases hwrite : writeJson .compact v with
  | ok text => exact absurd (hw.defect?_compact.mp (writeJson_eq_ok.mp hwrite).1) hv
  | error f =>
      rw [hw.write hwrite]
      rfl

/-- The answer to a message that names no channel. -/
theorem serve_back {host query : String} {headers : List (String × String)} {body : Octets}
    {h : Hub ε} (hc : channelOf query = none) {response : Option Json}
    (hr : ((p.octets body).on h.server).1 = .ok response) :
    (serve p (post host query headers body) h).1 =
      match ((finish none response).on h).1 with
      | .ok answer => (Origin.mark (post host query headers body) answer, none)
      | .error f => (.plain 500 "Internal Server Error", some f) := by
  have hrefusal : refusal? query h = none := by rw [refusal?, hc]
  have hon : (Hub.onServer (p.octets body)).on h =
      (.ok response, { h with server := ((p.octets body).on h.server).2 }) := by
    rw [Hub.onServer, Act.on_within, hr]
  rw [serve_post, message_stages p hrefusal, Act.on_bind_of_ok hon, hc]
  cases response with
  | none => rfl
  | some v =>
      rw [finish, Act.on_ofExcept, Act.on_ofExcept]
      cases HttpResponse.value 200 v <;> rfl

variable {host query : String} {headers : List (String × String)} {body : Octets} {h : Hub ε}

theorem post_notice (hc : channelOf query = none) (hr : ((p.octets body).on h.server).1 = .ok none) :
    (serve p (post host query headers body) h).1.1.status = 202 := by
  rw [serve_back p hc hr]
  exact status_mark _ accepted

section Response

variable {v : Json} (hc : channelOf query = none)
  (hr : ((p.octets body).on h.server).1 = .ok (some v))

include hc hr

/-- A response with a finite id is sent back. -/
theorem post_finite (hid : (idOf v).Finite) :
    let answer := (serve p (post host query headers body) h).1.1
    answer.status = 200 ∧ ∃ text : String, answer.body = .text text ∧
      Json.Standard text.toList ∧ Json.parse text = .ok v := by
  have hw := p.payload_writable (x := .octets body) hr
  have hd := p.payload_distinct (x := .octets body) hr
  have hv := (p.payload_finite (x := .octets body) hr).mpr hid
  rw [serve_back p hc hr, finish, Act.on_ofExcept, value_finite hw hv]
  refine ⟨status_mark _ _, Json.text .compact v, body_mark _ _, ?_,
    Json.parse_text Json.compact_readable hd (hw.defect?_compact.mpr hv)⟩
  rw [Json.text, String.toList_ofList]
  exact (Json.standard_chars_iff Json.compact_readable v).mpr hv

/-- A response with another id is refused, and so the message is not answered. -/
theorem post_not_finite (hid : ¬ (idOf v).Finite) :
    (serve p (post host query headers body) h).1 =
      (.plain 500 "Internal Server Error", some .notFinite) := by
  have hw := p.payload_writable (x := .octets body) hr
  have hv := mt (p.payload_finite (x := .octets body) hr).mp hid
  rw [serve_back p hc hr, finish, Act.on_ofExcept, value_not_finite hw hv]

end Response

end Service

/-! ## Tools -/

/-- The text of a tool is that of what it answers. -/
theorem Toolbox.call_answer {ε : Type} (box : Toolbox ε) {name : String} {arguments : Json}
    {s : Server ε} {r : ToolResult} (h : ((box.call name arguments).on s).1 = .ok r)
    (hr : r.isError = false) : ∃ tool request answer, box.find? name = some tool ∧
      Request.ofJson (argumentsOf arguments) tool = .ok request ∧
      ((box.answer request).on s).1 = .ok answer ∧ r.text = Json.text .spaced answer := by
  cases hfind : box.find? name with
  | none =>
      rw [box.call_unknown hfind] at h
      cases h
      cases hr
  | some tool =>
      obtain ⟨log, hcall⟩ := box.call_known hfind s
      rw [hcall] at h
      cases hread : Request.ofJson (argumentsOf arguments) tool with
      | error f =>
          rw [box.perform_refused hread] at h
          exact absurd (ToolResult.made_text h).2 (by simp [hr])
      | ok request =>
          rw [box.perform_read hread] at h
          cases hanswer : ((box.answer request).on s).1 with
          | error f =>
              rw [hanswer] at h
              exact absurd (ToolResult.made_text h).2 (by simp [hr])
          | ok answer =>
              rw [hanswer] at h
              dsimp only [Except.bind] at h
              cases hwrite : resultText answer with
              | error f =>
                  rw [hwrite] at h
                  exact absurd (ToolResult.made_text h).2 (by simp [hr])
              | ok text =>
                  rw [hwrite] at h
                  cases h
                  exact ⟨tool, request, answer, rfl, hread, hanswer, (writeJson_eq_ok.mp hwrite).2⟩

/-! ## Everything that is sent -/

/-- **A text that is sent is one by the standard unless it holds a double that is not finite**, and
such a double comes from the id of the message or from the answer of the tool:

* the line and the event with a response are texts by the standard exactly if its id is finite;
* a response that is to be sent back is the body of an answer with status 200, which is a text by
  the standard and is read as the response, exactly if the id is finite; otherwise the status
  is 500.  A message without a response is answered with status 202;
* the text of a tool that succeeds is one by the standard exactly if its answer is finite.

Nothing is said of messages in which half of a surrogate pair stands alone. -/
theorem standard_output {ε : Type} (p : Processor ε) :
    (∀ (x : Payload) (s : Server ε) (v : Json), x.paired p.room = true →
      ((p.payload x).on s).1 = .ok (some v) →
        idOf v = x.idOf p.room ∧
          (Json.Standard (Json.text .spaced v).toList ↔ (idOf v).Finite)) ∧
    (∀ (input : String) (s : Server ε) (responses : List Json),
      (∀ text ∈ Processor.textsIn ((Text.splitAt '\n' input.toList).map String.ofList),
        (Payload.text text).paired p.room = true) →
      ((p.handle input).on s).1 = .ok responses →
        ((p.serve input).on s).1 = .ok (responses.map (Json.text .spaced)) ∧
        ∀ v ∈ responses, (Json.Standard (Json.text .spaced v).toList ↔ (idOf v).Finite)) ∧
    (∀ (h : Hub ε) (moves : List Move), h.channels = [] →
      (∀ query body, .post query body ∈ moves → (Payload.octets body).paired p.room = true) →
      ∀ id v, (id, .message v) ∈ (Traffic.run p moves { hub := h }).delivered →
        ∃ text, (ChannelEvent.message v).data = .ok text ∧
          (Json.Standard text.toList ↔ (idOf v).Finite)) ∧
    (∀ (host query : String) (headers : List (String × String)) (body : Octets) (h : Hub ε),
      Service.channelOf query = none → (Payload.octets body).paired p.room = true →
        let answer := (Service.serve p (Service.post host query headers body) h).1
        (((p.octets body).on h.server).1 = .ok none → answer.1.status = 202) ∧
        ∀ v, ((p.octets body).on h.server).1 = .ok (some v) →
          ((idOf v).Finite → answer.1.status = 200 ∧ ∃ text : String, answer.1.body = .text text ∧
            Json.Standard text.toList ∧ Json.parse text = .ok v) ∧
          (¬ (idOf v).Finite →
            answer = (.plain 500 "Internal Server Error", some .notFinite))) ∧
    ∀ (name : String) (arguments : Json) (s : Server ε) (r : ToolResult),
      arguments.pairedTexts = true → ((p.box.call name arguments).on s).1 = .ok r → r.isError = false →
        ∃ tool request answer, p.box.find? name = some tool ∧
          Request.ofJson (Toolbox.argumentsOf arguments) tool = .ok request ∧
          ((p.box.answer request).on s).1 = .ok answer ∧ r.text = Json.text .spaced answer ∧
          (Json.Standard r.text.toList ↔ answer.Finite) := by
  refine ⟨fun x s v _ h => ⟨p.payload_id h, p.payload_standard h⟩, fun input s responses _ h => ?_,
    fun h moves hnone _ id v hv => ?_, fun host query headers body h hc _ => ?_,
    fun name arguments s r _ h hr => ?_⟩
  · exact ⟨congrArg Prod.fst (p.serve_handle h),
      p.handle_all (fun text s v hv => p.payload_standard (x := .text text) hv) h⟩
  · have htold := Traffic.Told.run
      (P := fun v => writeJson .spaced v = .ok (Json.text .spaced v) ∧
        (Json.Standard (Json.text .spaced v).toList ↔ (idOf v).Finite))
      (fun body s v hv => ⟨(p.payload_lined (.octets body) s hv).written,
        p.payload_standard (x := .octets body) hv⟩) moves (Traffic.told_start hnone)
    obtain ⟨q, hq, -, rfl⟩ := htold.delivered id v hv
    exact ⟨_, htold.pushes q hq⟩
  · exact ⟨Service.post_notice p hc, fun v hv =>
      ⟨Service.post_finite p hc hv, Service.post_not_finite p hc hv⟩⟩
  · obtain ⟨tool, request, answer, hfind, hrequest, hanswer, htext⟩ := p.box.call_answer h hr
    refine ⟨tool, request, answer, hfind, hrequest, hanswer, htext, ?_⟩
    rw [htext, Json.text, String.toList_ofList, Json.standard_chars_iff Json.spaced_readable]

/-- A message by the standard whose id is read as an infinity, sent as a line, on a stream and to be
answered at once; and a variable that is set to such a number. -/
theorem standard_output_overflow :
    let p : Processor Ink.Shelf := { box := Ink.toolbox false none none }
    let message := "\x7b\"id\": 1e400, \"method\": \"ping\"\x7d"
    let v := resultResponse (.float (.infinite false)) (.obj [])
    let h : Hub Ink.Shelf := { server := Ink.idle, ids := Ink.idle.ids }
    let moves : List Move := [.openStream, .post "sessionId=0" message.toUTF8.toList, .process 0,
      .finish 0, .read "0", .read "0"]
    let story : Json := .obj [("session_id", .str "a"), ("source", .str "VAR x = 1")]
    let setting : Json := .obj [("session_id", .str "a"), ("name", .str "x"),
      ("value", .float (.infinite false))]
    let s := ((p.box.call "set_variable" setting).on
      ((p.box.call "start_story" story).on Ink.idle).2).2
    let getting : Json := .obj [("session_id", .str "a"), ("name", .str "x")]
    let r : ToolResult := ⟨"\x7b\"name\": \"x\", \"value\": Infinity\x7d", false⟩
    Json.Standard message.toList ∧
    ((p.serve message).on Ink.idle).1 = .ok [Json.text .spaced v] ∧
    ("0", .message v) ∈ (Traffic.run p moves { hub := h }).delivered ∧
    (∃ text, (ChannelEvent.message v).data = .ok text ∧ ¬ Json.Standard text.toList) ∧
    (Service.serve p (Service.post "" "" [] message.toUTF8.toList) h).1.1.status = 500 ∧
    ((p.box.call "get_variable" getting).on s).1 = .ok r ∧ ¬ Json.Standard r.text.toList := by
  intro p message v h moves story setting s getting r
  have hv : ¬ (idOf v).Finite := nofun
  have hmessage : Json.Standard message.toList := by
    open Json.Grammar in
    have hquoted (s : String) : Quoted (Json.stringChars false s) := quoted_stringChars false s
    have hspace : Blank [' '] := by simp [Blank]
    have hwhole : Whole ['1'] := .digits (by decide) ⟨by simp, List.all_eq_true.mp rfl⟩
    have hexponent : Exponent ('e' :: ([] ++ ['4', '0', '0'])) :=
      .present (.inl rfl) (by simp) ⟨by simp, List.all_eq_true.mp rfl⟩
    have hnumber : Number ([] ++ (['1'] ++ ([] ++ 'e' :: ([] ++ ['4', '0', '0'])))) :=
      .mk (by simp) hwhole .absent hexponent
    have hid := Derives.member (hquoted "id") blank_nil hspace (.number hnumber)
    have hmethod := Derives.member (hquoted "method") blank_nil hspace (.string (hquoted "ping"))
    have htext := Json.Standard.mk blank_nil
      (.object (.more blank_nil hid blank_nil (.last hspace hmethod blank_nil))) blank_nil
    exact Eq.subst (motive := Json.Standard) (by decide +kernel) htext
  obtain ⟨-, hlines, hevents, hbodies, htools⟩ := standard_output p
  obtain ⟨hserved, -⟩ := hlines message Ink.idle [v] (by decide +kernel) (by decide +kernel)
  have hread : ("0", .message v) ∈ (Traffic.run p moves { hub := h }).delivered := by
    decide +kernel
  have hpaired : (Payload.octets message.toUTF8.toList).paired p.room = true := by decide +kernel
  have hposted : ∀ query body, .post query body ∈ moves →
      (Payload.octets body).paired p.room = true := by
    intro query body hmem
    simp only [moves, List.mem_cons, List.not_mem_nil, or_false, reduceCtorEq, false_or,
      Move.post.injEq] at hmem
    rw [hmem.2]
    exact hpaired
  obtain ⟨text, hdata, htext⟩ := hevents h moves rfl hposted "0" v hread
  obtain ⟨-, hbody⟩ := hbodies "" "" [] message.toUTF8.toList h (by decide +kernel) hpaired
  have hcall : ((p.box.call "get_variable" getting).on s).1 = .ok r := by decide +kernel
  obtain ⟨tool, request, answer, hfind, hrequest, hanswer, -, hfinite⟩ :=
    htools _ _ _ _ (by decide +kernel) hcall rfl
  refine ⟨hmessage, hserved, hread, ⟨text, hdata, mt htext.mp hv⟩, ?_, hcall, ?_⟩
  · rw [(hbody v (by decide +kernel)).2 hv]
    rfl
  · have htool : p.box.find? "get_variable" = some .getVariable := by decide +kernel
    obtain rfl := Option.some.inj (htool.symm.trans hfind)
    have hasked : Request.ofJson (Toolbox.argumentsOf getting) .getVariable =
        .ok (.getVariable "a" "x") := by rfl
    obtain rfl := Except.ok.inj (hasked.symm.trans hrequest)
    have htold : ((p.box.answer (.getVariable "a" "x")).on s).1 =
        .ok (.obj [("name", .str "x"), ("value", .float (.infinite false))]) := by decide +kernel
    obtain rfl := Except.ok.inj (htold.symm.trans hanswer)
    rw [hfinite, Json.finite_obj]
    exact fun hall => nomatch hall ("value", .float (.infinite false)) (by simp)

end StoryServer
