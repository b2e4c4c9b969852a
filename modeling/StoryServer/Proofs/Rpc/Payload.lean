import StoryServer.Proofs.Json.Refusal
import StoryServer.Proofs.Rpc.Carried
import StoryServer.Web.Service

/-!
# What a client sends

A `Payload` is a text or octets.  `Payload.reading` says what is read of it, and there are four
cases: a value, which is a message; a text that is no JSON, which is answered with a parse error;
a text in which a whole number has too many digits; and one in which arrays and objects have more
levels than there is room for.  The last two have no answer: the fault comes out of the processor,
which is left as it was (`payload_on`).

*Lines.*  The lines of a client are served up to the first one that cannot be read or that calls a
tool which never ends (`Stops`).  Every line before it is carried out and answered, because the
response to a message that was read can be written (`line_handled`, `lines_on`).

*Requests.*  A message that is posted is answered with status 500 for the same reasons, and for one
other: its response is the body of the answer and holds an id that is no finite number
(`post_status`).

*Surrogates.*  A text of the server holds no half of a surrogate pair.  So nothing is said of a
message in which an escape or the octets stand for one (`Payload.paired`); a half that comes back
in a response is another thing that cannot be written.
-/

namespace StoryServer

/-! ## Halves of surrogate pairs -/

namespace Json

/-- Whether every escape for half of a surrogate pair stands beside the other half.  The
budget is the length of the text. -/
def pairedFrom : Nat → List Char → Bool
  | 0, _ => true
  | fuel + 1, s =>
    match s with
    | [] => true
    | '\\' :: 'u' :: more =>
      match hex4? more with
      | none => pairedFrom fuel more
      | some n =>
        if 0xD800 ≤ n ∧ n ≤ 0xDBFF then
          match lowSurrogate? (more.drop 4) with
          | some (some _) => pairedFrom fuel (more.drop 10)
          | _ => false
        else if 0xDC00 ≤ n ∧ n ≤ 0xDFFF then false
        else pairedFrom fuel (more.drop 4)
    | '\\' :: _ :: more => pairedFrom fuel more
    | _ :: more => pairedFrom fuel more

/-- Whether no escape in a text is for half of a surrogate pair alone. -/
def paired (s : List Char) : Bool := pairedFrom s.length s

mutual

/-- Whether the texts in a value are such; a text may hold JSON again. -/
def pairedTexts : Json → Bool
  | .str s => paired s.toList
  | .arr items => pairedItems items
  | .obj fields => pairedFields fields
  | _ => true

def pairedItems : List Json → Bool
  | [] => true
  | v :: rest => pairedTexts v && pairedItems rest

def pairedFields : List (String × Json) → Bool
  | [] => true
  | (k, v) :: rest => paired k.toList && pairedTexts v && pairedFields rest

end

end Json

/-! ## Payloads -/

/-- What a client sends. -/
inductive Payload where
  | text (s : String)
  | octets (bs : Octets)

/-- What is read of a payload. -/
inductive Reading where
  | value (m : Json)
  /-- The payload is no JSON, with what is said of it. -/
  | refused (reason : String)
  /-- A whole number in the payload cannot be read. -/
  | overlong (d : NumberDefect)
  /-- There is no room for an array or an object in the payload. -/
  | tooDeep (kind : Json.Kind)
  deriving DecidableEq

namespace Reading

/-- What a reader made of a text. -/
def ofRead (text : List Char) : Except Json.ReadDefect Json → Reading
  | .ok m => .value m
  | .error (.syntaxAt complaint position) => .refused (Json.placed text complaint position)
  | .error (.number d) => .overlong d
  | .error (.tooDeep kind) => .tooDeep kind

/-- The fault of a payload that cannot be read. -/
def fault? : Reading → Option Fault
  | .overlong d => some (.number d)
  | .tooDeep kind => some (.tooDeep kind)
  | _ => none

section OfRead

variable {text : List Char} {r : Except Json.ReadDefect Json}

theorem read_of_value {m : Json} (h : ofRead text r = .value m) : r = .ok m := by
  unfold ofRead at h
  split at h <;> cases h
  rfl

theorem read_of_overlong {d : NumberDefect} (h : ofRead text r = .overlong d) :
    r = .error (.number d) := by
  unfold ofRead at h
  split at h <;> cases h
  rfl

theorem read_of_tooDeep {kind : Json.Kind} (h : ofRead text r = .tooDeep kind) :
    r = .error (.tooDeep kind) := by
  unfold ofRead at h
  split at h <;> cases h
  rfl

end OfRead

end Reading

namespace Payload

/-- What is read of a payload when there is room for so many levels. -/
def reading (room : Nat) : Payload → Reading
  | .text s => .ofRead s.toList (Json.parseText (.within room) s)
  | .octets bs =>
    match Encoding.decode bs with
    | .ok s => .ofRead s.toList (Json.parseAll (.within room) s.toList)
    | .error d => .refused d.message

/-- Whether no half of a surrogate pair stands alone in a payload, be it an escape or octets. -/
def whole : Payload → Bool
  | .text s => Json.paired s.toList
  | .octets bs =>
    match Encoding.codePoints bs with
    | .ok points => points.all (fun n => !Encoding.isSurrogate n) &&
        Json.paired (Encoding.textOf points).toList
    | .error _ => true

/-- Whether a payload, if it is read as a value, has no half of a surrogate pair in it, nor in a
JSON text inside of it. -/
def paired (room : Nat) (x : Payload) : Bool :=
  match x.reading room with
  | .value m => x.whole && m.pairedTexts
  | _ => true

/-- The payload holds this many digits in a row, more than a whole number may have. -/
def Overlong (n : Nat) : Payload → Prop
  | .text s => Json.Overlong s.toList n
  | .octets bs => ∃ s, Encoding.decode bs = .ok s ∧ Json.Overlong s.toList n

/-- The payload opens more brackets than there is room for. -/
def Deep (room : Nat) : Payload → Prop
  | .text s => room < Json.brackets s.toList
  | .octets bs => ∃ s, Encoding.decode bs = .ok s ∧ room < Json.brackets s.toList

section Reading

variable {room : Nat} {x : Payload}

/-- **Digits are the only numbers that cannot be read.** -/
theorem overlong_of_reading {d : NumberDefect} (h : x.reading room = .overlong d) :
    ∃ n, d = .tooManyDigits n ∧ x.Overlong n := by
  cases x with
  | text s => exact Json.number_of_parseText rfl (Reading.read_of_overlong h)
  | octets bs =>
      rw [reading] at h
      split at h
      · rename_i s hs
        obtain ⟨n, hd, hn⟩ := Json.number_of_parseAll rfl (Reading.read_of_overlong h)
        exact ⟨n, hd, s, hs, hn⟩
      · cases h

/-- There is no room for a payload only if it has more brackets. -/
theorem deep_of_reading {kind : Json.Kind} (h : x.reading room = .tooDeep kind) :
    x.Deep room := by
  cases x with
  | text s =>
      obtain ⟨n, ⟨⟩, hn⟩ := Json.deep_of_parseText rfl (Reading.read_of_tooDeep h)
      exact hn
  | octets bs =>
      rw [reading] at h
      split at h
      · rename_i s hs
        obtain ⟨n, ⟨⟩, hn⟩ := Json.deep_of_parseAll rfl (Reading.read_of_tooDeep h)
        exact ⟨s, hs, hn⟩
      · cases h

/-- A message that was read can be written, and shown. -/
theorem sound_of_reading {m : Json} (h : x.reading room = .value m) :
    Json.Sound (some room) m := by
  cases x with
  | text s => exact Json.sound_of_parseText rfl (Reading.read_of_value h)
  | octets bs =>
      rw [reading] at h
      split at h
      · exact Json.sound_of_parseAll rfl (Reading.read_of_value h)
      · cases h

end Reading

theorem reading_overlong (room : Nat) {n : Int}
    (hn : digitLimit < (Nat.toDigits 10 n.natAbs).length) :
    (text (String.ofList (Json.intChars n))).reading room =
      .overlong (.tooManyDigits (Nat.toDigits 10 n.natAbs).length) := by
  rw [reading, Json.parse_overlong room hn]
  rfl

theorem reading_deep (room : Nat) :
    (text (String.ofList (List.replicate (room + 1) '['))).reading room = .tooDeep .arr := by
  rw [reading, Json.parse_deep]
  rfl

end Payload

/-! ## Responses that can be written -/

namespace Json

section Style

variable {style : JsonStyle}

theorem defect?_obj {fields : Fields} :
    defect? style (.obj fields) = none ↔ ∀ p ∈ fields, defect? style p.2 = none := by
  rw [defect?]
  induction fields with
  | nil => simp [fieldsDefect?]
  | cons p rest ih => simp [fieldsDefect?, Option.or_eq_none_iff, ih]

theorem defect?_arr {items : List Json} :
    defect? style (.arr items) = none ↔ ∀ v ∈ items, defect? style v = none := by
  rw [defect?]
  induction items with
  | nil => simp [itemsDefect?]
  | cons v rest ih => simp [itemsDefect?, Option.or_eq_none_iff, ih]

end Style

theorem writable_code (e : RpcError) : Writable (.int e.code) := by
  have hcodes : ∀ c ∈ [-32700, -32600, -32601, -32602, -32603], Writable (.int c) := by
    simp only [List.forall_mem_cons]
    exact ⟨rfl, rfl, rfl, rfl, rfl, nofun⟩
  exact hcodes _ (by cases e <;> simp [RpcError.code])

theorem writable_carried : Carried Writable where
  null := rfl
  bool _ := rfl
  str _ := rfl
  code := writable_code
  arr := defect?_arr.mpr
  obj _ := defect?_obj.mpr
  member := defect?_obj.mp

section Style

variable {style : JsonStyle}

/-- What is refused in an array is refused in one of its items. -/
theorem defect?_arr_some {items : List Json} {d : WriteDefect}
    (h : defect? style (.arr items) = some d) : ∃ v ∈ items, defect? style v = some d := by
  rw [defect?] at h
  induction items with
  | nil => cases h
  | cons v rest ih =>
      obtain hv | ⟨-, hrest⟩ := Option.or_eq_some_iff.mp h
      · exact ⟨v, List.mem_cons_self, hv⟩
      · obtain ⟨w, hw, hd⟩ := ih hrest
        exact ⟨w, List.mem_cons_of_mem v hw, hd⟩

theorem defect?_obj_some {fields : Fields} {d : WriteDefect}
    (h : defect? style (.obj fields) = some d) : ∃ p ∈ fields, defect? style p.2 = some d := by
  rw [defect?] at h
  induction fields with
  | nil => cases h
  | cons p rest ih =>
      obtain hp | ⟨-, hrest⟩ := Option.or_eq_some_iff.mp h
      · exact ⟨p, List.mem_cons_self, hp⟩
      · obtain ⟨q, hq, hd⟩ := ih hrest
        exact ⟨q, List.mem_cons_of_mem p hq, hd⟩

/-- A value that can be written to a client is refused by no style for its whole numbers. -/
theorem Writable.short {v : Json} (h : Writable v) : v.defect? style ≠ some .tooLong := by
  induction v using byParts with
  | null | bool b | str s => exact nofun
  | int n =>
      rw [defect?]
      split
      · rename_i hlong
        cases (if_pos hlong).symm.trans h
      · exact nofun
  | float x =>
      cases x <;> simp only [defect?] <;> (try split) <;> exact nofun
  | arr items ih =>
      intro hd
      obtain ⟨v, hv, hd⟩ := defect?_arr_some hd
      exact ih v hv (defect?_arr.mp h v hv) hd
  | obj fields ih =>
      intro hd
      obtain ⟨p, hp, hd⟩ := defect?_obj_some hd
      exact ih p hp (defect?_obj.mp h p hp) hd

/-- A value that can be written to a client is refused for its doubles at most. -/
theorem Writable.write {v : Json} (h : Writable v) {f : Fault} (hf : writeJson style v = .error f) :
    f = .notFinite := by
  rw [writeJson, Json.write] at hf
  cases hd : v.defect? style with
  | none => rw [hd] at hf; cases hf
  | some d =>
      rw [hd] at hf
      cases d with
      | tooLong => exact absurd hd h.short
      | notFinite => cases hf; rfl

end Style

end Json

namespace Processor

variable {ε : Type} (p : Processor ε)

/-! ## Payloads -/

/-- The response to a payload. -/
def payload : Payload → Act (Server ε) (Option Json)
  | .text s => p.text s
  | .octets bs => p.octets bs

theorem received_on (text : List Char) (r : Except Json.ReadDefect Json) (s : Server ε) :
    (p.received text r).on s =
      match Reading.ofRead text r with
      | .value m => (p.message m).on s
      | .refused reason => (.ok (some (errorResponse .null (.parse reason))), s)
      | .overlong d => (.error (.number d), s)
      | .tooDeep kind => (.error (.tooDeep kind), s) := by
  cases r with
  | ok m => rfl
  | error e => cases e <;> rfl

/-- What is read of a payload decides what becomes of it. -/
theorem payload_on (x : Payload) (s : Server ε) :
    (p.payload x).on s =
      match x.reading p.room with
      | .value m => (p.message m).on s
      | .refused reason => (.ok (some (errorResponse .null (.parse reason))), s)
      | .overlong d => (.error (.number d), s)
      | .tooDeep kind => (.error (.tooDeep kind), s) := by
  cases x with
  | text str => exact p.received_on _ _ s
  | octets bs =>
      rw [payload, octets, Payload.reading]
      cases Encoding.decode bs with
      | ok str => exact p.received_on _ _ s
      | error d => rfl

/-- The response to a payload has a property if the message in the payload has it. -/
theorem payload_carried {P : Json → Prop} (hP : Json.Carried P) {x : Payload}
    (hx : ∀ m, x.reading p.room = .value m → P m) (s : Server ε) {v : Json}
    (h : ((p.payload x).on s).1 = .ok (some v)) : P v := by
  rw [payload_on] at h
  cases hread : x.reading p.room with
  | value m =>
      rw [hread] at h
      exact p.message_carried hP s (id_carried hP (hx m hread)) h
  | refused reason =>
      rw [hread] at h
      cases h
      exact hP.errorResponse hP.null _
  | overlong | tooDeep =>
      rw [hread] at h
      cases h

/-- A response can be written. -/
theorem payload_writable {x : Payload} {s : Server ε} {v : Json}
    (h : ((p.payload x).on s).1 = .ok (some v)) : Json.Writable v :=
  p.payload_carried Json.writable_carried (fun _ hm => (Payload.sound_of_reading hm).writable) s h

/-- A payload cannot be read, or it is a message that calls a tool which never ends. -/
inductive Stuck (x : Payload) (s : Server ε) : Fault → Prop
  | unread {f : Fault} (h : (x.reading p.room).fault? = some f) : Stuck x s f
  | unending {m : Json} (h : x.reading p.room = .value m) (hm : p.Unending m s) :
      Stuck x s .endless

/-- A payload that cannot be read leaves the state as it is. -/
theorem payload_unread {x : Payload} {f : Fault} (h : (x.reading p.room).fault? = some f)
    (s : Server ε) : (p.payload x).on s = (.error f, s) := by
  have hon := p.payload_on x s
  generalize x.reading p.room = r at h hon
  cases r <;> cases h <;> exact hon

theorem payload_stuck {x : Payload} {s : Server ε} {f : Fault} (h : p.Stuck x s f) :
    ∃ t, (p.payload x).on s = (.error f, t) := by
  cases h with
  | unread h => exact ⟨s, p.payload_unread h s⟩
  | unending h hm =>
      rw [payload_on, h]
      exact ⟨_, Prod.ext ((p.message_outcome _ s).resolve_right fun hends => hends.1 hm).2 rfl⟩

/-- A payload is stuck, or comes to its end with nothing or a response that can be written. -/
theorem payload_outcome (x : Payload) (s : Server ε) : (∃ f, p.Stuck x s f) ∨
    ∃ response t, (p.payload x).on s = (.ok response, t) ∧ ∀ v ∈ response, Json.Writable v := by
  have hwritable {response : Option Json} {t : Server ε}
      (hon : (p.payload x).on s = (.ok response, t)) : ∀ v ∈ response, Json.Writable v := by
    intro v hv
    obtain rfl : response = some v := hv
    exact p.payload_writable (congrArg Prod.fst hon)
  have hon := p.payload_on x s
  cases hx : x.reading p.room with
  | value m =>
      rw [hx] at hon
      obtain ⟨hunending, hends⟩ | ⟨hends, response, t, hmessage, -⟩ := p.message_outcome m s
      · exact .inl ⟨_, .unending hx hunending⟩
      · exact .inr ⟨response, t, hon.trans hmessage, hwritable (hon.trans hmessage)⟩
  | refused reason =>
      rw [hx] at hon
      exact .inr ⟨_, s, hon, hwritable hon⟩
  | overlong | tooDeep => exact .inl ⟨_, .unread (by rw [hx]; rfl)⟩

/-! ## Lines -/

/-- A line ends the service with a fault, or it is never done with. -/
def Stops (line : String) (s : Server ε) (f : Fault) : Prop :=
  p.Stuck (.text (Text.trim line)) s f

/-- Every line, in its turn, comes to its end. -/
def Passes : List String → Server ε → Prop
  | [], _ => True
  | line :: rest, s => (∀ f, ¬p.Stops line s f) ∧ Passes rest ((p.line line).on s).2

/-- The server after some lines. -/
def fed (lines : List String) (s : Server ε) : Server ε :=
  lines.foldl (fun s line => ((p.line line).on s).2) s

theorem fed_nil (s : Server ε) : p.fed [] s = s := rfl

theorem fed_cons (line : String) (rest : List String) (s : Server ε) :
    p.fed (line :: rest) s = p.fed rest ((p.line line).on s).2 := by
  rw [fed, fed, List.foldl_cons]

/-- The lines that answer some lines, those without a response and those with a fault left out. -/
def replies : List String → Server ε → List String
  | [], _ => []
  | line :: rest, s =>
    (((p.line line).on s).1.toOption.bind id).toList ++ replies rest ((p.line line).on s).2

/-- A line is carried out as the payload in it, and answered with its response. -/
theorem line_handled {line : String} {s : Server ε} (h : ∀ f, ¬p.Stops line s f) :
    ((Text.trim line).isEmpty = true ∧ (p.line line).on s = (.ok none, s)) ∨
    ∃ response t, (p.payload (.text (Text.trim line))).on s = (.ok response, t) ∧
      (p.line line).on s = (.ok (response.map (Json.text .spaced)), t) := by
  rw [Processor.line]
  cases hempty : (Text.trim line).isEmpty with
  | true => exact .inl ⟨rfl, rfl⟩
  | false =>
      obtain ⟨f, hstuck⟩ | ⟨response, t, hon, hwritable⟩ :=
        p.payload_outcome (.text (Text.trim line)) s
      · exact absurd hstuck (h f)
      · rw [if_neg Bool.false_ne_true]
        refine .inr ⟨response, t, hon, (Act.on_bind_of_ok hon).trans ?_⟩
        cases response with
        | none => rfl
        | some v =>
            have hwrite : writeJson .spaced v = .ok (Json.text .spaced v) :=
              writeJson_eq_ok.mpr ⟨hwritable v rfl, rfl⟩
            simp only [hwrite]
            rfl

/-- A blank line is passed over: it is no payload that could be stuck. -/
theorem not_stuck_blank {f : Fault} {s : Server ε} : ¬p.Stuck (.text "") s f := by
  rintro (h | ⟨h, -⟩) <;> cases h

theorem line_stopped {line : String} {s : Server ε} {f : Fault} (h : p.Stops line s f) :
    ∃ t, (p.line line).on s = (.error f, t) := by
  have hempty : (Text.trim line).isEmpty = false := by
    cases hempty : (Text.trim line).isEmpty with
    | false => rfl
    | true =>
        rw [Stops, String.isEmpty_iff.mp hempty] at h
        exact absurd h p.not_stuck_blank
  obtain ⟨t, hon⟩ := p.payload_stuck h
  rw [payload] at hon
  rw [Processor.line]
  rw [hempty, if_neg Bool.false_ne_true]
  exact ⟨t, Act.on_bind_of_error hon⟩

/-- **Lines are served to the end, or up to the first that cannot be read or is never done
with.** -/
theorem lines_on : ∀ (lines : List String) (s : Server ε),
    (p.Passes lines s ∧ (p.lines lines).on s = (.ok (p.replies lines s), p.fed lines s)) ∨
    ∃ served line rest f, lines = served ++ line :: rest ∧ p.Passes served s ∧
      p.Stops line (p.fed served s) f ∧
      (p.lines lines).on s = (.error f, ((p.line line).on (p.fed served s)).2)
  | [], _ => .inl ⟨trivial, rfl⟩
  | line :: rest, s => by
      rw [Processor.lines]
      by_cases h : ∃ f, p.Stops line s f
      · obtain ⟨f, hf⟩ := h
        obtain ⟨t, hline⟩ := p.line_stopped hf
        refine .inr ⟨[], line, rest, f, rfl, trivial, hf, ?_⟩
        rw [Act.on_bind_of_error hline, fed_nil, hline]
      · have hpasses := not_exists.mp h
        obtain ⟨answer, t, hline⟩ : ∃ answer t, (p.line line).on s = (.ok answer, t) := by
          obtain ⟨-, hon⟩ | ⟨response, t, -, hon⟩ := p.line_handled hpasses
          · exact ⟨_, _, hon⟩
          · exact ⟨_, _, hon⟩
        have hafter : ((p.line line).on s).2 = t := by rw [hline]
        rw [Act.on_bind_of_ok hline]
        obtain ⟨hrest, hon⟩ | ⟨served, last, more, f, rfl, hserved, hstops, hon⟩ := lines_on rest t
        · refine .inl ⟨⟨hpasses, hafter ▸ hrest⟩, ?_⟩
          rw [Act.on_bind_of_ok hon, replies, fed_cons, hline]
          rfl
        · refine .inr ⟨line :: served, last, more, f, rfl, ⟨hpasses, hafter ▸ hserved⟩, ?_, ?_⟩
          · rwa [fed_cons, hafter]
          · rw [Act.on_bind_of_error hon, fed_cons, hafter]

end Processor

/-! ## Messages that are posted -/

namespace Service

variable {ε : Type} (p : Processor ε)

/-- A request that posts a message. -/
def post (host query : String) (headers : List (String × String)) (body : Octets) : HttpRequest :=
  { method := "POST", host, path := "/message", query, headers, body }

/-- The channel that a query names is open, if it names one. -/
def Deliverable (query : String) (h : Hub ε) : Prop :=
  ∀ id, channelOf query = some id → (h.openChannel? id).isSome = true

/-- A fault of a body is a fault of the message, unless its channel is not open. -/
theorem message_stuck {body : Octets} {f : Fault} {query : String} {h : Hub ε} {t : Server ε}
    (hbody : (p.octets body).on h.server = (.error f, t)) (hc : Deliverable query h) :
    (message p query body).on h = (.error f, { h with server := t }) := by
  have hon : (Hub.onServer (p.octets body)).on h = (.error f, { h with server := t }) := by
    rw [Hub.onServer, Act.on_within, hbody]
  rw [message]
  cases hchannel : channelOf query with
  | none => exact Act.on_bind_of_error hon
  | some id =>
      have hopen : (h.openChannel? id).isNone = false := by
        rw [← Option.not_isSome, hc id hchannel]
        rfl
      dsimp only
      rw [Act.on_bind, Act.on_get]
      dsimp only
      rw [hopen, if_neg Bool.false_ne_true]
      exact Act.on_bind_of_error hon

/-- A channel that is not open takes no message. -/
theorem message_closed (body : Octets) {query id : String} {h : Hub ε}
    (hchannel : channelOf query = some id) (hclosed : (h.openChannel? id).isNone = true) :
    ∃ response, (message p query body).on h = (.ok response, h) ∧ response.status ≠ 500 := by
  rw [message, hchannel]
  dsimp only
  rw [Act.on_bind, Act.on_get]
  dsimp only
  rw [if_pos hclosed]
  exact ⟨_, Act.on_ofExcept _ h, by decide⟩

/-- A value is sent with its status, or it holds a double that cannot be sent. -/
theorem value_sent {v : Json} (hv : Json.Writable v) (status : Nat) :
    (∃ response, HttpResponse.value status v = .ok response ∧ response.status = status) ∨
    HttpResponse.value status v = .error .notFinite := by
  rw [HttpResponse.value]
  cases hw : writeJson .compact v with
  | ok text => exact .inl ⟨_, rfl, rfl⟩
  | error f =>
      obtain rfl := hv.write hw
      exact .inr rfl

/-- A message that comes to its end is answered, unless its response goes back in the answer and
holds a double that cannot be sent. -/
theorem message_fine {body : Octets} {query : String} {h : Hub ε} {response : Option Json}
    {t : Server ε} (hpayload : (p.octets body).on h.server = (.ok response, t))
    (hwritable : ∀ v ∈ response, Json.Writable v) :
    (∃ response h', (message p query body).on h = (.ok response, h') ∧ response.status ≠ 500) ∨
    (channelOf query = none ∧ ∃ h', (message p query body).on h = (.error .notFinite, h')) := by
  have hon : (Hub.onServer (p.octets body)).on h = (.ok response, { h with server := t }) := by
    rw [Hub.onServer, Act.on_within, hpayload]
  cases hchannel : channelOf query with
  | some id =>
      refine .inl ?_
      by_cases hclosed : (h.openChannel? id).isNone = true
      · obtain ⟨response, hmessage, hstatus⟩ := message_closed p body hchannel hclosed
        exact ⟨response, h, hmessage, hstatus⟩
      · rw [message, hchannel]
        dsimp only
        rw [Act.on_bind, Act.on_get]
        dsimp only
        rw [if_neg hclosed, Act.on_bind_of_ok hon]
        cases response with
        | none => exact ⟨_, _, rfl, by decide⟩
        | some v => exact ⟨_, _, rfl, by decide⟩
  | none =>
      rw [message, hchannel]
      dsimp only
      rw [Act.on_bind_of_ok hon]
      cases response with
      | none => exact .inl ⟨_, _, rfl, by decide⟩
      | some v =>
          dsimp only
          rw [Act.on_ofExcept]
          obtain ⟨response, hvalue, hstatus⟩ | hvalue := value_sent (hwritable v rfl) 200
          · rw [hvalue]
            exact .inl ⟨response, _, rfl, by rw [hstatus]; decide⟩
          · rw [hvalue]
            exact .inr ⟨rfl, _, rfl⟩

/-- What is posted is no preflight request. -/
theorem preflight?_post {r : HttpRequest} (h : r.method = "POST") : Origin.preflight? r = none := by
  rw [Origin.preflight?, h]
  split
  · rename_i hmethod _
    exact absurd hmethod (show "POST" ≠ "OPTIONS" by decide)
  · rfl

theorem serve_post (host query : String) (headers : List (String × String)) (body : Octets)
    (h : Hub ε) : serve p (post host query headers body) h =
      match (message p query body).on h with
      | (.ok response, h) => ((Origin.mark (post host query headers body) response, none), h)
      | (.error f, h) => ((.plain 500 "Internal Server Error", some f), h) := by
  rw [serve, preflight?_post rfl]
  rfl

theorem status_mark (r : HttpRequest) (response : HttpResponse) :
    (Origin.mark r response).status = response.status := by
  rw [Origin.mark]
  split <;> rfl

end Service

/-! ## Everything a client sends -/

/-- What becomes of a payload: a message is answered as messages are, or never if it calls a tool
that never ends; text that is no JSON is answered with a parse error; too many digits and too many
brackets are faults, which leave the state as it is. -/
def Processor.Handles {ε : Type} (p : Processor ε) (x : Payload) (s : Server ε) : Prop :=
  match x.reading p.room with
  | .value m =>
    (p.Unending m s ∧ ((p.payload x).on s).1 = .error .endless) ∨
    (¬p.Unending m s ∧
      ∃ response t, (p.payload x).on s = (.ok response, t) ∧ p.Answers m s response)
  | .refused reason =>
    (p.payload x).on s = (.ok (some (errorResponse .null (.parse reason))), s)
  | .overlong d =>
    (p.payload x).on s = (.error (.number d), s) ∧ ∃ n, d = .tooManyDigits n ∧ x.Overlong n
  | .tooDeep kind => (p.payload x).on s = (.error (.tooDeep kind), s) ∧ x.Deep p.room

theorem Processor.payload_handled {ε : Type} (p : Processor ε) (x : Payload) (s : Server ε) :
    p.Handles x s := by
  have hon := p.payload_on x s
  unfold Handles
  cases hx : x.reading p.room with
  | value m =>
      rw [hx] at hon
      rw [hon]
      exact p.message_outcome m s
  | refused reason =>
      rw [hx] at hon
      exact hon
  | overlong d =>
      rw [hx] at hon
      exact ⟨hon, Payload.overlong_of_reading hx⟩
  | tooDeep kind =>
      rw [hx] at hon
      exact ⟨hon, Payload.deep_of_reading hx⟩

/-- A message that is posted is answered with status 500 because its body cannot be read, or for a
double in the answer that cannot be sent; or it is not answered at all. -/
theorem Service.post_status {ε : Type} (p : Processor ε) (host query : String)
    (headers : List (String × String)) (body : Octets) (h : Hub ε)
    (h500 : (serve p (post host query headers body) h).1.1.status = 500) :
    ∃ f, (serve p (post host query headers body) h).1.2 = some f ∧
      (p.Stuck (.octets body) h.server f ∨ (channelOf query = none ∧ f = .notFinite)) := by
  -- an answer that a route gives has another status
  have hanswer {response : HttpResponse} {h' : Hub ε}
      (hon : (message p query body).on h = (.ok response, h')) : response.status = 500 := by
    rw [serve_post, hon] at h500
    exact (status_mark _ response).symm.trans h500
  rw [serve_post]
  obtain ⟨f, hstuck⟩ | ⟨response, t, hbody, hwritable⟩ := p.payload_outcome (.octets body) h.server
  · by_cases hc : Deliverable query h
    · obtain ⟨t, hbody⟩ := p.payload_stuck hstuck
      rw [message_stuck p hbody hc]
      exact ⟨f, rfl, .inl hstuck⟩
    · obtain ⟨id, hid⟩ := not_forall.mp hc
      obtain ⟨hchannel, hopen⟩ := Classical.not_imp.mp hid
      have hclosed : (h.openChannel? id).isNone = true := by simpa using hopen
      obtain ⟨response, hon, hstatus⟩ := message_closed p body hchannel hclosed
      exact absurd (hanswer hon) hstatus
  · obtain ⟨response, h', hon, hstatus⟩ | ⟨hchannel, h', hon⟩ :=
      message_fine p hbody hwritable
    · exact absurd (hanswer hon) hstatus
    · rw [hon]
      exact ⟨_, rfl, .inr ⟨hchannel, rfl⟩⟩

/-- **Every payload is handled, and so is every line and every message that is posted, but for
whole numbers with more digits than can be read and for more levels than there is room for**, and
but for tools that never end.  Such a number or such a level is a fault of its payload, ends the
service of lines at its line, and gives a posted message the status 500.  (A fault `endless` in
place of an answer is that there is none.) -/
theorem payloads_served {ε : Type} (p : Processor ε) :
    (∀ (x : Payload) (s : Server ε), x.paired p.room = true → p.Handles x s) ∧
    (∀ n : Int, digitLimit < (Nat.toDigits 10 n.natAbs).length →
      (Payload.text (String.ofList (Json.intChars n))).reading p.room =
        .overlong (.tooManyDigits (Nat.toDigits 10 n.natAbs).length)) ∧
    (Payload.text (String.ofList (List.replicate (p.room + 1) '['))).reading p.room =
      .tooDeep .arr ∧
    (∀ (input : String) (s : Server ε),
      let lines := (Text.splitAt '\n' input.toList).map String.ofList
      let t := (Processor.greet.on s).2
      (∀ line ∈ lines, (Payload.text (Text.trim line)).paired p.room = true) →
        (p.Passes lines t ∧ (p.serve input).on s = (.ok (p.replies lines t), p.fed lines t)) ∨
        ∃ served line rest f, lines = served ++ line :: rest ∧ p.Passes served t ∧
          p.Stops line (p.fed served t) f ∧
          (p.serve input).on s = (.error f, ((p.line line).on (p.fed served t)).2)) ∧
    (∀ (line : String) (s : Server ε), (Payload.text (Text.trim line)).paired p.room = true →
      (∀ f, ¬p.Stops line s f) →
        ((Text.trim line).isEmpty = true ∧ (p.line line).on s = (.ok none, s)) ∨
        ∃ response t, (p.payload (.text (Text.trim line))).on s = (.ok response, t) ∧
          (p.line line).on s = (.ok (response.map (Json.text .spaced)), t)) ∧
    ∀ (host query : String) (headers : List (String × String)) (body : Octets) (h : Hub ε),
      (Payload.octets body).paired p.room = true →
        (∀ f, ((Payload.octets body).reading p.room).fault? = some f → Service.Deliverable query h →
          Service.serve p (Service.post host query headers body) h =
            ((.plain 500 "Internal Server Error", some f), h)) ∧
        ((Service.serve p (Service.post host query headers body) h).1.1.status = 500 →
          ∃ f, (Service.serve p (Service.post host query headers body) h).1.2 = some f ∧
            (p.Stuck (.octets body) h.server f ∨
              (Service.channelOf query = none ∧ f = .notFinite))) := by
  refine ⟨fun x s _ => p.payload_handled x s, fun _ => Payload.reading_overlong p.room,
    Payload.reading_deep p.room, fun input s => ?_, fun line s _ h => p.line_handled h,
    fun host query headers body h _ =>
      ⟨fun f hf hc => ?_, Service.post_status p host query headers body h⟩⟩
  · intro lines t _
    have hgreet : Processor.greet.on s = (.ok (), t) := rfl
    rw [Processor.serve, Act.on_bind_of_ok hgreet]
    exact p.lines_on lines t
  · rw [Service.serve_post, Service.message_stuck p (p.payload_unread hf h.server) hc]

end StoryServer
