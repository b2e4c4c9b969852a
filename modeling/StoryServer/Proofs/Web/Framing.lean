import StoryServer.Proofs.Rpc.Lines
import StoryServer.Proofs.Web.Delivery

/-!
# Events and lines can be told apart

The data of an event are one line, from which the response is read back.  What is written for
lines is taken apart in the same way (`Processor.serve_handle`).

*Responses.*  `Told P` says that a property holds of all responses in the traffic, and that a
message which was read from a stream, or is still to be read, was put into the channel of the
stream.  It holds after every run if the processor gives no other responses (`Told.run`).
-/

namespace StoryServer

namespace Traffic

variable {ε : Type} {p : Processor ε} {P : Json → Prop}

/-- The response was put into the channel. -/
def Pushed (t : Traffic ε) (id : String) (response : Json) : Prop :=
  ∃ q ∈ t.pushes, q.channel = id ∧ q.response = response

/-- All responses in the traffic have the property, and the messages on streams are responses. -/
structure Told (P : Json → Prop) (t : Traffic ε) : Prop where
  outcomes (q : Post) : q ∈ t.posts → ∀ v, q.outcome = some (.ok (some v)) → P v
  pushes (q : Push) : q ∈ t.pushes → P q.response
  pending (c : Channel) : c ∈ t.hub.channels → ∀ v, .message v ∈ c.pending → t.Pushed c.id v
  delivered (id : String) (v : Json) : (id, .message v) ∈ t.delivered → t.Pushed id v

variable {t : Traffic ε}

/-! ## Streams -/

/-- A step of a stream puts nothing into a channel. -/
theorem Told.streamed (h : t.Told P) {u : Traffic ε} (hposts : u.posts = t.posts)
    (hpushes : u.pushes = t.pushes)
    (hpending : ∀ c ∈ u.hub.channels, ∀ v, .message v ∈ c.pending → t.Pushed c.id v)
    (hdelivered : ∀ id v, (id, .message v) ∈ u.delivered → t.Pushed id v) : u.Told P where
  outcomes := hposts ▸ h.outcomes
  pushes := hpushes ▸ h.pushes
  pending c hc v hv := by
    rw [Pushed, hpushes]
    exact hpending c hc v hv
  delivered id v hv := by
    rw [Pushed, hpushes]
    exact hdelivered id v hv

/-- What is pending in a channel that was changed, if nothing was put into it but its endpoint. -/
theorem pushed_changed {id : String} {f : Channel → Channel} {channels : List Channel}
    (hchannels : ∀ c ∈ channels, ∀ v, .message v ∈ c.pending → t.Pushed c.id v)
    (hf : ∀ c, (f c).id = c.id) (hpending : ∀ c v, .message v ∈ (f c).pending → .message v ∈ c.pending) :
    ∀ c ∈ Hub.change id f channels, ∀ v, .message v ∈ c.pending → t.Pushed c.id v := by
  intro c hc v hv
  obtain ⟨c₀, hmem, ⟨-, rfl⟩ | ⟨-, rfl⟩⟩ := Hub.mem_change hc
  · rw [hf]
    exact hchannels c₀ hmem v (hpending c₀ v hv)
  · exact hchannels c hmem v hv

theorem Told.openStream (h : t.Told P) : (t.move p .openStream).Told P := by
  obtain ⟨server, id, ids, hopen⟩ : ∃ server id ids, Hub.openStream.on t.hub = (.ok id, ⟨server,
      Hub.change id (fun c => { c with pending := c.pending ++ [.endpoint id] })
        (t.hub.channels ++ [({ id := id } : Channel)]), ids⟩) := ⟨_, _, _, rfl⟩
  rw [move, hopen]
  refine h.streamed rfl rfl (pushed_changed (fun c hc v hv => ?_) (fun _ => rfl) fun c v hv => ?_)
    h.delivered
  · rcases List.mem_append.mp hc with hold | hnew
    · exact h.pending c hold v hv
    · obtain rfl := List.mem_singleton.mp hnew
      cases hv
  · simpa using hv

theorem Told.disconnect (h : t.Told P) (id : String) : (t.move p (.disconnect id)).Told P := by
  rw [move]
  cases hc : t.hub.streamed? id with
  | none =>
      rw [Hub.endStream_ended hc]
      exact h
  | some c =>
      obtain ⟨server, hend⟩ := Hub.endStream_on hc
      rw [hend]
      exact h.streamed rfl rfl (pushed_changed h.pending (fun _ => rfl) fun _ _ hv => hv) h.delivered

theorem Told.read (h : t.Told P) (id : String) : (t.move p (.read id)).Told P := by
  rw [move]
  cases hc : t.hub.streamed? id with
  | none =>
      rw [Hub.readEvent_ended hc]
      exact h
  | some c =>
      obtain ⟨hmem, rfl, -⟩ := Hub.streamed?_some hc
      have hchannels : ∀ c' ∈ Hub.change c.id (fun c => { c with
          pending := c.pending.tail, stream := .begun }) t.hub.channels,
          ∀ v, .message v ∈ c'.pending → t.Pushed c'.id v :=
        pushed_changed h.pending (fun _ => rfl) fun _ _ hv => List.mem_of_mem_tail hv
      rw [Hub.readEvent_on hc]
      cases hpending : c.pending with
      | nil => exact h.streamed rfl rfl hchannels h.delivered
      | cons e rest =>
          refine h.streamed rfl rfl hchannels fun id v hv => ?_
          rcases List.mem_append.mp hv with hold | hnew
          · exact h.delivered id v hold
          · obtain ⟨rfl, rfl⟩ := Prod.mk.inj (List.mem_singleton.mp hnew)
            exact h.pending c hmem v (hpending ▸ List.mem_cons_self)

/-! ## Messages -/

theorem Told.post (h : t.Told P) (query : String) (body : Octets) :
    (t.move p (.post query body)).Told P where
  outcomes q hq v hv := by
    rcases List.mem_append.mp hq with hold | hnew
    · exact h.outcomes q hold v hv
    · obtain rfl := List.mem_singleton.mp hnew
      cases hv
  pushes := h.pushes
  pending := h.pending
  delivered := h.delivered

theorem Told.process (h : t.Told P)
    (hP : ∀ body s v, ((p.octets body).on s).1 = .ok (some v) → P v) (n : Nat) (q : Post) :
    (t.process p n q).Told P where
  outcomes q' hq' v hv := by
    rcases List.mem_or_eq_of_mem_set hq' with hold | rfl
    · exact h.outcomes q' hold v hv
    · exact hP q.body t.hub.server v (Option.some.inj hv)
  pushes := h.pushes
  pending := h.pending
  delivered := h.delivered

theorem Told.finish (h : t.Told P) {n : Nat} {q : Post} {response : Option Json}
    (hq : t.posts[n]? = some q) (houtcome : q.outcome = some (.ok response)) :
    (t.finish n q response).Told P := by
  have houtcomes {answer : Option (Except Fault HttpResponse)} (q' : Post)
      (hq' : q' ∈ t.posts.set n { q with answer }) (v : Json)
      (hv : q'.outcome = some (.ok (some v))) : P v := by
    rcases List.mem_or_eq_of_mem_set hq' with hold | rfl
    · exact h.outcomes q' hold v hv
    · exact h.outcomes q (List.mem_of_getElem? hq) v hv
  unfold Traffic.finish
  cases hc : Service.channelOf q.query with
  | none =>
      obtain ⟨answer, hsent⟩ := Service.finish_back response t.hub
      rw [hsent]
      dsimp only
      rw [List.append_nil]
      exact ⟨houtcomes, h.pushes, h.pending, h.delivered⟩
  | some id =>
      cases response with
      | none =>
          dsimp only
          rw [List.append_nil]
          exact ⟨houtcomes, h.pushes, h.pending, h.delivered⟩
      | some v =>
          have hkept {id' : String} {w : Json} (hw : t.Pushed id' w) :
              ∃ q' ∈ t.pushes ++ [⟨n, id, v⟩], q'.channel = id' ∧ q'.response = w := by
            obtain ⟨q', hq', hpushed⟩ := hw
            exact ⟨q', List.mem_append_left _ hq', hpushed⟩
          refine ⟨houtcomes, fun q' hq' => ?_, fun c hc w hw => ?_,
            fun id' w hw => hkept (h.delivered id' w hw)⟩
          · rcases List.mem_append.mp hq' with hold | hnew
            · exact h.pushes q' hold
            · obtain rfl := List.mem_singleton.mp hnew
              exact h.outcomes q (List.mem_of_getElem? hq) v houtcome
          · obtain ⟨c₀, hmem, ⟨hid, rfl⟩ | ⟨-, rfl⟩⟩ := Hub.mem_change hc
            · rcases List.mem_append.mp hw with hold | hnew
              · exact hkept (h.pending c₀ hmem w hold)
              · obtain ⟨⟩ := List.mem_singleton.mp hnew
                exact ⟨⟨n, id, v⟩, List.mem_append_right _ List.mem_cons_self, hid.symm, rfl⟩
            · exact hkept (h.pending c hmem w hw)

/-! ## Runs -/

theorem Told.move (h : t.Told P) (hP : ∀ body s v, ((p.octets body).on s).1 = .ok (some v) → P v)
    (m : Move) : (t.move p m).Told P := by
  cases m with
  | openStream => exact h.openStream
  | disconnect id => exact h.disconnect id
  | read id => exact h.read id
  | post query body => exact h.post query body
  | process n =>
      rcases move_process p t n with hsame | ⟨q, -, -, hmove⟩
      · rwa [hsame]
      · rw [hmove]
        exact h.process hP n q
  | finish n =>
      rcases move_finish p t n with hsame | ⟨q, response, hq, houtcome, -, hmove⟩
      · rwa [hsame]
      · rw [hmove]
        exact h.finish hq houtcome

/-- A property of all responses is one of all responses in the traffic. -/
theorem Told.run (hP : ∀ body s v, ((p.octets body).on s).1 = .ok (some v) → P v) :
    ∀ (moves : List Move) {t : Traffic ε}, t.Told P → (run p moves t).Told P
  | [], _, h => h
  | m :: rest, _, h => Told.run hP rest (h.move hP m)

theorem told_start {h : Hub ε} (hnone : h.channels = []) : ({ hub := h } : Traffic ε).Told P where
  outcomes _ hq := absurd hq List.not_mem_nil
  pushes _ hq := absurd hq List.not_mem_nil
  pending c hc := by
    rw [hnone] at hc
    exact absurd hc List.not_mem_nil
  delivered _ _ hv := absurd hv List.not_mem_nil

end Traffic

/-- **Lines and events can be told apart and read back.**  What is written for an input is, split
at line feeds, one line for each response to the texts in the input, handled one after another,
and the server is left as they leave it.  The data of every message that is read from a stream
are without line ends and are read as a response that was put into the channel. -/
theorem responses_framed {ε : Type} (p : Processor ε) :
    (∀ (input : String) (s : Server ε) (responses : List Json),
      ((p.handle input).on s).1 = .ok responses →
        ∃ lines, (p.serve input).on s = (.ok lines, ((p.handle input).on s).2) ∧
          Text.splitAt '\n' (Text.written lines) = lines.map String.toList ++ [[]] ∧
          lines.map Json.parse = responses.map .ok) ∧
    ∀ (h : Hub ε) (moves : List Move), h.channels = [] →
      let t := Traffic.run p moves { hub := h }
      ∀ id v, (id, .message v) ∈ t.delivered →
        t.Pushed id v ∧ ∃ text, (ChannelEvent.message v).data = .ok text ∧
          '\n' ∉ text.toList ∧ '\r' ∉ text.toList ∧ Json.parse text = .ok v := by
  refine ⟨fun input s responses hok => ?_, fun h moves hnone => ?_⟩
  · have hlined := p.handle_all (fun text s v hv => p.payload_lined (.text text) s hv) hok
    refine ⟨responses.map (Json.text .spaced), p.serve_handle hok,
      Text.splitAt_written fun line hline => ?_, ?_⟩
    · obtain ⟨v, hv, rfl⟩ := List.mem_map.mp hline
      exact (hlined v hv).lineFeed
    · rw [List.map_map]
      exact List.map_congr_left fun v hv => (hlined v hv).read
  · intro t id v hv
    have htold := Traffic.Told.run (P := fun v => v.Lined (Json.text .spaced v))
      (fun body s v hv => p.payload_lined (.octets body) s hv) moves (Traffic.told_start hnone)
    have hpushed := htold.delivered id v hv
    refine ⟨hpushed, Json.text .spaced v, ?_⟩
    obtain ⟨q, hq, -, rfl⟩ := hpushed
    have hlined := htold.pushes q hq
    exact ⟨hlined.written, hlined.lineFeed, hlined.carriageReturn, hlined.read⟩

/-- Two messages among blank lines and a notification, and a message whose response is read from a
stream; the ids hold line ends, quotes and a double. -/
theorem responses_framed_awkward :
    let p : Processor Ink.Shelf := { box := Ink.toolbox false none none }
    let ping (id : String) := "\x7b\"id\": " ++ id ++ ", \"method\": \"ping\"\x7d"
    let notice := "\x7b\"method\": \"ping\"\x7d"
    let input := " " ++ ping "[1e3, \"\u2028\\n\"]" ++ "\r\n\n" ++ notice ++ "\n" ++ ping "\"\\\"\""
    let first := resultResponse (.arr [.float (.ofInt 1000), .str "\u2028\n"]) (.obj [])
    let second := resultResponse (.str "\"") (.obj [])
    let h : Hub Ink.Shelf := { server := Ink.idle, ids := Ink.idle.ids }
    let t := Traffic.run p [.openStream, .post "sessionId=0" (ping "\"\\r\\n\"").toUTF8.toList,
      .process 0, .finish 0, .read "0", .read "0"] { hub := h }
    let third := resultResponse (.str "\r\n") (.obj [])
    (∃ lines u, (p.serve input).on Ink.idle = (.ok lines, u) ∧
      lines.map Json.parse = [.ok first, .ok second]) ∧
    h.channels = [] ∧ ("0", .message third) ∈ t.delivered ∧ t.Pushed "0" third := by
  intro p ping notice input first second h t third
  have hread : ("0", .message third) ∈ t.delivered := by decide +kernel
  obtain ⟨lines, hlines, -, hparsed⟩ :=
    (responses_framed p).1 input Ink.idle [first, second] (by decide +kernel)
  obtain ⟨hpushed, -⟩ := (responses_framed p).2 h _ rfl "0" third hread
  exact ⟨⟨lines, _, hlines, hparsed⟩, rfl, hread, hpushed⟩

end StoryServer
