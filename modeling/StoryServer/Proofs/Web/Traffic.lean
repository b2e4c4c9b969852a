import StoryServer.Web.Service

/-!
# Traffic on channels

A message that is posted is taken in three stages: the channel that it names is looked up, it is
processed, and its response is put into the channel or sent back.  A stream is read one event at a
time.  `Move` lists these stages together with the opening and closing of streams, and a run of
traffic is any list of moves: between two stages of one message anything else may happen.  A move
that cannot be made is passed over.

`Traffic` is a hub and a record of what was done on it.  The record is only written; what is done
is done by the hub (`post_at_once`, `Hub.Only.reads`).

A stream ends when its client goes away.  Whether an event was taken of it before that is up to what
serves the streams, which is no part of this library: `Begun` says that it does.
-/

namespace StoryServer

/-! ## Ids -/

/-- The ids that a supply gives out, in order. -/
def IdSupply.nth : IdSupply → Nat → String
  | ids, 0 => ids.next.1
  | ids, n + 1 => ids.next.2.nth n

theorem IdSupply.nth_numbered : ∀ (n : Nat) {ids : IdSupply}, ids.listed = [] →
    ids.nth n = ids.numbered (ids.given + n)
  | 0, ids, hnone => by
      rw [nth, next, hnone]
      rfl
  | n + 1, ids, hnone => by
      have hnext : ids.next.2 = { ids with given := ids.given + 1 } := by rw [next, hnone]
      rw [nth, hnext, @nth_numbered n { ids with given := ids.given + 1 } hnone]
      exact congrArg ids.numbered (Nat.add_right_comm ids.given 1 n)

/-- Numbered ids are different if the numbers are. -/
theorem IdSupply.nth_injective {ids : IdSupply} (hnone : ids.listed = [])
    (hids : Function.Injective ids.numbered) : Function.Injective ids.nth := by
  intro m n hmn
  rw [nth_numbered m hnone, nth_numbered n hnone] at hmn
  exact Nat.add_left_cancel (hids hmn)

/-! ## Stages of a message -/

namespace Service

variable {ε : Type} (p : Processor ε)

/-- The answer to a message that names a channel which is not open. -/
def refusal? (query : String) (h : Hub ε) : Option (Except Fault HttpResponse) :=
  match channelOf query with
  | some id =>
    if (h.openChannel? id).isNone then
      some (HttpResponse.value 404 (complaint "Session not found or expired"))
    else none
  | none => none

/-- The response put into the channel that was looked up, or sent back. -/
def finish : Option String → Option Json → Act (Hub ε) HttpResponse
  | some id, response => deliver id response
  | none, some response => Act.ofExcept (HttpResponse.value 200 response)
  | none, none => return accepted

/-- A response that is sent back leaves the channels alone. -/
theorem finish_back (response : Option Json) (h : Hub ε) :
    ∃ answer, (finish none response).on h = (answer, h) := by
  cases response with
  | none => exact ⟨_, rfl⟩
  | some v => exact ⟨_, Act.on_ofExcept _ _⟩

theorem refusal_closed {query id : String} {h : Hub ε} (hc : channelOf query = some id)
    (hclosed : (h.openChannel? id).isNone = true) :
    ∃ r : HttpResponse, refusal? query h = some (.ok r) ∧ r.status = 404 := by
  rw [refusal?, hc]
  dsimp only
  rw [if_pos hclosed]
  exact ⟨_, rfl, rfl⟩

/-- A message that is refused is not processed. -/
theorem message_refusal {query : String} {h : Hub ε} {answer : Except Fault HttpResponse}
    (hr : refusal? query h = some answer) (body : Octets) :
    (message p query body).on h = (answer, h) := by
  rw [refusal?] at hr
  rw [message]
  cases hc : channelOf query with
  | none => rw [hc] at hr; cases hr
  | some id =>
      rw [hc] at hr
      dsimp only at hr ⊢
      rw [Act.on_bind, Act.on_get]
      by_cases hclosed : (h.openChannel? id).isNone = true
      · rw [if_pos hclosed] at hr
        dsimp only
        rw [if_pos hclosed, Act.on_ofExcept, Option.some.inj hr]
      · rw [if_neg hclosed] at hr
        cases hr

/-- Any other message is processed, and then its response is put where it belongs. -/
theorem message_stages {query : String} {h : Hub ε} (hr : refusal? query h = none) (body : Octets) :
    (message p query body).on h =
      (do finish (channelOf query) (← Hub.onServer (p.octets body))).on h := by
  rw [refusal?] at hr
  rw [message]
  cases hc : channelOf query with
  | none =>
      dsimp only
      rw [Act.on_bind, Act.on_bind]
      generalize (Hub.onServer (p.octets body)).on h = run
      obtain ⟨response, h'⟩ := run
      cases response with
      | error f => rfl
      | ok response => cases response <;> rfl
  | some id =>
      rw [hc] at hr
      dsimp only at hr ⊢
      rw [Act.on_bind, Act.on_get]
      by_cases hclosed : (h.openChannel? id).isNone = true
      · rw [if_pos hclosed] at hr
        cases hr
      · dsimp only
        rw [if_neg hclosed]
        rfl

end Service

/-! ## Reading -/

namespace Hub

variable {ε : Type}

/-- Takes so many events of a stream, one by one. -/
def readEvents (id : String) : Nat → Act (Hub ε) (List ChannelEvent)
  | 0 => pure []
  | n + 1 => do
    let e ← readEvent id
    return e.toList ++ (← readEvents id n)

/-- One of the channels changed. -/
def change (id : String) (f : Channel → Channel) (channels : List Channel) : List Channel :=
  channels.map fun c => if c.id == id then f c else c

theorem update_on (id : String) (f : Channel → Channel) (h : Hub ε) :
    (update id f).on h = (.ok (), { h with channels := change id f h.channels }) := rfl

theorem readEvent_ended {id : String} {h : Hub ε} (hc : h.streamed? id = none) :
    (readEvent id).on h = (.ok none, h) := by
  rw [readEvent, Act.on_bind, Act.on_get]
  dsimp only
  rw [hc]
  rfl

theorem readEvent_on {id : String} {h : Hub ε} {c : Channel} (hc : h.streamed? id = some c) :
    (readEvent id).on h = (.ok c.pending.head?, { h with
      channels := change id (fun c => { c with pending := c.pending.tail, stream := .begun })
        h.channels }) := by
  rw [readEvent, Act.on_bind, Act.on_get]
  dsimp only
  rw [hc]
  rfl

theorem streamed?_some {h : Hub ε} {id : String} {c : Channel} (hc : h.streamed? id = some c) :
    c ∈ h.channels ∧ c.id = id ∧ c.stream ≠ .ended := by
  have hboth := List.find?_some hc
  rw [Bool.and_eq_true, beq_iff_eq, bne_iff_ne] at hboth
  exact ⟨List.mem_of_find?_eq_some hc, hboth⟩

/-- A channel after all its events were taken. -/
def taken (c : Channel) : Channel :=
  if c.pending.isEmpty then c else { c with pending := [], stream := c.stream.asked }

/-- The only channel with an id, whose stream did not end. -/
structure Only (id : String) (c : Channel) (h : Hub ε) : Prop where
  streamed : h.streamed? id = some c
  only : ∀ c' ∈ h.channels, c'.id = id → c' = c

theorem Only.find {id : String} {c : Channel} {h : Hub ε} (hc : Only id c h) :
    h.channels.find? (·.id == id) = some c := by
  obtain ⟨hmem, hid, -⟩ := streamed?_some hc.streamed
  obtain ⟨c', hc'⟩ : ∃ c', h.channels.find? (·.id == id) = some c' := by
    rw [← Option.isSome_iff_exists, List.find?_isSome]
    exact ⟨c, hmem, beq_iff_eq.mpr hid⟩
  rw [hc', hc.only c' (List.mem_of_find?_eq_some hc') (by simpa using List.find?_some hc')]

theorem Only.take {id : String} {c : Channel} {h : Hub ε} (hc : Only id c h) :
    (takeEvents id).on h = (.ok c.pending, { h with channels := change id taken h.channels }) := by
  rw [takeEvents, Act.on_bind, Act.on_get]
  dsimp only
  rw [hc.find]
  rfl

theorem Only.tail {id : String} {c : Channel} {h : Hub ε} (hc : Only id c h) :
    Only id { c with pending := c.pending.tail, stream := .begun } { h with
      channels := change id (fun c => { c with pending := c.pending.tail, stream := .begun })
        h.channels } where
  streamed := by
    obtain ⟨hmem, hid, -⟩ := streamed?_some hc.streamed
    rw [streamed?, change, List.find?_map]
    have hfirst : h.channels.find? ((fun c : Channel => c.id == id && c.stream != .ended) ∘
        fun c => if c.id == id then { c with pending := c.pending.tail, stream := .begun } else c) =
        some c := by
      rw [← hc.find]
      refine congrArg (fun test => h.channels.find? test) (funext fun c' => ?_)
      by_cases hid' : c'.id = id <;> simp [hid']
    rw [hfirst, Option.map_some, if_pos (beq_iff_eq.mpr hid)]
  only c' hc' hid := by
    obtain ⟨c₀, hmem, rfl⟩ := List.mem_map.mp hc'
    by_cases hsame : c₀.id = id
    · rw [if_pos (beq_iff_eq.mpr hsame), hc.only c₀ hmem hsame]
    · rw [if_neg (by simpa using hsame)] at hid
      exact absurd hid hsame

/-- A change of the only channel is told by what becomes of this one. -/
theorem Only.changed {id : String} {c : Channel} {h : Hub ε} (hc : Only id c h)
    {f g : Channel → Channel} (hfg : f c = g c) : change id f h.channels = change id g h.channels := by
  refine List.map_congr_left fun c' hmem => ?_
  by_cases hid : c'.id = id
  · rw [hc.only c' hmem hid, hfg]
  · simp [hid]

/-- Taking the events of a channel one by one is taking them all. -/
theorem Only.reads {id : String} {n : Nat} : ∀ {h : Hub ε} {c : Channel}, Only id c h →
    c.pending.length = n → (readEvents id n).on h = (takeEvents id).on h := by
  induction n with
  | zero =>
      intro h c hc hn
      have hnil : c.pending = [] := List.eq_nil_of_length_eq_zero hn
      have hsame : change id taken h.channels = h.channels := by
        rw [hc.changed (g := fun c => c) (by rw [taken, hnil]; rfl)]
        exact (List.map_congr_left fun c' _ => ite_self c').trans (List.map_id _)
      rw [hc.take, hsame, hnil]
      rfl
  | succ n ih =>
      intro h c hc hn
      obtain ⟨e, rest, hpending⟩ := List.exists_cons_of_length_eq_add_one hn
      have htail := hc.tail
      have hasked : c.stream.asked = .begun := by
        have hended := (streamed?_some hc.streamed).2.2
        cases hstream : c.stream <;> first | rfl | exact absurd hstream hended
      have hchange : change id taken (change id (fun c => { c with
          pending := c.pending.tail, stream := .begun }) h.channels) = change id taken h.channels := by
        rw [change, change, List.map_map]
        refine (List.map_congr_left fun c' _ => ?_).trans (hc.changed (f := fun c => taken { c with
          pending := c.pending.tail, stream := .begun }) ?_)
        · by_cases hid : c'.id = id <;> simp [hid]
        · rw [taken, taken, hpending, hasked]
          cases rest <;> rfl
      rw [readEvents, Act.on_bind_of_ok (readEvent_on hc.streamed), Act.on_bind,
        ih htail (by rw [List.length_tail, hn]; rfl), htail.take, hc.take, hpending]
      dsimp only
      rw [hchange]
      rfl

end Hub

/-! ## Moves -/

/-- A message that came in. -/
structure Post where
  query : String
  body : Octets
  /-- What processing it came to, if it was processed. -/
  outcome : Option (Except Fault (Option Json)) := none
  /-- What it was answered, if it was answered.  A message whose processing never ends is not. -/
  answer : Option (Except Fault HttpResponse) := none

/-- A response that was put into a channel. -/
structure Push where
  /-- The number of the message. -/
  post : Nat
  channel : String
  response : Json
  deriving DecidableEq, Repr

/-- A hub, and what was done on it. -/
structure Traffic (ε : Type) where
  hub : Hub ε
  /-- The streams that were opened, and those of them that ended since their clients went away. -/
  opened : List String := []
  gone : List String := []
  /-- The messages that came in, in order. -/
  posts : List Post := []
  /-- The responses that were put into channels, in order. -/
  pushes : List Push := []
  /-- The events that were read, in order, each with its channel. -/
  delivered : List (String × ChannelEvent) := []

/-- A step of a client or of the service. -/
inductive Move where
  | openStream
  /-- The client of a stream goes away. -/
  | disconnect (id : String)
  /-- A stream takes its next event. -/
  | read (id : String)
  /-- A message comes in, and its channel is looked up. -/
  | post (query : String) (body : Octets)
  /-- A message is processed. -/
  | process (n : Nat)
  /-- The response to a message is put into the channel or sent back. -/
  | finish (n : Nat)

/-- Whether a move is one of a stream. -/
def Move.onStream : Move → Bool
  | .openStream | .disconnect _ | .read _ => true
  | _ => false

namespace Traffic

variable {ε : Type} (p : Processor ε) (t : Traffic ε)

/-- The events read from a channel. -/
def deliveredTo (id : String) : List ChannelEvent :=
  (t.delivered.filter (·.1 == id)).map (·.2)

/-- The responses put into a channel, as events. -/
def pushedTo (id : String) : List ChannelEvent :=
  (t.pushes.filter (·.channel == id)).map (.message ·.response)

/-- The stage in which a message is processed. -/
def process (n : Nat) (q : Post) : Traffic ε :=
  let (outcome, hub) := (Hub.onServer (p.octets q.body)).on t.hub
  -- a message that cannot be processed is answered with the fault
  let answer := match outcome with
    | .ok _ | .error .endless => none
    | .error f => some (.error f)
  { t with hub, posts := t.posts.set n { q with outcome := some outcome, answer } }

/-- The stage in which the response to a message is put where it belongs. -/
def finish (n : Nat) (q : Post) (response : Option Json) : Traffic ε :=
  let (answer, hub) := (Service.finish (Service.channelOf q.query) response).on t.hub
  let pushed := match Service.channelOf q.query, response with
    | some channel, some response => [{ post := n, channel, response }]
    | _, _ => []
  { t with hub, posts := t.posts.set n { q with answer := some answer }
           pushes := t.pushes ++ pushed }

def move : Move → Traffic ε
  | .openStream =>
    match Hub.openStream.on t.hub with
    | (.ok id, hub) => { t with hub, opened := t.opened ++ [id] }
    | (.error _, hub) => { t with hub }
  | .disconnect id =>
    match (Hub.endStream id).on t.hub with
    | (.ok true, hub) => { t with hub, gone := t.gone ++ [id] }
    | (_, hub) => { t with hub }
  | .read id =>
    match (Hub.readEvent id).on t.hub with
    | (.ok (some e), hub) => { t with hub, delivered := t.delivered ++ [(id, e)] }
    | (_, hub) => { t with hub }
  | .post query body =>
    { t with posts := t.posts ++ [{ query, body, answer := Service.refusal? query t.hub }] }
  | .process n =>
    match t.posts[n]? with
    | some q =>
      match q.outcome, q.answer with
      | none, none => t.process p n q
      | _, _ => t
    | none => t
  | .finish n =>
    match t.posts[n]? with
    | some q =>
      match q.outcome, q.answer with
      | some (.ok response), none => t.finish n q response
      | _, _ => t
    | none => t

/-- The traffic after some moves. -/
def run : List Move → Traffic ε → Traffic ε
  | [], t => t
  | m :: rest, t => run rest (t.move p m)

/-- Every stream whose client went away has told its endpoint before.  This is what is expected of
what serves the streams: it asks a stream for its first event when it is opened, and it ends the
stream only then. -/
def Begun : Prop := ∀ id ∈ t.gone, t.deliveredTo id ≠ []

instance : Decidable t.Begun :=
  inferInstanceAs (Decidable (∀ id ∈ t.gone, t.deliveredTo id ≠ []))

/-- A message that is posted with nothing in between, if its processing ends. -/
theorem post_at_once (query : String) (body : Octets)
    (hends : ((Service.message p query body).on t.hub).1 ≠ .error .endless) :
    let n := t.posts.length
    let u := run p [.post query body, .process n, .finish n] t
    (u.posts[n]?.bind (·.answer), u.hub) =
      (some ((Service.message p query body).on t.hub).1,
        ((Service.message p query body).on t.hub).2) := by
  have hset (q q' : Post) : (t.posts ++ [q]).set t.posts.length q' = t.posts ++ [q'] := by
    rw [List.set_append_right _ _ (Nat.le_refl _), Nat.sub_self]
    rfl
  cases hr : Service.refusal? query t.hub with
  | some answer =>
      rw [Service.message_refusal p hr body]
      simp [run, move, hr]
  | none =>
      rw [Service.message_stages p hr body, Act.on_bind] at hends ⊢
      simp only [run, move, hr, List.getElem?_concat_length, process, hset]
      generalize (Hub.onServer (p.octets body)).on t.hub = run at hends ⊢
      obtain ⟨outcome, h⟩ := run
      cases outcome with
      | error f => cases f <;> first | exact absurd rfl hends | simp
      | ok response => simp [finish]

end Traffic

end StoryServer
