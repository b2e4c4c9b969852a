import Mathlib.Data.List.Nodup
import StoryServer.Proofs.Tool.Start
import StoryServer.Proofs.Web.Traffic

/-!
# Delivery

The events that a client reads from its channel are the endpoint of the channel and then the
responses to the messages for this channel, each once, in the order in which they were put into
it.  What was put into the channel and not read is still there.

*Streams.*  `Streams` is what holds of the channels: the ids of all channels are different, and each
is as the record tells it (`Recorded`): what was delivered from a channel and what is pending in it
are together the endpoint and what was put into it, and it is open unless its stream told its
endpoint and ended.

*Messages.*  `Numbered` is what holds of the messages: the responses that were put into channels are
those of the messages which named a channel, were processed with a response and were answered.

Every move keeps both (`InOrder.move`), and `responses_delivered` is the account of any run.
-/

namespace StoryServer

/-- The response to the message was put into a channel. -/
def Post.Put (q : Post) (channel : String) (response : Json) : Prop :=
  Service.channelOf q.query = some channel ∧ q.outcome = some (.ok (some response)) ∧
    q.answer = some (.ok Service.accepted)

namespace Hub

variable {ε : Type} {id : String} {f : Channel → Channel}

theorem change_append (xs ys : List Channel) :
    change id f (xs ++ ys) = change id f xs ++ change id f ys := List.map_append

theorem change_free {xs : List Channel} (h : id ∉ xs.map (·.id)) : change id f xs = xs := by
  refine (List.map_congr_left fun c hc => ?_).trans (List.map_id _)
  have hne : c.id ≠ id := fun he => h (he ▸ List.mem_map_of_mem hc)
  simp [hne]

theorem change_ids (hf : ∀ c, (f c).id = c.id) (xs : List Channel) :
    (change id f xs).map (·.id) = xs.map (·.id) := by
  rw [change, List.map_map]
  refine List.map_congr_left fun c _ => ?_
  by_cases hc : c.id = id <;> simp [hc, hf]

theorem mem_change {xs : List Channel} {c : Channel} (h : c ∈ change id f xs) :
    ∃ c₀ ∈ xs, c₀.id = id ∧ c = f c₀ ∨ c₀.id ≠ id ∧ c = c₀ := by
  obtain ⟨c₀, hc₀, rfl⟩ := List.mem_map.mp h
  refine ⟨c₀, hc₀, ?_⟩
  by_cases hid : c₀.id = id <;> simp [hid]

/-- A new stream has an id of its own. -/
theorem openStream_on {h : Hub ε} (hfree : h.ids.next.1 ∉ h.channels.map (·.id)) :
    ∃ server, openStream.on h = (.ok h.ids.next.1, ⟨server,
      h.channels ++ [{ id := h.ids.next.1, pending := [.endpoint h.ids.next.1] }],
      h.ids.next.2⟩) := by
  have hchange : change h.ids.next.1 (fun c => { c with
      pending := c.pending ++ [.endpoint h.ids.next.1] }) (h.channels ++ [{ id := h.ids.next.1 }]) =
      h.channels ++ [{ id := h.ids.next.1, pending := [.endpoint h.ids.next.1] }] := by
    rw [change_append, change_free hfree]
    simp [change]
  rw [← hchange]
  exact ⟨_, rfl⟩

theorem change_change {g : Channel → Channel} (hf : ∀ c, (f c).id = c.id) (xs : List Channel) :
    change id g (change id f xs) = change id (fun c => g (f c)) xs := by
  rw [change, change, List.map_map]
  refine List.map_congr_left fun c _ => ?_
  by_cases hc : c.id = id <;> simp [hc, hf]

theorem closeChannel_on (id : String) (h : Hub ε) :
    ∃ server, (closeChannel id).on h = (.ok (h.openChannel? id).isSome,
      ⟨server, change id (fun c => { c with isOpen := false }) h.channels, h.ids⟩) := by
  rw [closeChannel, Act.on_bind, Act.on_get]
  dsimp only
  rw [Act.on_bind, update_on]
  dsimp only
  cases (h.openChannel? id).isSome <;> exact ⟨_, rfl⟩

theorem endStream_ended {h : Hub ε} (hc : h.streamed? id = none) :
    (endStream id).on h = (.ok false, h) := by
  rw [endStream, Act.on_bind, Act.on_get]
  dsimp only
  rw [hc]
  rfl

/-- A stream that ends closes its channel if it has begun. -/
theorem endStream_on {h : Hub ε} {c : Channel} (hc : h.streamed? id = some c) :
    ∃ server, (endStream id).on h = (.ok true, ⟨server, change id (fun c' => { c' with
      isOpen := c'.isOpen && c.stream != .begun, stream := .ended }) h.channels, h.ids⟩) := by
  rw [endStream, Act.on_bind, Act.on_get]
  dsimp only
  rw [hc]
  dsimp only
  cases hstream : c.stream == .begun with
  | false =>
      rw [if_neg Bool.false_ne_true]
      refine ⟨h.server, ?_⟩
      simp only [bne, hstream, Bool.not_false, Bool.and_true]
      rfl
  | true =>
      obtain ⟨server, hclose⟩ := closeChannel_on id h
      rw [if_pos rfl, Act.on_bind, hclose]
      refine ⟨server, ?_⟩
      simp only [bne, hstream, Bool.not_true, Bool.and_false]
      rw [← change_change (f := fun c => { c with isOpen := false })
        (g := fun c => { c with stream := .ended }) fun _ => rfl]
      rfl

end Hub

namespace Traffic

variable {ε : Type} {p : Processor ε} {t : Traffic ε}

/-! ## What holds of the traffic -/

/-- The channel is as it is told by the record. -/
structure Recorded (t : Traffic ε) (c : Channel) : Prop where
  ended : c.stream = .ended ↔ c.id ∈ t.gone
  begun : c.stream = .begun ↔ c.id ∉ t.gone ∧ t.deliveredTo c.id ≠ []
  isOpen : c.isOpen = true ↔ (c.id ∈ t.gone → t.deliveredTo c.id = [])
  events : t.deliveredTo c.id ++ c.pending = .endpoint c.id :: t.pushedTo c.id

/-- What holds of the channels. -/
structure Streams (t : Traffic ε) : Prop where
  /-- No id is given out twice. -/
  injective : Function.Injective t.hub.ids.nth
  fresh (n : Nat) : t.hub.ids.nth n ∉ t.opened
  ids : t.hub.channels.map (·.id) = t.opened
  nodup : t.opened.Nodup
  gone (id : String) : id ∈ t.gone → id ∈ t.opened
  recorded (c : Channel) : c ∈ t.hub.channels → t.Recorded c
  unopened (id : String) : id ∉ t.opened → t.deliveredTo id = [] ∧ t.pushedTo id = []

/-- What holds of the messages. -/
structure Numbered (t : Traffic ε) : Prop where
  named (q : Post) : q ∈ t.posts → q.answer = none →
    ∀ id, Service.channelOf q.query = some id → id ∈ t.opened
  once : (t.pushes.map (·.post)).Nodup
  pushes (n : Nat) (channel : String) (response : Json) : ⟨n, channel, response⟩ ∈ t.pushes ↔
    ∃ q, t.posts[n]? = some q ∧ q.Put channel response

structure InOrder (t : Traffic ε) : Prop where
  streams : t.Streams
  numbered : t.Numbered

/-! ## Streams -/

/-- What is told of a channel depends on what the record tells of its id. -/
theorem Recorded.congr {u : Traffic ε} {c : Channel} (h : t.Recorded c)
    (hgone : c.id ∈ u.gone ↔ c.id ∈ t.gone) (hdelivered : u.deliveredTo c.id = t.deliveredTo c.id)
    (hpushed : u.pushedTo c.id = t.pushedTo c.id) : u.Recorded c where
  ended := h.ended.trans hgone.symm
  begun := by
    rw [hgone, hdelivered]
    exact h.begun
  isOpen := by
    rw [hgone, hdelivered]
    exact h.isOpen
  events := by
    rw [hdelivered, hpushed]
    exact h.events

theorem Streams.same (h : t.Streams) {c c' : Channel} (hc : c ∈ t.hub.channels)
    (hc' : c' ∈ t.hub.channels) (hid : c.id = c'.id) : c = c' :=
  List.inj_on_of_nodup_map (h.ids ▸ h.nodup) hc hc' hid

theorem Streams.mem_opened (h : t.Streams) {c : Channel} (hc : c ∈ t.hub.channels) :
    c.id ∈ t.opened := h.ids ▸ List.mem_map_of_mem hc

theorem openChannel?_mem {h : Hub ε} {id : String} {c : Channel} (hc : h.openChannel? id = some c) :
    c ∈ h.channels ∧ c.id = id ∧ c.isOpen = true := by
  have hboth := List.find?_some hc
  rw [Bool.and_eq_true, beq_iff_eq] at hboth
  exact ⟨List.mem_of_find?_eq_some hc, hboth⟩

/-- A channel is found until its stream has told its endpoint and ended. -/
theorem Streams.found (h : t.Streams) (id : String) : (t.hub.openChannel? id).isSome = true ↔
    id ∈ t.opened ∧ (id ∈ t.gone → t.deliveredTo id = []) := by
  constructor
  · intro hsome
    obtain ⟨c, hc⟩ := Option.isSome_iff_exists.mp hsome
    obtain ⟨hmem, rfl, hopen⟩ := openChannel?_mem hc
    exact ⟨h.mem_opened hmem, (h.recorded c hmem).isOpen.mp hopen⟩
  · rintro ⟨hopened, htold⟩
    rw [← h.ids] at hopened
    obtain ⟨c, hmem, rfl⟩ := List.mem_map.mp hopened
    rw [Hub.openChannel?, List.find?_isSome]
    exact ⟨c, hmem, by simpa using (h.recorded c hmem).isOpen.mpr htold⟩

/-- The channels that are found are counted. -/
theorem Streams.count (h : t.Streams) : t.hub.openCount =
    (t.opened.filter fun id => id ∈ t.gone → t.deliveredTo id = []).length := by
  rw [Hub.openCount, ← h.ids, List.filter_map, List.length_map]
  refine congrArg List.length (List.filter_congr fun c hc => ?_)
  rw [Bool.eq_iff_iff, (h.recorded c hc).isOpen]
  exact decide_eq_true_iff.symm

/-- A channel is found while its stream did not end, if streams end after they have begun. -/
theorem Streams.found_of_begun (h : t.Streams) (hbegun : t.Begun) (id : String) :
    (t.hub.openChannel? id).isSome = true ↔ id ∈ t.opened ∧ id ∉ t.gone := by
  rw [h.found]
  exact and_congr_right fun _ => ⟨fun htold hgone => hbegun id hgone (htold hgone),
    fun hgone hid => absurd hid hgone⟩

/-- The streams that did not end are counted, if streams end after they have begun. -/
theorem Streams.count_of_begun (h : t.Streams) (hbegun : t.Begun) :
    t.hub.openCount = (t.opened.filter (· ∉ t.gone)).length := by
  rw [h.count]
  refine congrArg List.length (List.filter_congr fun id _ => ?_)
  rw [decide_eq_decide]
  exact ⟨fun htold hgone => hbegun id hgone (htold hgone), fun hgone hid => absurd hid hgone⟩

theorem deliveredTo_append (t : Traffic ε) (hub : Hub ε) (a id : String) (e : ChannelEvent) :
    ({ t with hub, delivered := t.delivered ++ [(a, e)] } : Traffic ε).deliveredTo id =
      t.deliveredTo id ++ if a = id then [e] else [] := by
  rw [deliveredTo, deliveredTo, List.filter_append, List.map_append]
  by_cases h : a = id <;> simp [h]

theorem pushedTo_append (t : Traffic ε) (hub : Hub ε) (posts : List Post) (n : Nat) (a id : String)
    (v : Json) : ({ t with hub, posts, pushes := t.pushes ++ [⟨n, a, v⟩] } : Traffic ε).pushedTo id =
      t.pushedTo id ++ if a = id then [.message v] else [] := by
  rw [pushedTo, pushedTo, List.filter_append, List.map_append]
  by_cases h : a = id <;> simp [h]

theorem Streams.openStream (h : t.Streams) : (t.move p .openStream).Streams := by
  have hfree : t.hub.ids.next.1 ∉ t.opened := h.fresh 0
  obtain ⟨server, hopen⟩ := Hub.openStream_on (h := t.hub) (h.ids ▸ hfree)
  rw [move, hopen]
  dsimp only
  constructor
  case injective => exact fun m n hmn => Nat.succ.inj (h.injective hmn)
  case fresh =>
    intro n hn
    rcases List.mem_append.mp hn with hold | hnew
    · exact h.fresh (n + 1) hold
    · exact Nat.succ_ne_zero n (h.injective (List.mem_singleton.mp hnew))
  case ids => rw [List.map_append, h.ids]; rfl
  case nodup =>
    refine List.nodup_append.mpr ⟨h.nodup, List.nodup_singleton _, ?_⟩
    rintro a ha b hb rfl
    exact hfree (List.mem_singleton.mp hb ▸ ha)
  case gone => exact fun id hid => List.mem_append_left _ (h.gone id hid)
  case recorded =>
    intro c hc
    rcases List.mem_append.mp hc with hold | hnew
    · exact (h.recorded c hold).congr Iff.rfl rfl rfl
    · obtain rfl := List.mem_singleton.mp hnew
      have hgone : t.hub.ids.next.1 ∉ t.gone := fun hid => hfree (h.gone _ hid)
      obtain ⟨hdelivered, hpushed⟩ := h.unopened _ hfree
      exact
        { ended := iff_of_false (by simp) hgone
          begun := iff_of_false (by simp) fun htold => htold.2 hdelivered
          isOpen := ⟨fun _ hid => absurd hid hgone, fun _ => rfl⟩
          events := by
            change t.deliveredTo t.hub.ids.next.1 ++ _ = _ :: t.pushedTo t.hub.ids.next.1
            rw [hdelivered, hpushed]
            rfl }
  case unopened => exact fun id hid => h.unopened id fun hold => hid (List.mem_append_left _ hold)

/-- A change of one channel which keeps what the channels are known by. -/
theorem Streams.changed (h : t.Streams) {u : Traffic ε} {id : String} (f : Channel → Channel)
    (hf : ∀ c, (f c).id = c.id) (hchannels : u.hub.channels = Hub.change id f t.hub.channels)
    (hids : u.hub.ids = t.hub.ids) (hopened : u.opened = t.opened)
    (hgone : ∀ a, a ∈ u.gone → a ∈ t.opened)
    (hothers : ∀ a ≠ id, (a ∈ u.gone ↔ a ∈ t.gone) ∧ u.deliveredTo a = t.deliveredTo a ∧
      u.pushedTo a = t.pushedTo a)
    (hrecorded : ∀ c ∈ t.hub.channels, c.id = id → u.Recorded (f c))
    (hopen : id ∈ t.opened) : u.Streams where
  injective := hids ▸ h.injective
  fresh := by
    rw [hids, hopened]
    exact h.fresh
  ids := by rw [hchannels, Hub.change_ids hf, h.ids, hopened]
  nodup := hopened ▸ h.nodup
  gone := by
    rw [hopened]
    exact hgone
  recorded c hc := by
    rw [hchannels] at hc
    obtain ⟨c₀, hmem, ⟨hid, rfl⟩ | ⟨hne, rfl⟩⟩ := Hub.mem_change hc
    · exact hrecorded c₀ hmem hid
    · obtain ⟨hsame, hdelivered, hpushed⟩ := hothers c.id hne
      exact (h.recorded c hmem).congr hsame hdelivered hpushed
  unopened a ha := by
    rw [hopened] at ha
    obtain ⟨-, hdelivered, hpushed⟩ := hothers a fun he => ha (he ▸ hopen)
    rw [hdelivered, hpushed]
    exact h.unopened a ha

theorem Streams.disconnect (h : t.Streams) (id : String) : (t.move p (.disconnect id)).Streams := by
  rw [move]
  cases hc : t.hub.streamed? id with
  | none =>
      rw [Hub.endStream_ended hc]
      exact h
  | some c =>
      obtain ⟨hmem, rfl, hended⟩ := Hub.streamed?_some hc
      have hopened : c.id ∈ t.opened := h.mem_opened hmem
      have hrec := h.recorded c hmem
      have hlive : c.id ∉ t.gone := fun hid => hended (hrec.ended.mpr hid)
      obtain ⟨server, hend⟩ := Hub.endStream_on hc
      rw [hend]
      refine h.changed (fun c' => { c' with
          isOpen := c'.isOpen && c.stream != .begun, stream := .ended })
        (fun _ => rfl) rfl rfl rfl ?_ (fun a hne => ⟨?_, rfl, rfl⟩) ?_ hopened
      · intro a ha
        rcases List.mem_append.mp ha with hold | hnew
        · exact h.gone a hold
        · exact List.mem_singleton.mp hnew ▸ hopened
      · simp [hne]
      · intro c' hmem' hid
        obtain rfl : c' = c := h.same hmem' hmem hid
        have hgone : c'.id ∈ t.gone ++ [c'.id] := List.mem_append_right _ List.mem_cons_self
        refine ⟨iff_of_true rfl hgone, iff_of_false (by simp) fun htold => htold.1 hgone, ?_,
          hrec.events⟩
        -- the channel was open, and it stays so if nothing was delivered
        have hopen : c'.isOpen = true := hrec.isOpen.mpr fun hid => absurd hid hlive
        have hbegun : c'.stream = .begun ↔ t.deliveredTo c'.id ≠ [] :=
          hrec.begun.trans (and_iff_right hlive)
        dsimp only
        rw [hopen, Bool.true_and, bne_iff_ne, Ne, hbegun, not_not]
        exact ⟨fun hnone _ => hnone, fun hnone => hnone hgone⟩

theorem Streams.read (h : t.Streams) (id : String) : (t.move p (.read id)).Streams := by
  rw [move]
  cases hc : t.hub.streamed? id with
  | none =>
      rw [Hub.readEvent_ended hc]
      exact h
  | some c =>
      obtain ⟨hmem, rfl, hended⟩ := Hub.streamed?_some hc
      have hopened : c.id ∈ t.opened := h.mem_opened hmem
      have hrec := h.recorded c hmem
      have hlive : c.id ∉ t.gone := fun hid => hended (hrec.ended.mpr hid)
      have hopen : c.isOpen = true := hrec.isOpen.mpr fun hid => absurd hid hlive
      have hevents := hrec.events
      have hsame {c' : Channel} (hc' : c' ∈ t.hub.channels) (hid' : c'.id = c.id) : c' = c :=
        h.same hc' hmem hid'
      let f (c : Channel) : Channel := { c with pending := c.pending.tail, stream := .begun }
      rw [Hub.readEvent_on hc]
      cases hpending : c.pending with
      | nil =>
          refine h.changed f (fun _ => rfl) rfl rfl rfl h.gone (fun _ _ => ⟨Iff.rfl, rfl, rfl⟩)
            (fun c' hc' hid' => ?_) hopened
          have hafter : (f c).pending = [] := congrArg List.tail hpending
          rw [hsame hc' hid']
          rw [hpending, List.append_nil] at hevents
          have htold : t.deliveredTo c.id ≠ [] := hevents ▸ List.cons_ne_nil _ _
          exact ⟨iff_of_false (by simp [f]) hlive, iff_of_true rfl ⟨hlive, htold⟩,
            iff_of_true hopen fun hid => absurd hid hlive,
            (congrArg (t.deliveredTo c.id ++ ·) hafter).trans ((List.append_nil _).trans hevents)⟩
      | cons e rest =>
          have hread (a : String) := t.deliveredTo_append ((Hub.readEvent c.id).on t.hub).2 c.id a e
          rw [Hub.readEvent_on hc] at hread
          refine h.changed f (fun _ => rfl) rfl rfl rfl h.gone (fun a hne => ⟨Iff.rfl, ?_, rfl⟩)
            (fun c' hc' hid' => ?_) hopened
          · refine (hread a).trans ?_
            rw [if_neg (Ne.symm hne), List.append_nil]
          · have hafter : (f c).pending = rest := congrArg List.tail hpending
            rw [hsame hc' hid']
            rw [hpending] at hevents
            have htold := (hread c.id).trans (by rw [if_pos rfl])
            refine ⟨iff_of_false (by simp [f]) hlive, iff_of_true rfl ⟨hlive, ?_⟩,
              iff_of_true hopen fun hid => absurd hid hlive, ?_⟩
            · exact htold ▸ List.append_ne_nil_of_right_ne_nil _ (List.cons_ne_nil _ _)
            · refine (congrArg₂ (· ++ ·) htold hafter).trans ?_
              rw [List.append_assoc]
              exact hevents

/-- What was done to the server and to the messages does not matter to the channels. -/
theorem Streams.kept (h : t.Streams) {u : Traffic ε} (hchannels : u.hub.channels = t.hub.channels)
    (hids : u.hub.ids = t.hub.ids) (hopened : u.opened = t.opened) (hgone : u.gone = t.gone)
    (hdelivered : u.delivered = t.delivered) (hpushes : u.pushes = t.pushes) : u.Streams := by
  obtain ⟨⟨server, channels, ids⟩, opened, gone, posts, pushes, delivered⟩ := t
  obtain ⟨⟨server', channels', ids'⟩, opened', gone', posts', pushes', delivered'⟩ := u
  dsimp only at hchannels hids hopened hgone hdelivered hpushes
  subst hchannels hids hopened hgone hdelivered hpushes
  exact ⟨h.injective, h.fresh, h.ids, h.nodup, h.gone,
    fun c hc => (h.recorded c hc).congr Iff.rfl rfl rfl, h.unopened⟩

/-- A response put into a channel. -/
theorem Streams.push (h : t.Streams) {id : String} (hopened : id ∈ t.opened) (n : Nat)
    (posts : List Post) (response : Json) :
    ({ t with
      hub := ((Hub.push id (.message response)).on t.hub).2, posts
      pushes := t.pushes ++ [⟨n, id, response⟩] } : Traffic ε).Streams := by
  have hpushed (a : String) := t.pushedTo_append ((Hub.push id (.message response)).on t.hub).2 posts
    n id a response
  refine h.changed (fun c => { c with pending := c.pending ++ [.message response] }) (fun _ => rfl)
    rfl rfl rfl h.gone (fun a hne => ⟨Iff.rfl, rfl, ?_⟩) (fun c hc hid => ?_) hopened
  · rw [hpushed, if_neg (Ne.symm hne), List.append_nil]
  · subst hid
    have hrec := h.recorded c hc
    refine ⟨hrec.ended, hrec.begun, hrec.isOpen, ?_⟩
    rw [hpushed, if_pos rfl]
    dsimp only
    rw [← List.append_assoc]
    exact congrArg (· ++ [ChannelEvent.message response]) hrec.events

/-! ## Messages -/

theorem Numbered.kept (h : t.Numbered) {u : Traffic ε} (hposts : u.posts = t.posts)
    (hpushes : u.pushes = t.pushes) (hopened : ∀ id ∈ t.opened, id ∈ u.opened) : u.Numbered where
  named q hq hanswer id hid := hopened id (h.named q (hposts ▸ hq) hanswer id hid)
  once := hpushes ▸ h.once
  pushes := by
    rw [hposts, hpushes]
    exact h.pushes

/-- A message whose response was not put into a channel yet goes on. -/
theorem Numbered.set (h : t.Numbered) {n : Nat} {q q' : Post} {u : Traffic ε} {added : List Push}
    (hq : t.posts[n]? = some q) (hposts : u.posts = t.posts.set n q')
    (hpushes : u.pushes = t.pushes ++ added) (hopened : u.opened = t.opened)
    (hanswer : q.answer = none) (hquery : q'.query = q.query)
    (honce : (added.map (·.post)).Nodup)
    (hadded : ∀ m c v, ⟨m, c, v⟩ ∈ added ↔ m = n ∧ q'.Put c v) : u.Numbered := by
  have hlt : n < t.posts.length := (List.getElem?_eq_some_iff.mp hq).1
  have hnot : ∀ {c v}, ¬ ⟨n, c, v⟩ ∈ t.pushes := by
    intro c v hpush
    obtain ⟨q₀, hq₀, -, -, hput⟩ := (h.pushes n c v).mp hpush
    obtain rfl := Option.some.inj (hq.symm.trans hq₀)
    rw [hanswer] at hput
    cases hput
  constructor
  case named =>
    rw [hposts, hopened]
    intro q₀ hq₀ hnone id hid
    rcases List.mem_or_eq_of_mem_set hq₀ with hold | rfl
    · exact h.named q₀ hold hnone id hid
    · exact h.named q (List.mem_of_getElem? hq) hanswer id (hquery ▸ hid)
  case once =>
    rw [hpushes, List.map_append]
    refine List.nodup_append.mpr ⟨h.once, honce, ?_⟩
    rintro m hm m' hm' rfl
    obtain ⟨⟨_, c, v⟩, hold, rfl⟩ := List.mem_map.mp hm
    obtain ⟨⟨_, c', v'⟩, hnew, hsame⟩ := List.mem_map.mp hm'
    obtain ⟨rfl, -⟩ := (hadded _ c' v').mp hnew
    obtain rfl := hsame
    exact hnot hold
  case pushes =>
    intro m c v
    rw [hpushes, hposts, List.mem_append, hadded]
    by_cases hm : m = n
    · subst hm
      rw [List.getElem?_set_self hlt]
      constructor
      · rintro (hold | ⟨-, hput⟩)
        · exact absurd hold hnot
        · exact ⟨q', rfl, hput⟩
      · rintro ⟨_, ⟨⟩, hput⟩
        exact .inr ⟨rfl, hput⟩
    · rw [List.getElem?_set_ne (Ne.symm hm), ← h.pushes]
      exact ⟨fun hold => hold.resolve_right fun hnew => hm hnew.1, .inl⟩

theorem Numbered.post (h : t.Numbered) (hs : t.Streams) (query : String) (body : Octets) :
    (t.move p (.post query body)).Numbered := by
  rw [move]
  constructor
  case named =>
    intro q hq hnone id hid
    rcases List.mem_append.mp hq with hold | hnew
    · exact h.named q hold hnone id hid
    · obtain rfl := List.mem_singleton.mp hnew
      have hid : Service.channelOf query = some id := hid
      have hnone : Service.refusal? query t.hub = none := hnone
      rw [Service.refusal?, hid] at hnone
      exact ((hs.found id).mp (by simpa [Option.isSome_iff_ne_none] using hnone)).1
  case once => exact h.once
  case pushes =>
    intro n c v
    rw [h.pushes]
    dsimp only
    constructor
    · rintro ⟨q, hq, hput⟩
      have hlt := (List.getElem?_eq_some_iff.mp hq).1
      exact ⟨q, (List.getElem?_append_left hlt).trans hq, hput⟩
    · rintro ⟨q, hq, hput⟩
      rw [List.getElem?_append] at hq
      split at hq
      · exact ⟨q, hq, hput⟩
      · -- the new message was not processed yet
        obtain rfl := List.mem_singleton.mp (List.mem_of_getElem? hq)
        cases hput.2.1

/-- A message is processed, and not yet answered if it can be. -/
theorem InOrder.process (h : t.InOrder) {n : Nat} {q : Post} (hq : t.posts[n]? = some q)
    (hanswer : q.answer = none) : (t.process p n q).InOrder where
  streams := h.streams.kept rfl rfl rfl rfl rfl rfl
  numbered := by
    refine h.numbered.set hq rfl (List.append_nil _).symm rfl hanswer rfl List.nodup_nil
      fun m c v => ⟨nofun, ?_⟩
    rintro ⟨-, -, -, hput⟩
    dsimp only at hput
    split at hput <;> cases hput

/-- The response to a message that was processed is put where it belongs. -/
theorem InOrder.finish (h : t.InOrder) {n : Nat} {q : Post} {response : Option Json}
    (hq : t.posts[n]? = some q) (houtcome : q.outcome = some (.ok response))
    (hanswer : q.answer = none) : (t.finish n q response).InOrder := by
  unfold Traffic.finish
  have hset {q' : Post} {u : Traffic ε} (hposts : u.posts = t.posts.set n q')
      (hpushes : u.pushes = t.pushes ++ []) (hopened : u.opened = t.opened)
      (hquery : q'.query = q.query) (hput : ∀ c v, ¬ q'.Put c v) : u.Numbered :=
    h.numbered.set hq hposts hpushes hopened hanswer hquery List.nodup_nil
      fun m c v => ⟨nofun, fun hnew => absurd hnew.2 (hput c v)⟩
  cases hc : Service.channelOf q.query with
  | none =>
      obtain ⟨answer, hsent⟩ := Service.finish_back response t.hub
      rw [hsent]
      refine ⟨h.streams.kept rfl rfl rfl rfl rfl (List.append_nil _), hset rfl rfl rfl rfl ?_⟩
      rintro c v ⟨hchannel, -⟩
      cases hc.symm.trans hchannel
  | some id =>
      cases response with
      | none =>
          refine ⟨h.streams.kept rfl rfl rfl rfl rfl (List.append_nil _), hset rfl rfl rfl rfl ?_⟩
          rintro c v ⟨-, hresponse, -⟩
          cases houtcome.symm.trans hresponse
      | some v =>
          have hopened := h.numbered.named q (List.mem_of_getElem? hq) hanswer id hc
          refine ⟨h.streams.push hopened n _ v,
            h.numbered.set hq rfl rfl rfl hanswer rfl (List.nodup_singleton _) fun m c w => ?_⟩
          rw [List.mem_singleton, Push.mk.injEq]
          constructor
          · rintro ⟨rfl, rfl, rfl⟩
            exact ⟨rfl, hc, houtcome, rfl⟩
          · rintro ⟨rfl, hchannel, hresponse, -⟩
            cases hc.symm.trans hchannel
            cases houtcome.symm.trans hresponse
            exact ⟨rfl, rfl, rfl⟩

/-! ## Runs -/

/-- A move of a stream leaves the messages alone. -/
theorem move_stream {m : Move} (hm : m.onStream = true) :
    (t.move p m).posts = t.posts ∧ (t.move p m).pushes = t.pushes ∧
      ∀ id ∈ t.opened, id ∈ (t.move p m).opened := by
  cases m with
  | openStream =>
      rw [Traffic.move]
      split
      · exact ⟨rfl, rfl, fun id hid => List.mem_append_left _ hid⟩
      · exact ⟨rfl, rfl, fun id hid => hid⟩
  | disconnect id | read id =>
      rw [Traffic.move]
      split <;> exact ⟨rfl, rfl, fun id hid => hid⟩
  | _ => cases hm

theorem move_process (p : Processor ε) (t : Traffic ε) (n : Nat) : t.move p (.process n) = t ∨
    ∃ q, t.posts[n]? = some q ∧ q.answer = none ∧ t.move p (.process n) = t.process p n q := by
  rw [Traffic.move]
  split
  · rename_i q hq
    split
    · rename_i houtcome hanswer
      exact .inr ⟨q, hq, hanswer, rfl⟩
    · exact .inl rfl
  · exact .inl rfl

theorem move_finish (p : Processor ε) (t : Traffic ε) (n : Nat) : t.move p (.finish n) = t ∨
    ∃ q response, t.posts[n]? = some q ∧ q.outcome = some (.ok response) ∧ q.answer = none ∧
      t.move p (.finish n) = t.finish n q response := by
  rw [Traffic.move]
  split
  · rename_i q hq
    split
    · rename_i response houtcome hanswer
      exact .inr ⟨q, response, hq, houtcome, hanswer, rfl⟩
    · exact .inl rfl
  · exact .inl rfl

theorem InOrder.move (h : t.InOrder) (m : Move) : (t.move p m).InOrder := by
  have hstream {m : Move} (hm : m.onStream = true) : (t.move p m).Numbered :=
    h.numbered.kept (move_stream hm).1 (move_stream hm).2.1 (move_stream hm).2.2
  cases m with
  | openStream => exact ⟨h.streams.openStream, hstream rfl⟩
  | disconnect id => exact ⟨h.streams.disconnect id, hstream rfl⟩
  | read id => exact ⟨h.streams.read id, hstream rfl⟩
  | post query body =>
      exact ⟨h.streams.kept rfl rfl rfl rfl rfl rfl, h.numbered.post h.streams query body⟩
  | process n =>
      rcases move_process p t n with hsame | ⟨q, hq, hanswer, hmove⟩
      · rwa [hsame]
      · rw [hmove]
        exact h.process hq hanswer
  | finish n =>
      rcases move_finish p t n with hsame | ⟨q, response, hq, houtcome, hanswer, hmove⟩
      · rwa [hsame]
      · rw [hmove]
        exact h.finish hq houtcome hanswer

theorem InOrder.run : ∀ (moves : List Move) {t : Traffic ε}, t.InOrder → (run p moves t).InOrder
  | [], _, h => h
  | m :: rest, _, h => InOrder.run rest (h.move m)

theorem inOrder_start (server : Server ε) {ids : IdSupply} (hids : Function.Injective ids.nth) :
    ({ hub := { server, ids } } : Traffic ε).InOrder where
  streams :=
    { injective := hids
      fresh := fun _ => List.not_mem_nil
      ids := rfl
      nodup := List.nodup_nil
      gone := fun _ hid => hid
      recorded := fun _ hc => absurd hc List.not_mem_nil
      unopened := fun _ _ => ⟨rfl, rfl⟩ }
  numbered :=
    { named := fun _ hq => absurd hq List.not_mem_nil
      once := List.nodup_nil
      pushes := fun n c v => by simp }

/-- Nothing more is done about a message that was answered. -/
theorem answered_move {n : Nat} {q : Post} (hq : t.posts[n]? = some q)
    (hanswer : q.answer.isSome = true) (m : Move) : (t.move p m).posts[n]? = some q := by
  have hset {k : Nat} {q₀ q' : Post} (hk : t.posts[k]? = some q₀) (hnone : q₀.answer = none) :
      (t.posts.set k q')[n]? = some q := by
    rw [List.getElem?_set_ne, hq]
    rintro rfl
    obtain rfl := Option.some.inj (hq.symm.trans hk)
    rw [hnone] at hanswer
    cases hanswer
  have hstream {m : Move} (hm : m.onStream = true) : (t.move p m).posts[n]? = some q := by
    rw [(move_stream hm).1, hq]
  cases m with
  | openStream => exact hstream rfl
  | disconnect id => exact hstream rfl
  | read id => exact hstream rfl
  | post query body =>
      exact (List.getElem?_append_left (List.getElem?_eq_some_iff.mp hq).1).trans hq
  | process k =>
      rcases move_process p t k with hsame | ⟨q₀, hk, hnone, hmove⟩
      · rwa [hsame]
      · rw [hmove]
        exact hset hk hnone
  | finish k =>
      rcases move_finish p t k with hsame | ⟨q₀, response, hk, -, hnone, hmove⟩
      · rwa [hsame]
      · rw [hmove]
        exact hset hk hnone

theorem answered_run {n : Nat} {q : Post} (hanswer : q.answer.isSome = true) :
    ∀ (moves : List Move) {t : Traffic ε}, t.posts[n]? = some q → (run p moves t).posts[n]? = some q
  | [], _, hq => hq
  | m :: rest, _, hq => answered_run hanswer rest (answered_move hq hanswer m)

/-- After its client went away the stream of a channel has ended. -/
theorem disconnect_gone (h : t.Streams) {id : String}
    (hopened : id ∈ (t.move p (.disconnect id)).opened) : id ∈ (t.move p (.disconnect id)).gone := by
  rw [Traffic.move] at hopened ⊢
  cases hc : t.hub.streamed? id with
  | none =>
      rw [Hub.endStream_ended hc] at hopened ⊢
      obtain ⟨c, hmem, rfl⟩ := List.mem_map.mp (h.ids.symm ▸ hopened)
      refine (h.recorded c hmem).ended.mp ?_
      simpa using List.find?_eq_none.mp hc c hmem
  | some c =>
      obtain ⟨server, hend⟩ := Hub.endStream_on hc
      rw [hend]
      exact List.mem_append_right _ List.mem_cons_self

end Traffic

end StoryServer
