import StoryServer.Proofs.Bridge.Wire

/-!
# What is queued

Which lines a bridge can still take from its process, and for which calls they are.  A call has at
most one line (`Numbered`), and the lines that have arrived or can arrive are few and for one call
(`Holds`).  The other side keeps both.  Writing a command lets in one line, which is for this
command (`holds_receive`), and reading takes the line out (`holds_read`).
-/

namespace StoryServer

namespace Bridge

namespace Wire

variable {σ : Type} {id : StoryId} {call next most : Nat} {w : Wire σ}

/-- The bridge has a process. -/
def Known (id : StoryId) (w : Wire σ) : Prop := id < w.stage.engine.processes.length

/-- No call has two lines, and none is for a call to come. -/
def Numbered (next : Nat) (w : Wire σ) : Prop :=
  (w.replies.map Prod.fst ++ w.owed).Nodup ∧ ∀ c ∈ w.replies.map Prod.fst ++ w.owed, c < next

/-- There are at most so many lines that have arrived or can arrive, and all of them are for one
call: lines first, and then what is no line, once nothing is read any more. -/
structure Held (call most : Nat) (id : StoryId) (w : Wire σ) (lines : List String)
    (stops : List Arrival) : Prop where
  arrivals : (w.process id).arrivals = lines.map .line ++ stops
  noLine : ∀ a ∈ stops, ∀ line, a ≠ .line line
  paired : ∀ line ∈ lines, (call, line) ∈ w.replies
  few : lines.length ≤ most
  /-- While output is read, more may come. -/
  more : (w.process id).reading = true → stops = [] ∧
    (∀ line ∈ w.underway, (call, line) ∈ w.replies) ∧ (∀ c ∈ w.owed, c = call) ∧
    lines.length + w.underway.length + w.owed.length ≤ most

def Holds (call most : Nat) (id : StoryId) (w : Wire σ) : Prop :=
  ∃ lines stops, Held call most id w lines stops

/-! ## Nothing is lost while things happen -/

theorem process_alter (hk : Known id w) (f : Process → Process) :
    (w.alter id f).process id = f (w.process id) := World.look_change hk

theorem known_alter (hk : Known id w) (f : Process → Process) : Known id (w.alter id f) := by
  rwa [Known, alter, World.length_change]

/-- A step of the other side leaves alone what belongs to the bridge. -/
structure Still (id : StoryId) (w w' : Wire σ) : Prop where
  known : Known id w'
  attached : (w'.process id).attached = (w.process id).attached
  sent : w'.stage.engine.sent = w.stage.engine.sent

theorem Still.refl (hk : Known id w) : Still id w w := ⟨hk, rfl, rfl⟩

theorem Still.trans {w₁ w₂ w₃ : Wire σ} (h : Still id w₁ w₂) (h' : Still id w₂ w₃) :
    Still id w₁ w₃ :=
  ⟨h'.known, h'.attached.trans h.attached, h'.sent.trans h.sent⟩

theorem still_alter (hk : Known id w) {f : Process → Process}
    (hf : ∀ p, (f p).attached = p.attached) : Still id w (w.alter id f) :=
  ⟨known_alter hk f, by rw [process_alter hk, hf], rfl⟩

theorem still_meanwhile (hk : Known id w) (h : Happening) : Still id w (w.meanwhile id h) := by
  have hcut (last : List Arrival) : Still id w (w.cutOff id last) := by
    rw [cutOff]
    split
    · exact still_alter hk fun _ => rfl
    · exact .refl hk
  cases h with
  | reply call line =>
      rw [meanwhile]
      split
      · exact ⟨hk, rfl, rfl⟩
      · exact .refl hk
  | arrival =>
      rw [meanwhile]
      split
      · exact .refl hk
      · split
        · obtain ⟨hk', ha, hs⟩ := still_alter (w := w) hk
            (f := fun p => { p with arrivals := p.arrivals ++ [.line _] }) fun _ => rfl
          exact ⟨hk', ha, hs⟩
        · exact .refl hk
  | readerFails reason => exact hcut _
  | readerEnds => exact hcut _
  | exits => exact still_alter hk fun _ => rfl
  | stubborn => exact still_alter hk fun _ => rfl

/-- A change of the process that is none of its queue. -/
theorem holds_alter (hk : Known id w) (hw : Holds call most id w) {f : Process → Process}
    (hf : ∀ p, (f p).arrivals = p.arrivals) (hr : ∀ p, (f p).reading = p.reading) :
    Holds call most id (w.alter id f) := by
  obtain ⟨lines, stops, hw⟩ := hw
  refine ⟨lines, stops, ?_, hw.noLine, hw.paired, hw.few, ?_⟩
  · rw [process_alter hk, hf, hw.arrivals]
  · rw [process_alter hk, hr]
    exact hw.more

/-- Nothing is read after a cut, and what arrives last is no line. -/
theorem holds_cutOff (hk : Known id w) (hw : Holds call most id w) {last : List Arrival}
    (hlast : ∀ a ∈ last, ∀ line, a ≠ .line line) : Holds call most id (w.cutOff id last) := by
  obtain ⟨lines, stops, hw⟩ := hw
  rw [cutOff]
  split
  · refine ⟨lines, stops ++ last, ?_, ?_, hw.paired, hw.few, ?_⟩
    · rw [process_alter hk, hw.arrivals, List.append_assoc]
    · exact fun a ha => (List.mem_append.mp ha).elim (hw.noLine a) (hlast a)
    · rw [process_alter hk]
      exact fun hr => absurd hr Bool.false_ne_true
  · exact ⟨lines, stops, hw⟩

/-- A line that was owed is under way. -/
theorem holds_reply (hw : Holds call most id w) (c : Nat) (line : String) :
    Holds call most id (w.meanwhile id (.reply c line)) := by
  obtain ⟨lines, stops, hw⟩ := hw
  rw [meanwhile]
  split
  · obtain ⟨hc, -⟩ := ‹c ∈ w.owed ∧ _›
    refine ⟨lines, stops, hw.arrivals, hw.noLine,
      fun l hl => List.mem_append_left _ (hw.paired l hl), hw.few, fun hr => ?_⟩
    obtain ⟨hstops, hunderway, howed, hfew⟩ := hw.more hr
    obtain rfl := howed c hc
    refine ⟨hstops, fun l hl => ?_, fun d hd => howed d (List.mem_of_mem_erase hd), ?_⟩
    · rcases List.mem_append.mp hl with hl | hl
      · exact List.mem_append_left _ (hunderway l hl)
      · obtain rfl := List.mem_singleton.mp hl
        exact List.mem_append_right _ List.mem_cons_self
    · have hpos : 0 < w.owed.length := List.length_pos_of_mem hc
      simp only [List.length_append, List.length_singleton, List.length_erase_of_mem hc]
      omega
  · exact ⟨lines, stops, hw⟩

/-- A line that was under way has arrived. -/
theorem holds_arrival (hk : Known id w) (hw : Holds call most id w) :
    Holds call most id (w.meanwhile id .arrival) := by
  obtain ⟨lines, stops, hw⟩ := hw
  rw [meanwhile]
  split
  · exact ⟨lines, stops, hw⟩
  · rename_i line rest hunder
    split
    · rename_i hr
      obtain ⟨hstops, hunderway, howed, hfew⟩ := hw.more hr
      rw [hunder] at hunderway hfew
      rw [List.length_cons] at hfew
      refine ⟨lines ++ [line], [], ?_, List.forall_mem_nil _, ?_, ?_, fun _ => ⟨rfl, ?_, howed, ?_⟩⟩
      · have harrivals := hw.arrivals
        rw [hstops, List.append_nil] at harrivals
        rw [List.append_nil, List.map_append]
        exact (congrArg Process.arrivals (process_alter hk _)).trans
          (congrArg (· ++ [.line line]) harrivals)
      · intro l hl
        rcases List.mem_append.mp hl with hl | hl
        · exact hw.paired l hl
        · obtain rfl := List.mem_singleton.mp hl
          exact hunderway l List.mem_cons_self
      · rw [List.length_append, List.length_singleton]
        omega
      · exact fun l hl => hunderway l (List.mem_cons_of_mem line hl)
      · rw [List.length_append, List.length_singleton]
        dsimp only [alter]
        omega
    · exact ⟨lines, stops, hw⟩

/-- What can come is for the same call as before, and there is no more of it. -/
theorem holds_meanwhile (hk : Known id w) (hw : Holds call most id w) (h : Happening) :
    Holds call most id (w.meanwhile id h) := by
  cases h with
  | reply c line => exact holds_reply hw c line
  | arrival => exact holds_arrival hk hw
  | readerFails reason => exact holds_cutOff hk hw (by simp)
  | readerEnds => exact holds_cutOff hk hw (by simp)
  | exits => exact holds_alter hk hw (fun _ => rfl) fun _ => rfl
  | stubborn => exact holds_alter hk hw (fun _ => rfl) fun _ => rfl

theorem numbered_meanwhile (hw : Numbered next w) (h : Happening) :
    Numbered next (w.meanwhile id h) := by
  have hcut (last : List Arrival) : Numbered next (w.cutOff id last) := by
    rw [cutOff]
    split <;> exact hw
  cases h with
  | reply call line =>
      rw [meanwhile]
      split
      · obtain ⟨hc, -⟩ := ‹call ∈ w.owed ∧ _›
        -- the call moves from those that are owed to those that are answered
        have hperm : ((w.replies ++ [(call, line)]).map Prod.fst ++ w.owed.erase call).Perm
            (w.replies.map Prod.fst ++ w.owed) := by
          rw [List.map_append, List.append_assoc]
          exact (List.perm_cons_erase hc).symm.append_left _
        exact ⟨hperm.nodup_iff.mpr hw.1, fun c hmem => hw.2 c (hperm.mem_iff.mp hmem)⟩
      · exact hw
  | arrival =>
      rw [meanwhile]
      split
      · exact hw
      · split <;> exact hw
  | readerFails reason => exact hcut _
  | readerEnds => exact hcut _
  | exits => exact hw
  | stubborn => exact hw

section Pass

variable (happenings : List Happening)

theorem still_pass (hk : Known id w) : Still id w (w.pass id happenings) := by
  rw [pass]
  induction happenings generalizing w with
  | nil => exact .refl hk
  | cons h rest ih =>
      have hstep := still_meanwhile hk h
      exact hstep.trans (ih hstep.known)

theorem holds_pass (hk : Known id w) (hw : Holds call most id w) :
    Holds call most id (w.pass id happenings) := by
  rw [pass]
  induction happenings generalizing w with
  | nil => exact hw
  | cons h rest ih => exact ih (still_meanwhile hk h).known (holds_meanwhile hk hw h)

theorem numbered_pass (hw : Numbered next w) : Numbered next (w.pass id happenings) := by
  rw [pass]
  induction happenings generalizing w with
  | nil => exact hw
  | cons h rest ih => exact ih (numbered_meanwhile hw h)

end Pass

/-! ## Writing -/

/-- Where no line is held, nothing is under way while output is read. -/
theorem Held.nothing {lines : List String} {stops : List Arrival}
    (hw : Held call 0 id w lines stops) (hr : (w.process id).reading = true) :
    stops = [] ∧ w.underway = [] ∧ w.owed = [] := by
  obtain ⟨hstops, -, -, hfew⟩ := hw.more hr
  exact ⟨hstops, List.length_eq_zero_iff.mp (by omega), List.length_eq_zero_iff.mp (by omega)⟩

theorem holds_none (other : Nat) (hw : Holds call 0 id w) : Holds other 0 id w := by
  obtain ⟨lines, stops, hw⟩ := hw
  obtain rfl := List.length_eq_zero_iff.mp (Nat.le_zero.mp hw.few)
  refine ⟨[], stops, hw.arrivals, hw.noLine, nofun, Nat.le_refl _, fun hr => ?_⟩
  obtain ⟨hstops, hunderway, howed⟩ := hw.nothing hr
  rw [hunderway, howed]
  exact ⟨hstops, nofun, nofun, Nat.le_refl _⟩

/-- Nothing holds more lines than it did when what is queued and under way is the same. -/
theorem holds_congr {w' : Wire σ} (hw : Holds call most id w)
    (ha : (w'.process id).arrivals = (w.process id).arrivals)
    (hr : (w'.process id).reading = (w.process id).reading) (hreplies : w'.replies = w.replies)
    (hunderway : w'.underway = w.underway) (howed : w'.owed = w.owed) : Holds call most id w' := by
  obtain ⟨lines, stops, hw⟩ := hw
  refine ⟨lines, stops, ha.trans hw.arrivals, hw.noLine, ?_, hw.few, ?_⟩
  · rw [hreplies]
    exact hw.paired
  · rw [hr, hreplies, hunderway, howed]
    exact hw.more

section Write

variable {peer : Peer σ} {line : String}

/-- What writing does to a wire. -/
theorem write_step (peer : Peer σ) (line : String) (call : Nat) (hk : Known id w) :
    ∃ stage : Stage (World σ), Known id { w with stage } ∧
    stage.engine.sent = line :: w.stage.engine.sent ∧
    (stage.engine.look id).bare =
      ((w.process id).undergo (peer.react id line w.stage.engine.peer).1).bare ∧
    (write peer id call line).on w =
      match World.written (peer.react id line w.stage.engine.peer).1 with
      | .error f => (.error f, { w with stage })
      | .ok _ => (.ok (), receive call (peer.react id line w.stage.engine.peer).1 { w with stage }) := by
  obtain ⟨f, log, hon, hf⟩ := World.write_on peer id line w.stage
  have hlook : ((World.onWay peer id line w.stage).engine.change id f).look id =
      f (w.process id) := World.look_change hk
  refine ⟨⟨(World.onWay peer id line w.stage).engine.change id f, log⟩, ?_, rfl, ?_, ?_⟩
  · rw [Known, World.length_change]
    exact hk
  · rw [hlook]
    exact hf _
  · rw [write_on, hon]
    cases World.written (peer.react id line w.stage.engine.peer).1 <;> rfl

/-- A line that is written is sent, whatever comes of it. -/
structure Wrote (id : StoryId) (line : String) (w w' : Wire σ) : Prop where
  known : Known id w'
  attached : (w'.process id).attached = (w.process id).attached
  sent : w'.stage.engine.sent = line :: w.stage.engine.sent

theorem write_wrote (hk : Known id w) {r : Except Fault Unit} {w' : Wire σ}
    (h : (write peer id call line).on w = (r, w')) : Wrote id line w w' := by
  obtain ⟨stage, hknown, hsent, hbare, hon⟩ := write_step peer line call hk
  have hattached : (stage.engine.look id).attached = (w.process id).attached :=
    (Process.fields_of_bare hbare).2.1.trans (Process.attached_undergo _ _)
  rw [hon] at h
  split at h <;> cases h <;> exact ⟨hknown, hattached, hsent⟩

/-- How writing fails: the process never takes the line, or the pipe to it is broken. -/
theorem written_error {r : Reaction} {f : Fault} (h : World.written r = .error f) :
    (f = .endless ∧ r.stuck = true) ∨
      ∃ reason, f = .bridge (.writeFailed reason) ∧ r.stuck = false ∧ r.broken = some reason := by
  rw [World.written] at h
  split at h
  · next hstuck => cases h; exact .inl ⟨rfl, hstuck⟩
  · next hstuck =>
    split at h <;> cases h
    next reason hbroken => exact .inr ⟨reason, rfl, by simpa using hstuck, hbroken⟩

theorem written_ok {r : Reaction} (h : World.written r = .ok ()) :
    r.stuck = false ∧ r.broken = none := by
  rw [World.written] at h
  split at h
  · cases h
  · next hstuck =>
    split at h <;> cases h
    next hbroken => exact ⟨by simpa using hstuck, hbroken⟩

/-- A command that could not be written changes nothing about what is queued. -/
theorem queue_unwritten {r : Reaction} {f : Fault} (h : World.written r = .error f)
    (p : Process) : (p.undergo r).reading = p.reading ∧ (p.undergo r).arrivals = p.arrivals := by
  rw [Process.undergo]
  obtain ⟨-, hstuck⟩ | ⟨reason, -, hstuck, hbroken⟩ := written_error h
  · rw [if_pos hstuck]
    exact ⟨rfl, rfl⟩
  · rw [if_neg (by simp [hstuck]), hbroken]
    exact ⟨rfl, rfl⟩

theorem undergo_written {r : Reaction} (h : World.written r = .ok ()) (p : Process) :
    p.undergo r = p.after r := by
  obtain ⟨hstuck, hbroken⟩ := written_ok h
  rw [Process.undergo, if_neg (by simp [hstuck]), hbroken]

theorem write_failed (hk : Known id w) {f : Fault} {w' : Wire σ}
    (h : (write peer id call line).on w = (.error f, w')) :
    World.written (peer.react id line w.stage.engine.peer).1 = .error f ∧
      (Numbered next w → Numbered next w') ∧ (Holds call most id w → Holds call most id w') := by
  obtain ⟨stage, -, -, hbare, hon⟩ := write_step peer line call hk
  rw [hon] at h
  cases hwritten : World.written (peer.react id line w.stage.engine.peer).1 with
  | ok _ =>
      rw [hwritten] at h
      cases h
  | error f' =>
      rw [hwritten] at h
      cases h
      obtain ⟨hreading', harrivals'⟩ := queue_unwritten hwritten (w.process id)
      obtain ⟨-, -, hreading, harrivals⟩ := Process.fields_of_bare hbare
      exact ⟨rfl, fun hw => hw, fun hw =>
        holds_congr hw (harrivals.trans harrivals') (hreading.trans hreading') rfl rfl rfl⟩

/-- A command that was received has at most one line, for its own call. -/
theorem numbered_receive {r : Reaction} (hr : r.output.length ≤ 1) (hw : Numbered call w) :
    Numbered (call + 1) (receive call r w) := by
  obtain ⟨hnodup, hless⟩ := hw
  have hfresh : call ∉ w.replies.map Prod.fst ++ w.owed := fun h => Nat.lt_irrefl _ (hless call h)
  -- one way or the other, the call is added to those that were there
  have hperm : ((receive call r w).replies.map Prod.fst ++ (receive call r w).owed).Perm
      (call :: (w.replies.map Prod.fst ++ w.owed)) := by
    rw [receive]
    cases hlines : r.output with
    | nil =>
        simp only [List.map_nil, List.append_nil, List.isEmpty_nil, if_true]
        rw [← List.append_assoc]
        exact List.perm_append_singleton _ _
    | cons l rest =>
        rw [hlines, List.length_cons] at hr
        obtain rfl : rest = [] := List.length_eq_zero_iff.mp (by omega)
        simp only [List.map_cons, List.map_nil, List.map_append, List.isEmpty_cons,
          Bool.false_eq_true, if_false, List.append_assoc]
        exact List.perm_middle
  refine ⟨hperm.nodup_iff.mpr (List.nodup_cons.mpr ⟨hfresh, hnodup⟩), fun c hc => ?_⟩
  rcases List.mem_cons.mp (hperm.mem_iff.mp hc) with rfl | hc
  · exact Nat.lt_succ_self _
  · exact Nat.lt_succ_of_lt (hless c hc)

/-- What arrives in a reaction is its lines, and then the end, if that comes. -/
theorem arrivalsOf_split (r : Reaction) : ∃ stops,
    Process.arrivalsOf r = r.output.map .line ++ stops ∧
    (∀ a ∈ stops, ∀ line, a ≠ .line line) ∧
    ((r.readError.isNone && !r.exits) = true → stops = []) := by
  refine ⟨_, rfl, ?_, ?_⟩
  · cases r.readError <;> cases r.exits <;> simp
  · cases r.readError <;> cases r.exits <;> simp

/-- A command that was received lets in one line, which is for its call. -/
theorem holds_receive {r : Reaction} (hr : r.output.length ≤ 1) (hb : World.written r = .ok ())
    {stage : Stage (World σ)} (hlook : (stage.engine.look id).bare = ((w.process id).undergo r).bare)
    (hw : Holds call 0 id w) : Holds call 1 id (receive call r { w with stage }) := by
  obtain ⟨lines, stops, hw⟩ := hw
  obtain rfl := List.length_eq_zero_iff.mp (Nat.le_zero.mp hw.few)
  rw [undergo_written hb] at hlook
  obtain ⟨-, -, hreading, harrivals⟩ := Process.fields_of_bare hlook
  have hqueue := hw.arrivals
  rw [List.map_nil, List.nil_append] at hqueue
  cases hopen : (w.process id).reading with
  | false =>
      -- nothing is read any more
      refine ⟨[], stops, ?_, hw.noLine, List.forall_mem_nil _, Nat.zero_le _, ?_⟩
      · refine harrivals.trans ?_
        rw [Process.after, hopen]
        exact hqueue
      · intro h
        have h : (stage.engine.look id).reading = true := h
        rw [hreading, Process.after, hopen] at h
        cases h
  | true =>
      obtain ⟨rfl, hunderway, howed⟩ := hw.nothing hopen
      obtain ⟨stops, hstops, hnone, hnil⟩ := arrivalsOf_split r
      have harrivals : (stage.engine.look id).arrivals = Process.arrivalsOf r := by
        rw [harrivals, Process.after, hopen, hqueue]
        rfl
      have hstill : (stage.engine.look id).reading = true → stops = [] := by
        rw [hreading, Process.after, hopen, Bool.true_and]
        exact hnil
      refine ⟨r.output, stops, ?_, hnone, ?_, hr, fun h => ⟨hstill h, ?_, ?_, ?_⟩⟩
      · exact harrivals.trans hstops
      · exact fun l hl => List.mem_append_right _ (List.mem_map_of_mem hl)
      · rw [receive, hunderway]
        exact List.forall_mem_nil _
      · rw [receive, howed]
        intro c hc
        dsimp only at hc
        split at hc
        · exact List.mem_singleton.mp hc
        · cases hc
      · rw [receive, hunderway, howed]
        cases hlines : r.output with
        | nil => simp
        | cons l rest => simpa [hlines] using hr

theorem write_received (hk : Known id w)
    (hpeer : (peer.react id line w.stage.engine.peer).1.output.length ≤ 1) {w' : Wire σ}
    (h : (write peer id call line).on w = (.ok (), w')) :
    (Numbered call w → Numbered (call + 1) w') ∧ (Holds call 0 id w → Holds call 1 id w') := by
  obtain ⟨stage, -, -, hbare, hon⟩ := write_step peer line call hk
  rw [hon] at h
  cases hb : World.written (peer.react id line w.stage.engine.peer).1 with
  | error f =>
      rw [hb] at h
      cases h
  | ok _ =>
      rw [hb] at h
      cases h
      exact ⟨fun hw => numbered_receive hpeer hw, fun hw => holds_receive hpeer hb hbare hw⟩

end Write

/-! ## Reading -/

/-- Taking what arrived first takes the line out, if there is one. -/
theorem holds_read {a : Arrival} {rest : List Arrival} (hk : Known id w) (hw : Holds call 1 id w)
    (ha : (w.process id).arrivals = a :: rest) :
    (∀ line, a = .line line → (call, line) ∈ w.replies) ∧
      Holds call 0 id (w.alter id fun p => { p with arrivals := rest }) := by
  obtain ⟨lines, stops, hw⟩ := hw
  have hlook := process_alter hk fun p : Process => { p with arrivals := rest }
  have hqueue := hw.arrivals
  rw [ha] at hqueue
  cases hlines : lines with
  | nil =>
      subst hlines
      have hnone : ∀ b ∈ a :: rest, ∀ line, b ≠ .line line := by
        rw [hqueue]
        exact hw.noLine
      obtain ⟨hfirst, hrest⟩ := List.forall_mem_cons.mp hnone
      refine ⟨fun line h => absurd h (hfirst line), [], rest, ?_, hrest, nofun, Nat.zero_le _, ?_⟩
      · rw [hlook]
        rfl
      · rw [hlook]
        intro hr
        -- what is no line arrives only when nothing more is read
        have hstops : stops = [] := (hw.more hr).1
        rw [hstops] at hqueue
        cases hqueue
  | cons line more =>
      subst hlines
      have hfew := hw.few
      rw [List.length_cons] at hfew
      obtain rfl : more = [] := List.length_eq_zero_iff.mp (by omega)
      cases hqueue
      refine ⟨fun l h => ?_, [], stops, ?_, hw.noLine, nofun, Nat.zero_le _, ?_⟩
      · cases h
        exact hw.paired line List.mem_cons_self
      · rw [hlook]
        rfl
      · rw [hlook]
        intro hr
        obtain ⟨hstops, hunderway, howed, hall⟩ := hw.more hr
        rw [List.length_singleton] at hall
        refine ⟨hstops, hunderway, howed, ?_⟩
        rw [List.length_nil]
        dsimp only [alter]
        omega

/-- How a line is waited for. -/
inductive Read (id : StoryId) (timeout : Json) (w : Wire σ) :
    Except Fault String → Stage (World σ) → Prop
  | arrival {a : Arrival} {rest : List Arrival} (ha : (w.process id).arrivals = a :: rest) :
      Read id timeout w a.read (w.alter id fun p => { p with arrivals := rest }).stage
  | silent {stage : Stage (World σ)} (ha : (w.process id).arrivals = [])
      (hknown : Known id { w with stage }) (hsent : stage.engine.sent = w.stage.engine.sent)
      (hended : (stage.engine.look id).attached = false) :
      Read id timeout w (.error (.timeout timeout)) stage

theorem readLine_read (hk : Known id w) (timeout : Json) : Read id timeout w
    ((World.readLine id timeout).on w.stage).1 ((World.readLine id timeout).on w.stage).2 := by
  cases ha : (w.process id).arrivals with
  | cons a rest =>
      rw [World.readLine_arrival id w.stage timeout ha]
      exact .arrival ha
  | nil =>
      obtain ⟨line, events, hevents, hon⟩ := World.readLine_silent id w.stage timeout ha
      rw [hon]
      refine .silent ha ?_ ?_ ?_
      · rw [Known, World.length_change]
        exact hk
      · exact World.sent_ending hevents
      · exact congrArg Process.attached (World.look_change hk)

end Wire

end Bridge

end StoryServer
