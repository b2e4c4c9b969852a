import StoryServer.Bridge.Engine
import StoryServer.Proofs.Bridge.Queue
import StoryServer.Proofs.Json.Line
import StoryServer.Proofs.Json.Refusal

/-!
# Commands and their replies

What a call of a bridge answers comes from the line that the process gave for this very call.  The
invariant is that no line is left over (`Clear`): between calls, the queue of a bridge that can be
written to holds no line and none can arrive.  Writing a command lets in one line, which is for this
command; reading takes it out, or finds that there will be none, or ends the process.  A process
that was ended stays ended, and is not written to.

The invariant needs that a call which has written also reads, and so it is: the time to wait may be
any, and whether a line comes in it is for the other side to say.
-/

namespace StoryServer

namespace Bridge

/-! ## What is said of a call -/

/-- Whether a fault says that no line was taken for a command. -/
def noLine : Fault → Bool
  | .bridge .notRunning | .bridge (.writeFailed _) | .bridge (.readFailed _) | .bridge .closed => true
  | .timeout _ => true
  -- the command is still being written
  | .endless => true
  -- the command has no text
  | .number .tooLongToWrite | .notFinite => true
  | _ => false

namespace Turn

variable {σ : Type}

/-- What a command is answered with comes from the line for this command, if from any. -/
def Paired (room number : Nat) (t : Turn σ) : Prop := ∀ r, t.result = some r →
  (∃ f, r = .error f ∧ noLine f = true) ∨
    ∃ line, (number, line) ∈ t.after.replies ∧ r = World.answer room line

/-- A command is written as one line, and nothing else is written. -/
def WritesOnce (t : Turn σ) : Prop :=
  t.after.stage.engine.sent = t.before.stage.engine.sent ∨
    ∃ timeout command gaps text, t.call = .send timeout command gaps ∧
      writeJson .ascii command = .ok text ∧ '\n' ∉ text.toList ∧
      t.after.stage.engine.sent = (text ++ "\n") :: t.before.stage.engine.sent

/-- The call ends the process: it closes the bridge, or no line came in time. -/
def Ends (t : Turn σ) : Prop :=
  t.result = none ∨ ∃ timeout, t.result = some (.error (.timeout timeout))

/-- A command is refused as one to a process that is not running, and nothing is written. -/
def Refused (t : Turn σ) : Prop :=
  (∀ r, t.result = some r → r = .error (.bridge .notRunning)) ∧
    t.after.stage.engine.sent = t.before.stage.engine.sent

end Turn

namespace Wire

variable {σ : Type} {peer : Peer σ} {id : StoryId} {number : Nat} {w : Wire σ}

/-! ## One call -/

/-- Whether commands can be written and no line is left over. -/
def Clear (number : Nat) (id : StoryId) (w : Wire σ) : Prop :=
  (w.process id).attached = true → Holds number 0 id w

/-- What one call leaves and answers. -/
structure Step (room number : Nat) (id : StoryId) (w : Wire σ) (t : Turn σ) : Prop where
  known : Known id t.after
  numbered : Numbered number w → Numbered (number + 1) t.after
  paired : Clear number id w → t.Paired room number
  clear : Clear number id w → Clear (number + 1) id t.after
  writes : t.WritesOnce
  ends : t.Ends → (t.after.process id).attached = false
  refused : (w.process id).attached = false → t.Refused ∧ (t.after.process id).attached = false

theorem Numbered.mono {next more : Nat} (h : Numbered next w) (hle : next ≤ more) :
    Numbered more w := ⟨h.1, fun c hc => Nat.lt_of_lt_of_le (h.2 c hc) hle⟩

theorem not_alive (h : (w.process id).attached = false) : (w.process id).alive = false := by
  rw [Process.alive, h, Bool.false_and]

theorem attached_of_alive (h : (w.process id).alive = true) : (w.process id).attached = true := by
  cases ha : (w.process id).attached with
  | true => rfl
  | false => exact absurd (h.symm.trans (not_alive ha)) (by decide)

/-- What a line brings is never a fault that says there was none. -/
theorem noLine_answer {room : Nat} {line : String} {f : Fault}
    (h : World.answer room line = .error f) : noLine f = false := by
  rw [World.answer] at h
  cases hparse : Json.parseText (.within room) line with
  | error defect =>
      rw [hparse] at h
      cases defect with
      | number d =>
          obtain ⟨count, rfl, -⟩ := Json.number_of_parseText rfl hparse
          cases h
          rfl
      | tooDeep kind =>
          cases h
          rfl
      | syntaxAt complaint position =>
          cases h
          rfl
  | ok v =>
      rw [hparse] at h
      cases v with
      | obj fields =>
          change (if Fields.get? fields "status" = some (Json.str "error") then
            (_ : Except Fault Fields) else _) = _ at h
          split at h <;> cases h
          rfl
      | _ =>
          cases h
          rfl

theorem noLine_unwritable {command : Json} {f : Fault} (h : writeJson .ascii command = .error f) :
    noLine f = true ∧ ∀ timeout, f ≠ .timeout timeout := by
  rw [writeJson] at h
  split at h <;> cases h <;> exact ⟨rfl, fun _ => Fault.noConfusion⟩

theorem noLine_written {r : Reaction} {f : Fault} (h : World.written r = .error f) :
    noLine f = true ∧ ∀ timeout, f ≠ .timeout timeout := by
  obtain ⟨rfl, -⟩ | ⟨reason, rfl, -⟩ := written_error h <;> exact ⟨rfl, nofun⟩

theorem noLine_read {a : Arrival} {f : Fault} (h : a.read = .error f) :
    noLine f = true ∧ ∀ timeout, f ≠ .timeout timeout := by
  cases a <;> cases h <;> exact ⟨rfl, nofun⟩

/-- A command that is not written leaves the process to the other side. -/
theorem step_of_still (room : Nat) {call : Call} {w' : Wire σ} {f : Fault} (hstill : Still id w w')
    (hnumbered : Numbered number w → Numbered number w')
    (hholds : Holds number 0 id w → Holds number 0 id w') (hf : noLine f = true)
    (ht : ∀ timeout, f ≠ .timeout timeout)
    (hrefused : (w.process id).attached = false → f = .bridge .notRunning) :
    Step room number id w ⟨call, w, some (.error f), w'⟩ where
  known := hstill.known
  numbered := fun h => (hnumbered h).mono (Nat.le_succ number)
  paired := fun _ r hr => by
    cases hr
    exact .inl ⟨f, rfl, hf⟩
  clear := fun hw ha => holds_none _ (hholds (hw (hstill.attached.symm.trans ha)))
  writes := .inl hstill.sent
  ends := fun h => by
    rcases h with h | ⟨timeout, h⟩
    · cases h
    · cases h
      exact absurd rfl (ht timeout)
  refused := fun ha => by
    refine ⟨⟨fun r hr => ?_, hstill.sent⟩, hstill.attached.trans ha⟩
    cases hr
    rw [hrefused ha]

/-- What comes of waiting for a line. -/
structure Took (number : Nat) (id : StoryId) (timeout : Json) (w : Wire σ) (r : Except Fault String)
    (stage : Stage (World σ)) : Prop where
  known : Known id { w with stage }
  sent : stage.engine.sent = w.stage.engine.sent
  paired : Holds number 1 id w → (∃ f, r = .error f ∧ noLine f = true) ∨
    ∃ line, (number, line) ∈ w.replies ∧ r = .ok line
  clear : Holds number 1 id w → Clear number id { w with stage }
  ends : ∀ t, r = .error (.timeout t) → (stage.engine.look id).attached = false

theorem took_of_read (hk : Known id w) {timeout : Json} {r : Except Fault String}
    {stage : Stage (World σ)} (h : Read id timeout w r stage) : Took number id timeout w r stage := by
  cases h with
  | @arrival a rest ha =>
      refine ⟨known_alter hk _, rfl, fun hw => ?_, fun hw _ => (holds_read hk hw ha).2, fun t h => ?_⟩
      · cases hread : a.read with
        | error f => exact .inl ⟨f, rfl, (noLine_read hread).1⟩
        | ok line =>
            have hline : a = .line line := by
              cases a <;> cases hread
              rfl
            exact .inr ⟨line, (holds_read hk hw ha).1 line hline, rfl⟩
      · exact absurd rfl ((noLine_read h).2 t)
  | silent ha hknown hsent hended =>
      refine ⟨hknown, hsent, fun _ => .inl ⟨_, rfl, rfl⟩, fun _ ha => ?_, fun _ _ => hended⟩
      exact absurd (hended.symm.trans ha) Bool.false_ne_true

/-- What a command leaves and is answered with. -/
theorem send_step (hpeer : ∀ line s, (peer.react id line s).1.output.length ≤ 1) (hk : Known id w)
    (timeout command : Json) (gaps : Gaps) :
    Step peer.room number id w (turn peer id number w (.send timeout command gaps)) := by
  have houtcome := send_outcome peer id number timeout command gaps w
  rw [turn]
  generalize (send peer id number timeout command gaps).on w = run at houtcome ⊢
  obtain ⟨r, w'⟩ := run
  dsimp only at houtcome ⊢
  have hfirst := still_pass gaps.atFirst hk
  have hsecond := still_pass gaps.beforeWriting hfirst.known
  have hstill := hfirst.trans hsecond
  have hnumbered : Numbered number w →
      Numbered number ((w.pass id gaps.atFirst).pass id gaps.beforeWriting) :=
    fun h => numbered_pass _ (numbered_pass _ h)
  have hholds : Holds number 0 id w →
      Holds number 0 id ((w.pass id gaps.atFirst).pass id gaps.beforeWriting) :=
    fun h => holds_pass _ hfirst.known (holds_pass _ hk h)
  cases houtcome with
  | refused h =>
      exact step_of_still _ hfirst (numbered_pass _) (holds_pass _ hk) rfl nofun fun _ => rfl
  | unwritable h hc =>
      obtain ⟨hf, ht⟩ := noLine_unwritable hc
      refine step_of_still _ hfirst (numbered_pass _) (holds_pass _ hk) hf ht fun ha => ?_
      rw [← hfirst.attached, attached_of_alive h] at ha
      cases ha
  | @broken text f w' h hc hw =>
      have hattached : (w.process id).attached = true :=
        hfirst.attached.symm.trans (attached_of_alive h)
      have hwrote := write_wrote hsecond.known hw
      obtain ⟨hfailed, hn, hh⟩ := write_failed hsecond.known hw
      obtain ⟨hf, ht⟩ := noLine_written hfailed
      exact {
        known := hwrote.known
        numbered := fun h => (hn (hnumbered h)).mono (Nat.le_succ number)
        paired := fun _ r hr => by
          cases hr
          exact .inl ⟨_, rfl, hf⟩
        clear := fun hclear _ => holds_none _ (hh (hholds (hclear hattached)))
        writes := .inr ⟨timeout, command, gaps, text, rfl, hc,
          no_lineFeed_of_writeJson Json.ascii_flat hc, by rw [hwrote.sent, hstill.sent]⟩
        ends := by
          rintro (h | ⟨t, h⟩)
          · cases h
          · cases h
            exact absurd rfl (ht t)
        refused := fun ha => by
          rw [hattached] at ha
          cases ha }
  | @read text w₁ r stage h hc hw hr =>
      have hattached : (w.process id).attached = true :=
        hfirst.attached.symm.trans (attached_of_alive h)
      have hwrote := write_wrote hsecond.known hw
      obtain ⟨hn, hh⟩ := write_received hsecond.known (hpeer _ _) hw
      have hpass := still_pass gaps.beforeReading hwrote.known
      have hread := readLine_read hpass.known timeout
      rw [hr] at hread
      have htook : Took number id timeout _ r stage := took_of_read hpass.known hread
      have hone : Clear number id w → Holds number 1 id (w₁.pass id gaps.beforeReading) :=
        fun hclear => holds_pass _ hwrote.known (hh (hholds (hclear hattached)))
      exact {
        known := htook.known
        numbered := fun h => numbered_pass gaps.beforeReading (hn (hnumbered h))
        paired := fun hclear a ha => by
          cases ha
          obtain ⟨f, rfl, hf⟩ | ⟨line, hline, rfl⟩ := htook.paired (hone hclear)
          · exact .inl ⟨f, rfl, hf⟩
          · exact .inr ⟨line, hline, rfl⟩
        clear := fun hclear ha => holds_none _ (htook.clear (hone hclear) ha)
        writes := .inr ⟨timeout, command, gaps, text, rfl, hc,
          no_lineFeed_of_writeJson Json.ascii_flat hc,
          by rw [htook.sent, hpass.sent, hwrote.sent, hstill.sent]⟩
        ends := by
          rintro (h | ⟨t, h⟩)
          · cases h
          · cases r with
            | error f =>
                cases h
                exact htook.ends t rfl
            | ok line =>
                have hanswer := noLine_answer (Option.some.inj h)
                cases hanswer
        refused := fun ha => by
          rw [hattached] at ha
          cases ha }

/-- What closing leaves. -/
theorem close_step (room : Nat) (hk : Known id w) (before : List Happening) :
    Step room number id w (turn peer id number w (.close before)) := by
  have hstill := still_pass before hk
  obtain ⟨events, hevents, hon⟩ := World.terminate_on id (w.pass id before).stage
  have hclose : ((close id before).on w).2 = { w.pass id before with
      stage := { (w.pass id before).stage with
        engine := { (w.pass id before).stage.engine with
          events := events ++ (w.pass id before).stage.engine.events }.change id Process.ended } } := by
    rw [close, Act.on_bind_of_ok (Act.on_modify _ w), onStage_on, hon]
  have hended : (((close id before).on w).2.process id).attached = false := by
    rw [hclose]
    exact congrArg Process.attached (World.look_change hstill.known)
  have hsent : ((close id before).on w).2.stage.engine.sent = w.stage.engine.sent := by
    rw [hclose]
    exact (World.sent_ending hevents).trans hstill.sent
  rw [turn]
  exact {
    known := by
      rw [hclose, Known, World.length_change]
      exact hstill.known
    numbered := fun h => by
      rw [hclose]
      exact (numbered_pass before h).mono (Nat.le_succ number)
    paired := nofun
    clear := fun _ ha => by
      rw [hended] at ha
      cases ha
    writes := .inl hsent
    ends := fun _ => hended
    refused := fun _ => ⟨⟨nofun, hsent⟩, hended⟩ }

theorem turn_step (hpeer : ∀ line s, (peer.react id line s).1.output.length ≤ 1) (hk : Known id w)
    (call : Call) : Step peer.room number id w (turn peer id number w call) := by
  cases call with
  | send timeout command gaps => exact send_step hpeer hk timeout command gaps
  | close before => exact close_step _ hk before

/-! ## All calls -/

theorem before_turn (call : Call) : (turn peer id number w call).before = w := by
  cases call <;> rfl

/-- What one call of many starts from. -/
theorem trail_step (hpeer : ∀ line s, (peer.react id line s).1.output.length ≤ 1)
    {earlier later : List (Turn σ)} {t : Turn σ} : ∀ {calls : List Call} {number : Nat} {w : Wire σ},
    Known id w → trail peer id number calls w = earlier ++ t :: later →
    Step peer.room (number + earlier.length) id t.before t ∧
      (Numbered number w → Numbered (number + earlier.length) t.before) ∧
      (Clear number id w → Clear (number + earlier.length) id t.before) ∧
      ((w.process id).attached = false ∨ (∃ u ∈ earlier, u.Ends) →
        (t.before.process id).attached = false) := by
  induction earlier with
  | nil =>
      intro calls number w hk h
      cases calls with
      | nil => cases h
      | cons call rest =>
          obtain ⟨rfl, -⟩ := List.cons.inj h
          rw [before_turn]
          refine ⟨turn_step hpeer hk call, fun h => h, fun h => h, ?_⟩
          rintro (ha | ⟨u, hu, -⟩)
          · exact ha
          · cases hu
  | cons first earlier ih =>
      intro calls number w hk h
      cases calls with
      | nil => cases h
      | cons call rest =>
          obtain ⟨rfl, hrest⟩ := List.cons.inj h
          have hstep : Step peer.room number id w (turn peer id number w call) := turn_step hpeer hk call
          obtain ⟨ht, hnumbered, hclear, hended⟩ := ih hstep.known hrest
          have hnumber : number + (turn peer id number w call :: earlier).length =
              number + 1 + earlier.length := by
            rw [List.length_cons]
            omega
          rw [hnumber]
          refine ⟨ht, fun hw => hnumbered (hstep.numbered hw), fun hw => hclear (hstep.clear hw), ?_⟩
          · rintro (ha | ⟨u, hu, hends⟩)
            · exact hended (.inl (hstep.refused ha).2)
            · rcases List.mem_cons.mp hu with rfl | hu
              · exact hended (.inl (hstep.ends hends))
              · exact hended (.inr ⟨u, hu, hends⟩)

theorem known_opened (settings : Settings) (stage : Stage (World σ)) :
    Known stage.engine.processes.length (opened settings stage) := by
  have hlength : (opened settings stage).stage.engine.processes.length =
      stage.engine.processes.length + 1 := List.length_append
  rw [Known, hlength]
  exact Nat.lt_succ_self _

theorem process_opened (settings : Settings) (stage : Stage (World σ)) :
    (opened settings stage).process stage.engine.processes.length = {} := by
  have hlast : (stage.engine.processes ++ [({} : Process)])[stage.engine.processes.length]? =
      some {} := List.getElem?_concat_length
  exact congrArg (Option.getD · _) hlast

theorem clear_opened (settings : Settings) (stage : Stage (World σ)) :
    Clear 0 stage.engine.processes.length (opened settings stage) := by
  refine fun _ => ⟨[], [], ?_, nofun, nofun, Nat.le_refl 0, fun _ => ⟨rfl, nofun, nofun, Nat.le_refl 0⟩⟩
  rw [process_opened]
  rfl

end Wire

section

variable {σ : Type} (peer : Peer σ) (settings : Settings) (stage : Stage (World σ))

end

/-! ## Two commands, the first one answered late -/

/-- Owes the line for the first command, and gives one for every later command at once. -/
def tardy : Peer Bool where
  react := fun _ _ later =>
    ({ lines := if later then ["\x7b\"reply\": \"second\"\x7d"] else [] }, true)

/-- The first command.  While its line is waited for, the line is given and arrives. -/
def askFirst : Call :=
  .send (.int 1) (command "first" [])
    { beforeReading := [.reply 0 "\x7b\"reply\": \"first\"\x7d\n", .arrival] }

def askSecond : Call := .send (.int 1) (command "second" []) {}

def firstTurn : Turn Bool := Wire.turn tardy 0 0 (Wire.opened {} ⟨⟨false, [], []⟩, []⟩) askFirst

def secondTurn : Turn Bool := Wire.turn tardy 0 1 firstTurn.after askSecond

end Bridge

end StoryServer
