import StoryServer.Proofs.Bridge.Pairing

/-!
# What a command is answered with

A command is meant to be answered with an object, or to fail as one to a bridge or as one that took
too long.  `send_classified` says when it is and when it is not.

*What is heard.*  Before an answer is looked at, a command has come to one of a few things: the
process is not running, or never takes the command, or cannot be written to, or says nothing in
time, or something arrives from it (`Heard`).  `Wire.heard` finds out which, whatever else happens
in between.  A command that is never taken is never answered: how long an answer may take is looked
at only after the command was written.

*Lines.*  A line that is an object with no error in it is the answer (`Verdict`).  A line that is
no JSON is reported as malformed, but not so every malformed line: one that holds another value
than an object is asked for members that it has not, one with too long a number is refused by
the reader of numbers, and one with too many levels has the reader run out of room (`Unforeseen`).
These three failures are not the bridge's.
-/

namespace StoryServer

namespace Bridge

/-! ## Lines -/

/-- What a line is answered with, with room for so many levels. -/
inductive Verdict (room : Nat) (line : String) : Except Fault Fields → Prop
  | object {fields : Fields} (h : Json.parseText (.within room) line = .ok (.obj fields))
      (hstatus : fields.get? "status" ≠ some (.str "error")) : Verdict room line (.ok fields)
  | refused {fields : Fields} (h : Json.parseText (.within room) line = .ok (.obj fields))
      (hstatus : fields.get? "status" = some (.str "error")) :
      Verdict room line (.error (.bridge (.refused
        ((fields.get? "message").getD (.str "unknown bridge error")))))
  | malformed {complaint : Json.Complaint} {position : Nat}
      (h : Json.parseText (.within room) line = .error (.syntaxAt complaint position)) :
      Verdict room line (.error (.bridge (.malformed line)))
  | noObject {v : Json} (h : Json.parseText (.within room) line = .ok v)
      (hv : ∀ fields, v ≠ .obj fields) :
      Verdict room line (.error (.misuse (.noAttribute v.kind "get")))
  | overlong {n : Nat}
      (h : Json.parseText (.within room) line = .error (.number (.tooManyDigits n)))
      (hn : Json.Overlong line.toList n) : Verdict room line (.error (.number (.tooManyDigits n)))
  | tooDeep {kind : Json.Kind} (h : Json.parseText (.within room) line = .error (.tooDeep kind))
      (hdeep : room < Json.brackets line.toList) : Verdict room line (.error (.tooDeep kind))

theorem answer_verdict (room : Nat) (line : String) :
    Verdict room line (World.answer room line) := by
  rw [World.answer]
  cases hparse : Json.parseText (.within room) line with
  | error defect =>
      cases defect with
      | number d =>
          obtain ⟨n, rfl, hn⟩ := Json.number_of_parseText rfl hparse
          exact .overlong hparse hn
      | syntaxAt complaint position => exact .malformed hparse
      | tooDeep kind =>
          obtain ⟨n, hroom, hn⟩ := Json.deep_of_parseText rfl hparse
          cases hroom
          exact .tooDeep hparse hn
  | ok v =>
      cases v with
      | obj fields =>
          change Verdict room line
            (if Fields.get? fields "status" = some (Json.str "error") then _ else _)
          split
          · next hstatus => exact .refused hparse hstatus
          · next hstatus => exact .object hparse hstatus
      | _ => exact .noObject hparse fun _ => Json.noConfusion

/-- The line is JSON and no object, or has too long a number in it, or too many levels. -/
def Unforeseen (room : Nat) (line : String) : Prop :=
  (∃ v, Json.parseText (.within room) line = .ok v ∧ ∀ fields, v ≠ .obj fields) ∨
    (∃ n, Json.parseText (.within room) line = .error (.number (.tooManyDigits n))) ∨
    ∃ kind, Json.parseText (.within room) line = .error (.tooDeep kind)

/-! ## What is heard -/

/-- What a command comes to before an answer is looked at. -/
inductive Heard
  | notRunning
  /-- The process never takes the command. -/
  | unending
  | unwritten (reason : String)
  /-- Nothing arrives in time. -/
  | nothing
  | arrived (a : Arrival)
  deriving DecidableEq, Repr

/-- What a command is answered with, by what is heard. -/
inductive Classified (room : Nat) (timeout : Json) : Heard → Except Fault Fields → Prop
  | notRunning : Classified room timeout .notRunning (.error (.bridge .notRunning))
  | unending : Classified room timeout .unending (.error .endless)
  | unwritten (reason : String) :
      Classified room timeout (.unwritten reason) (.error (.bridge (.writeFailed reason)))
  | nothing : Classified room timeout .nothing (.error (.timeout timeout))
  | closed : Classified room timeout (.arrived .closed) (.error (.bridge .closed))
  | failed (reason : String) :
      Classified room timeout (.arrived (.failed reason)) (.error (.bridge (.readFailed reason)))
  | line {line : String} {result : Except Fault Fields} (h : Verdict room line result) :
      Classified room timeout (.arrived (.line line)) result

/-- A line that is no answer is reported as the bridge's failure just if it is foreseen. -/
theorem Verdict.kind_iff {room : Nat} {line : String} {f : Fault}
    (h : Verdict room line (.error f)) : f ≠ .endless ∧ f.kind ≠ "TimeoutError" ∧
      (f.kind = "BridgeError" ↔ ¬ Unforeseen room line) := by
  have hforeign (kind : String) (hf : f ≠ .endless) (hkind : f.kind = kind)
      (hother : kind ≠ "TimeoutError" ∧ kind ≠ "BridgeError") (hline : Unforeseen room line) :
      f ≠ .endless ∧ f.kind ≠ "TimeoutError" ∧
        (f.kind = "BridgeError" ↔ ¬ Unforeseen room line) := by
    subst hkind
    exact ⟨hf, hother.1, fun h => absurd h hother.2, fun h => absurd hline h⟩
  have hbridge (hf : f ≠ .endless) (hkind : f.kind = "BridgeError")
      (hvalue : ∀ v, Json.parseText (.within room) line = .ok v → ∃ fields, v = .obj fields)
      (hread : ∀ e, Json.parseText (.within room) line = .error e → ∃ c n, e = .syntaxAt c n) :
      f ≠ .endless ∧ f.kind ≠ "TimeoutError" ∧
        (f.kind = "BridgeError" ↔ ¬ Unforeseen room line) := by
    have hline : ¬ Unforeseen room line := by
      rintro (⟨v, hv, hno⟩ | ⟨n, hn⟩ | ⟨kind, hdeep⟩)
      · obtain ⟨fields, rfl⟩ := hvalue v hv
        exact hno fields rfl
      · obtain ⟨c, n, he⟩ := hread _ hn
        cases he
      · obtain ⟨c, n, he⟩ := hread _ hdeep
        cases he
    rw [hkind]
    exact ⟨hf, by decide, fun _ => hline, fun _ => rfl⟩
  cases h with
  | refused h hstatus =>
      exact hbridge nofun rfl (fun v hv => ⟨_, Except.ok.inj (hv.symm.trans h)⟩)
        fun e he => by simp [h] at he
  | malformed h =>
      exact hbridge nofun rfl (fun v hv => by simp [h] at hv)
        fun e he => ⟨_, _, Except.error.inj (he.symm.trans h)⟩
  | noObject h hv => exact hforeign "AttributeError" nofun rfl (by decide) (.inl ⟨_, h, hv⟩)
  | overlong h hn => exact hforeign "ValueError" nofun rfl (by decide) (.inr (.inl ⟨_, h⟩))
  | tooDeep h hdeep =>
      exact hforeign "RecursionError" nofun rfl (by decide) (.inr (.inr ⟨_, h⟩))

namespace Classified

variable {room : Nat} {timeout : Json} {heard : Heard} {result : Except Fault Fields}

/-- The answer is an object just if the line that arrived is this object, with no error in it. -/
theorem ok_iff (h : Classified room timeout heard result) (fields : Fields) :
    result = .ok fields ↔
      ∃ line, heard = .arrived (.line line) ∧
        Json.parseText (.within room) line = .ok (.obj fields) ∧
        fields.get? "status" ≠ some (.str "error") := by
  constructor
  · rintro rfl
    cases h with
    | line h =>
        cases h with
        | object h hstatus => exact ⟨_, rfl, h, hstatus⟩
  · rintro ⟨line, rfl, hparse, hstatus⟩
    cases h with
    | line h =>
        cases h with
        | object h _ =>
            rw [hparse] at h
            cases h
            rfl
        | refused h herror =>
            rw [hparse] at h
            cases h
            exact absurd herror hstatus
        | noObject h hv =>
            rw [hparse] at h
            cases h
            exact absurd rfl (hv fields)
        | malformed h | overlong h | tooDeep h =>
            rw [hparse] at h
            cases h

/-- A command is never answered just if it is never taken. -/
theorem endless_iff (h : Classified room timeout heard result) :
    result = .error .endless ↔ heard = .unending := by
  cases h with
  | line h => exact ⟨fun hf => absurd rfl (Verdict.kind_iff (hf ▸ h)).1, nofun⟩
  | _ => simp

/-- A command fails as promised but for a line that is not foreseen. -/
theorem kind_iff (h : Classified room timeout heard result) {f : Fault} (hf : result = .error f) :
    (f.kind = "TimeoutError" ↔ heard = .nothing) ∧
      (f.kind = "BridgeError" ↔ heard ≠ .nothing ∧ heard ≠ .unending ∧
        ∀ line, heard = .arrived (.line line) → ¬ Unforeseen room line) := by
  cases h with
  | line h =>
      subst hf
      obtain ⟨-, htimeout, hbridge⟩ := h.kind_iff
      simp [htimeout, hbridge]
  | _ =>
      cases hf
      simp [Fault.kind]

end Classified

namespace Wire

variable {σ : Type} (peer : Peer σ) (id : StoryId) {w : Wire σ}

/-- What a command comes to, with its text and what happens between the steps. -/
def heard (number : Nat) (text : String) (gaps : Gaps) (w : Wire σ) : Heard :=
  let first := w.pass id gaps.atFirst
  if (first.process id).alive then
    let second := first.pass id gaps.beforeWriting
    let reaction := (peer.react id (text ++ "\n") second.stage.engine.peer).1
    if reaction.stuck then .unending
    else
      match reaction.broken with
      | some reason => .unwritten reason
      | none =>
        let third := ((write peer id number (text ++ "\n")).on second).2.pass id gaps.beforeReading
        match (third.process id).arrivals with
        | [] => .nothing
        | a :: _ => .arrived a
  else .notRunning

variable {peer id}

theorem known_of_alive (h : (w.process id).alive = true) : Known id w := by
  by_contra hunknown
  have hnone : w.stage.engine.processes[id]? = none :=
    List.getElem?_eq_none (Nat.le_of_not_lt hunknown)
  rw [process, World.look, hnone] at h
  cases h

/-- A line is written unless the process will have none of it. -/
theorem result_write (peer : Peer σ) (hk : Known id w) (call : Nat) (line : String) :
    ((write peer id call line).on w).1 =
      World.written (peer.react id line w.stage.engine.peer).1 := by
  obtain ⟨stage, -, -, -, hon⟩ := write_step peer line call hk
  rw [hon]
  cases World.written (peer.react id line w.stage.engine.peer).1 <;> rfl

/-- A line that the process gives at once is heard, when no other has arrived before it. -/
theorem heard_line {text line : String} {more : List String} {r : Reaction} (number : Nat)
    (halive : (w.process id).alive = true) (hreading : (w.process id).reading = true)
    (hqueue : (w.process id).arrivals = [])
    (hr : (peer.react id (text ++ "\n") w.stage.engine.peer).1 = r)
    (hwritten : World.written r = .ok ()) (hlines : r.output = line :: more) :
    heard peer id number text {} w = .arrived (.line line) := by
  obtain ⟨stage, -, -, hbare, hon⟩ := write_step peer (text ++ "\n") number (known_of_alive halive)
  rw [hr, hwritten] at hon
  rw [hr, undergo_written hwritten] at hbare
  have harrivals : (stage.engine.look id).arrivals = Process.arrivalsOf r := by
    rw [(Process.fields_of_bare hbare).2.2.2, Process.after, hreading, hqueue]
    rfl
  rw [Process.arrivalsOf, hlines, List.map_cons, List.cons_append] at harrivals
  obtain ⟨hstuck, hbroken⟩ := written_ok hwritten
  simp only [heard, pass, List.foldl_nil, halive, if_true, hr, hstuck, hbroken, hon,
    Bool.false_eq_true, if_false]
  dsimp only [receive, process]
  rw [harrivals]

variable (peer id) in
/-- A command is answered by what is heard. -/
theorem send_heard (number : Nat) (w : Wire σ) (gaps : Gaps) (timeout : Json) {command : Json}
    {text : String} (hc : writeJson .ascii command = .ok text) :
    Classified peer.room timeout (heard peer id number text gaps w)
      ((send peer id number timeout command gaps).on w).1 := by
  have houtcome := send_outcome peer id number timeout command gaps w
  generalize (send peer id number timeout command gaps).on w = run at houtcome ⊢
  obtain ⟨result, w'⟩ := run
  dsimp only at houtcome ⊢
  rw [heard]
  cases houtcome with
  | refused h =>
      dsimp only
      rw [if_neg (by simp [h])]
      exact .notRunning
  | unwritable h hf => cases hf.symm.trans hc
  | @broken text' f w' h hc' hw =>
      obtain rfl := Except.ok.inj (hc'.symm.trans hc)
      have hknown := (still_pass gaps.beforeWriting (known_of_alive h)).known
      have hresult := result_write peer hknown number (text' ++ "\n")
      rw [hw] at hresult
      dsimp only
      rw [if_pos h]
      obtain ⟨rfl, hstuck⟩ | ⟨reason, rfl, hstuck, hbroken⟩ := written_error hresult.symm
      · rw [if_pos hstuck]
        exact .unending
      · rw [if_neg (by simp [hstuck]), hbroken]
        exact .unwritten reason
  | @read text' w₁ r stage h hc' hw hr =>
      obtain rfl := Except.ok.inj (hc'.symm.trans hc)
      have hknown := (still_pass gaps.beforeWriting (known_of_alive h)).known
      have hresult := result_write peer hknown number (text' ++ "\n")
      rw [hw] at hresult
      obtain ⟨hstuck, hbroken⟩ := written_ok hresult.symm
      have hwaiting := (still_pass gaps.beforeReading (write_wrote hknown hw).known).known
      have hread := readLine_read hwaiting timeout
      rw [hr] at hread
      dsimp only at hread ⊢
      rw [if_pos h, hw, if_neg (by simp [hstuck]), hbroken]
      dsimp only
      cases hread with
      | @arrival a rest ha =>
          rw [ha]
          cases a with
          | line line => exact .line (answer_verdict peer.room line)
          | failed reason => exact .failed reason
          | closed => exact .closed
      | silent ha =>
          rw [ha]
          exact .nothing

end Wire

end Bridge

end StoryServer
