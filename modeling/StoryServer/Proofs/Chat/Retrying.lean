import Mathlib.Data.ENat.Lattice
import StoryServer.Chat.Author

/-!
# Requests that are made again

A completion makes the same request until it is answered with anything but too many requests, or
until it was made once more than it may be made again.  Between two requests it waits once.

*One attempt.*  An attempt asks; then it either waits, and the next attempt is made
(`attempts_again`), or what was answered is the outcome (`attempts_last`), or it is at an end
because the wait cannot be reckoned or made (`attempts_unreckoned`, `attempts_unmade`).

*A run.*  `Refused` holds of the states that a completion comes to after so many refused requests,
each with its wait behind it.  What was asked and waited up to such a state is read off
(`Refused.events`, `Refused.waits`), and the completion goes on from it as from the beginning with
fewer attempts left (`Refused.attempts`).  How many refusals there are is the smaller of two
numbers: of those that the endpoint gives in a row (`ChatEndpoint.refusals`), and of the requests
that may be made again.  Where all waits can be made the completion ends with the answer behind
them (`completeAt_ended`), else with the first one that cannot (`completeAt_unmade`).
-/

namespace StoryServer

/-! ## Answers -/

namespace ChatAnswer

/-- Whether an answer says that there were too many requests. -/
def isRefusal : ChatAnswer → Bool
  | .status code _ _ => code = 429
  | _ => false

/-- How long to wait, as the answer has it. -/
def header : ChatAnswer → Option String
  | .status _ _ header => header
  | _ => none

/-- The usage that an answer carries. -/
def usage? : ChatAnswer → Option (Int × Int)
  | .completion _ usage => usage
  | _ => none

/-- What a completion comes to when this is the last answer: the text of the first choice, which
may be none but must be there, or the failure. -/
def outcome : ChatAnswer → Except Fault String
  | .completion [] _ => .error .noElement
  | .completion (text :: _) _ => .ok (text.getD "")
  | .status code message _ => .error (.chatStatus code message)
  | .failed message => .error (.chatFailed message)

theorem outcome_ne_unreached (a : ChatAnswer) : a.outcome ≠ .error .chatUnreached := by
  unfold outcome
  split <;> simp

end ChatAnswer

namespace ChatEndpoint

variable {δ : Type} (e : ChatEndpoint δ)

/-- The answer to the request that comes after so many others. -/
def answer (i : Nat) : ChatAnswer := e.answers.getD i e.otherwise

theorem next_eq : e.next = (e.answer 0, { e with answers := e.answers.drop 1 }) := by
  rw [next, answer]
  split
  · next h =>
    obtain ⟨answers, otherwise, events, waits⟩ := e
    obtain rfl : answers = [] := h
    rfl
  · next h => rw [h]; rfl

/-- How many of these answers and of those behind them come before the first that is no
refusal. -/
def leading (otherwise : ChatAnswer) : List ChatAnswer → ℕ∞
  | [] => if otherwise.isRefusal then ⊤ else 0
  | a :: rest => if a.isRefusal then leading otherwise rest + 1 else 0

/-- How many refusals in a row the endpoint answers with. -/
def refusals : ℕ∞ := leading e.otherwise e.answers

theorem lt_leading (otherwise : ChatAnswer) : ∀ (answers : List ChatAnswer) (i : Nat),
    (i : ℕ∞) < leading otherwise answers ↔
      ∀ j ≤ i, (answers.getD j otherwise).isRefusal = true
  | [], i => by
      cases hlast : otherwise.isRefusal with
      | true => simp [leading, hlast]
      | false => simpa [leading, hlast] using ⟨0, Nat.zero_le i⟩
  | a :: rest, i => by
      cases ha : a.isRefusal with
      | false => simpa [leading, ha] using ⟨0, Nat.zero_le i, ha⟩
      | true =>
          rw [leading, if_pos ha]
          cases i with
          | zero => simp [ha]
          | succ i =>
              rw [Nat.cast_succ, ENat.add_lt_add_iff_right ENat.one_ne_top,
                lt_leading otherwise rest i]
              constructor
              · rintro h (_ | j) hj
                · exact ha
                · exact h j (Nat.le_of_succ_le_succ hj)
              · intro h j hj
                exact h (j + 1) (Nat.succ_le_succ hj)

/-- The answers before the first that is no refusal. -/
theorem lt_refusals (i : Nat) : (i : ℕ∞) < e.refusals ↔ ∀ j ≤ i, (e.answer j).isRefusal = true :=
  lt_leading e.otherwise e.answers i

/-- The answer behind the refusals is none. -/
theorem answer_refusals {k : Nat} (h : e.refusals = k) : (e.answer k).isRefusal = false := by
  have hnot : ¬(k : ℕ∞) < e.refusals := h ▸ lt_irrefl _
  rw [e.lt_refusals] at hnot
  push Not at hnot
  obtain ⟨j, hj, hanswer⟩ := hnot
  rcases Nat.lt_or_eq_of_le hj with hbefore | rfl
  · have hlt : (j : ℕ∞) < e.refusals := h ▸ Nat.cast_lt.mpr hbefore
    exact absurd ((e.lt_refusals j).mp hlt j (Nat.le_refl j)) hanswer
  · simpa using hanswer

end ChatEndpoint

namespace Author

variable {δ : Type}

/-! ## One attempt -/

section Attempt

variable (settings : Settings) (messages : List ChatMessage)

/-- The request that a completion makes every time. -/
def Settings.asks : ChatEvent := .request settings.maxTokens messages settings.model

/-- The state after a request. -/
def asked (w : Work δ) : Work δ :=
  { w with engine.endpoint :=
      { w.engine.endpoint.record (settings.asks messages) with
        answers := w.engine.endpoint.answers.drop 1 } }

/-- The state after a line in the log. -/
def told (line : String) (w : Work δ) : Work δ := { w with log := line :: w.log }

/-- The state after a wait, and a line in the log before it. -/
def rested (line : String) (seconds : δ) (w : Work δ) : Work δ :=
  { told line w with engine.endpoint :=
      { w.engine.endpoint with waits := seconds :: w.engine.endpoint.waits } }

/-- The state after an answer, which may carry usage. -/
def used (usage : Option (Int × Int)) (w : Work δ) : Work δ :=
  { w with engine.usage := usage.getD w.engine.usage }

@[simp] theorem answer_asked (w : Work δ) (j : Nat) :
    (asked settings messages w).engine.endpoint.answer j = w.engine.endpoint.answer (j + 1) := by
  unfold ChatEndpoint.answer asked ChatEndpoint.record
  cases w.engine.endpoint.answers <;> rfl

theorem request_on (w : Work δ) : (request settings messages).on w =
    (.ok (w.engine.endpoint.answer 0), asked settings messages w) := by
  have hrecord : (record (settings.asks messages)).on w =
      (.ok (), { w with engine.endpoint := w.engine.endpoint.record (settings.asks messages) }) := rfl
  have hnext : (w.engine.endpoint.record (settings.asks messages)).next =
      (w.engine.endpoint.answer 0, (asked settings messages w).engine.endpoint) :=
    ChatEndpoint.next_eq _
  rw [request, ← Settings.asks, Act.on_bind_of_ok hrecord, Act.on_bind_of_ok (Act.on_get _)]
  dsimp only
  rw [hnext]
  rfl

theorem take_on (texts : List (Option String)) (usage : Option (Int × Int)) (w : Work δ) :
    (take texts usage).on w = ((ChatAnswer.completion texts usage).outcome, used usage w) := by
  cases usage <;> cases texts <;> rfl

variable (pace : Pace δ)

/-- The line in the log before a wait. -/
def waitLine (attempt : Nat) (seconds : δ) : String :=
  s!"[inky-llm] Rate limited (attempt {attempt + 1}/{settings.retries}), "
    ++ s!"retrying in {pace.shown seconds}s..."

/-- After a refusal that is not the last a wait is reckoned, and then the next attempt is made. -/
theorem attempts_refused {w : Work δ} {left attempt : Nat} (hleft : left ≠ 0)
    (hrefusal : (w.engine.endpoint.answer 0).isRefusal = true) :
    (attempts pace settings messages (left + 1) attempt).on w =
      (do
        let d ← Act.ofExcept
          (pace.after settings.firstWait attempt (w.engine.endpoint.answer 0).header)
        Stage.note (waitLine settings pace attempt d)
        wait pace d
        attempts pace settings messages left (attempt + 1)).on (asked settings messages w) := by
  rw [attempts, Act.on_bind_of_ok (request_on settings messages w)]
  cases ha : w.engine.endpoint.answer 0 with
  | completion texts usage => rw [ha] at hrefusal; cases hrefusal
  | failed message => rw [ha] at hrefusal; cases hrefusal
  | status code message header =>
      rw [ha] at hrefusal
      have hcode : code = 429 := by simpa [ChatAnswer.isRefusal] using hrefusal
      have hgoes : ¬(code ≠ 429 ∨ left = 0) := by simp [hcode, hleft]
      dsimp only
      rw [if_neg hgoes]
      rfl

theorem wait_on (d : δ) (w : Work δ) :
    (wait pace d).on w =
      match pace.defect? w.engine.waiting d with
      | some f => (.error (.wait f), w)
      | none => (.ok (), { w with engine.endpoint :=
          { w.engine.endpoint with waits := d :: w.engine.endpoint.waits } }) := by
  rw [wait, Stage.inEngine, Act.on_within, Act.on_bind, Act.on_get]
  dsimp only
  cases pace.defect? w.engine.waiting d <;> rfl

/-- The next attempt is made after the wait that was reckoned, if it can be made. -/
theorem attempts_again {w : Work δ} {left attempt : Nat} {d : δ} (hleft : left ≠ 0)
    (hrefusal : (w.engine.endpoint.answer 0).isRefusal = true)
    (hwait : pace.after settings.firstWait attempt (w.engine.endpoint.answer 0).header = .ok d)
    (hmade : pace.defect? w.engine.waiting d = none) :
    (attempts pace settings messages (left + 1) attempt).on w =
      (attempts pace settings messages left (attempt + 1)).on
        (rested (waitLine settings pace attempt d) d (asked settings messages w)) := by
  have hmade : pace.defect? (told (waitLine settings pace attempt d)
      (asked settings messages w)).engine.waiting d = none := hmade
  have hrest : (wait pace d).on
      (told (waitLine settings pace attempt d) (asked settings messages w)) =
        (.ok (), rested (waitLine settings pace attempt d) d (asked settings messages w)) := by
    rw [wait_on, hmade]
    rfl
  rw [attempts_refused settings messages pace hleft hrefusal, hwait]
  exact Act.on_bind_of_ok hrest

/-- A wait that cannot be made is told in the log all the same, and then there is no next
attempt. -/
theorem attempts_unmade {w : Work δ} {left attempt : Nat} {d : δ} {f : WaitDefect} (hleft : left ≠ 0)
    (hrefusal : (w.engine.endpoint.answer 0).isRefusal = true)
    (hwait : pace.after settings.firstWait attempt (w.engine.endpoint.answer 0).header = .ok d)
    (hunmade : pace.defect? w.engine.waiting d = some f) :
    (attempts pace settings messages (left + 1) attempt).on w =
      (.error (.wait f), told (waitLine settings pace attempt d) (asked settings messages w)) := by
  have hunmade : pace.defect? (told (waitLine settings pace attempt d)
      (asked settings messages w)).engine.waiting d = some f := hunmade
  have hrest : (wait pace d).on
      (told (waitLine settings pace attempt d) (asked settings messages w)) =
        (.error (.wait f), told (waitLine settings pace attempt d) (asked settings messages w)) := by
    rw [wait_on, hunmade]
  have hlast : (do
      wait pace d
      attempts pace settings messages left (attempt + 1)).on
        (told (waitLine settings pace attempt d) (asked settings messages w)) =
      (.error (.wait f), told (waitLine settings pace attempt d) (asked settings messages w)) :=
    Act.on_bind_of_error hrest
  rw [attempts_refused settings messages pace hleft hrefusal, hwait]
  exact hlast

/-- Without a wait there is no next attempt. -/
theorem attempts_unreckoned {w : Work δ} {left attempt : Nat} {f : Fault} (hleft : left ≠ 0)
    (hrefusal : (w.engine.endpoint.answer 0).isRefusal = true)
    (hwait : pace.after settings.firstWait attempt (w.engine.endpoint.answer 0).header = .error f) :
    (attempts pace settings messages (left + 1) attempt).on w =
      (.error f, asked settings messages w) := by
  rw [attempts_refused settings messages pace hleft hrefusal, hwait]
  rfl

/-- An answer that is no refusal, or to the last request, is the outcome. -/
theorem attempts_last {w : Work δ} {left attempt : Nat}
    (hlast : left = 0 ∨ (w.engine.endpoint.answer 0).isRefusal = false) :
    (attempts pace settings messages (left + 1) attempt).on w =
      ((w.engine.endpoint.answer 0).outcome,
        used (w.engine.endpoint.answer 0).usage? (asked settings messages w)) := by
  rw [attempts, Act.on_bind_of_ok (request_on settings messages w)]
  cases ha : w.engine.endpoint.answer 0 with
  | completion texts usage => exact take_on texts usage _
  | failed message => rfl
  | status code message header =>
      rw [ha] at hlast
      have hstops : code ≠ 429 ∨ left = 0 := by
        rcases hlast with hleft | hcode
        · exact .inr hleft
        · exact .inl (by simpa [ChatAnswer.isRefusal] using hcode)
      dsimp only
      rw [if_pos hstops]
      rfl

end Attempt

/-! ## A run -/

section Run

variable (pace : Pace δ) (settings : Settings) (messages : List ChatMessage)

/-- The states after so many requests that were refused, each with its wait behind it. -/
inductive Refused (s : Work δ) : Nat → Work δ → Prop
  | start : Refused s 0 s
  | again {i : Nat} {t : Work δ} {d : δ} (h : Refused s i t)
      (hrefusal : (t.engine.endpoint.answer 0).isRefusal = true)
      (hwait : pace.after settings.firstWait i (t.engine.endpoint.answer 0).header = .ok d)
      (hmade : pace.defect? t.engine.waiting d = none) :
      Refused s (i + 1) (rested (waitLine settings pace i d) d (asked settings messages t))

namespace Refused

variable {pace settings messages} {s t : Work δ} {i : Nat}

theorem answer (h : Refused pace settings messages s i t) (j : Nat) :
    t.engine.endpoint.answer j = s.engine.endpoint.answer (i + j) := by
  induction h generalizing j with
  | start => rw [Nat.zero_add]
  | again _ _ _ _ ih =>
      rw [Nat.add_assoc, Nat.add_comm 1 j, ← ih]
      exact answer_asked settings messages _ j

theorem events (h : Refused pace settings messages s i t) : t.engine.endpoint.events =
    List.replicate i (settings.asks messages) ++ s.engine.endpoint.events := by
  induction h with
  | start => rfl
  | again _ _ _ _ ih => exact congrArg (settings.asks messages :: ·) ih

theorem usage (h : Refused pace settings messages s i t) : t.engine.usage = s.engine.usage := by
  induction h with
  | start => rfl
  | again _ _ _ _ ih => exact ih

theorem waiting (h : Refused pace settings messages s i t) :
    t.engine.waiting = s.engine.waiting := by
  induction h with
  | start => rfl
  | again _ _ _ _ ih => exact ih

/-- The waits, if it is known how long they are. -/
theorem waits {due : Nat → Option String → δ} (h : Refused pace settings messages s i t)
    (hdue : ∀ j < i, pace.after settings.firstWait j (s.engine.endpoint.answer j).header =
      .ok (due j (s.engine.endpoint.answer j).header)) :
    t.engine.endpoint.waits =
      ((List.range i).map fun j => due j (s.engine.endpoint.answer j).header).reverse ++
        s.engine.endpoint.waits := by
  induction h with
  | start => rfl
  | @again i t d h _ hwait _ ih =>
      have hd : d = due i (s.engine.endpoint.answer i).header := by
        rw [h.answer 0] at hwait
        exact Except.ok.inj (hwait.symm.trans (hdue i (Nat.lt_succ_self i)))
      have hbefore := ih fun j hj => hdue j (Nat.lt_succ_of_lt hj)
      rw [List.range_succ, List.map_append, List.reverse_append, List.append_assoc, ← hbefore, hd]
      rfl

/-- A state with one refusal more. -/
theorem next (h : Refused pace settings messages s i t) {d : δ}
    (hrefusal : (s.engine.endpoint.answer i).isRefusal = true)
    (hwait : pace.after settings.firstWait i (s.engine.endpoint.answer i).header = .ok d)
    (hmade : pace.defect? s.engine.waiting d = none) :
    ∃ t, Refused pace settings messages s (i + 1) t := by
  have hanswer : t.engine.endpoint.answer 0 = s.engine.endpoint.answer i := h.answer 0
  rw [← hanswer] at hrefusal hwait
  rw [← h.waiting] at hmade
  exact ⟨_, h.again hrefusal hwait hmade⟩

/-- A completion goes on with as many attempts fewer as there were refusals. -/
theorem attempts (h : Refused pace settings messages s i t) {left : Nat} (hleft : left ≠ 0) :
    (attempts pace settings messages (left + i) 0).on s =
      (Author.attempts pace settings messages left i).on t := by
  induction h generalizing left with
  | start => rfl
  | again h hrefusal hwait hmade ih =>
      rw [← attempts_again settings messages pace hleft hrefusal hwait hmade,
        ← ih (Nat.succ_ne_zero left), Nat.succ_add, Nat.add_succ]

end Refused

/-- There is such a state if the first answers are refusals, and each wait is known and can be
made. -/
theorem exists_refused {due : Nat → Option String → δ} (s : Work δ) : ∀ i,
    (∀ j < i, (s.engine.endpoint.answer j).isRefusal = true) →
    (∀ j < i, pace.after settings.firstWait j (s.engine.endpoint.answer j).header =
      .ok (due j (s.engine.endpoint.answer j).header)) →
    (∀ j < i, pace.defect? s.engine.waiting (due j (s.engine.endpoint.answer j).header) = none) →
    ∃ t, Refused pace settings messages s i t
  | 0, _, _, _ => ⟨s, .start⟩
  | i + 1, hrefusals, hdue, hmade => by
      obtain ⟨t, ht⟩ := exists_refused s i (fun j hj => hrefusals j (Nat.lt_succ_of_lt hj))
        (fun j hj => hdue j (Nat.lt_succ_of_lt hj)) fun j hj => hmade j (Nat.lt_succ_of_lt hj)
      exact ht.next (hrefusals i (Nat.lt_succ_self i)) (hdue i (Nat.lt_succ_self i))
        (hmade i (Nat.lt_succ_self i))

end Run

/-! ## Completions -/

/-- How many requests are made again: as many as are refused in a row, but no more than may be. -/
noncomputable def again (e : ChatEndpoint δ) (n : Nat) : Nat := (min e.refusals n).toNat

section Again

variable (e : ChatEndpoint δ) (n : Nat)

theorem again_coe : (again e n : ℕ∞) = min e.refusals n :=
  ENat.natCast_toNat (ne_top_of_le_ne_top (ENat.natCast_ne_top n) (min_le_right _ _))

theorem again_le : again e n ≤ n := by
  have hle : (again e n : ℕ∞) ≤ n := again_coe e n ▸ min_le_right _ _
  exact_mod_cast hle

variable {e n}

theorem again_of_le {k : Nat} (hk : e.refusals = k) (hn : k ≤ n) : again e n = k := by
  have hcoe : (again e n : ℕ∞) = k := by
    rw [again_coe, hk]
    exact min_eq_left (by exact_mod_cast hn)
  exact_mod_cast hcoe

theorem again_of_lt (h : (n : ℕ∞) < e.refusals) : again e n = n := by
  have hcoe : (again e n : ℕ∞) = n := by
    rw [again_coe]
    exact min_eq_right h.le
  exact_mod_cast hcoe

theorem refused_before {j : Nat} (hj : j < again e n) : (e.answer j).isRefusal = true := by
  have hlt : (j : ℕ∞) < e.refusals := by
    refine lt_of_lt_of_le ?_ (min_le_left e.refusals n)
    rw [← again_coe]
    exact_mod_cast hj
  exact (e.lt_refusals j).mp hlt j (Nat.le_refl j)

/-- The last answer is no refusal, or no request may be made again. -/
theorem last_of_again : again e n = n ∨ (e.answer (again e n)).isRefusal = false := by
  refine or_iff_not_imp_left.mpr fun hne => e.answer_refusals ?_
  rw [again_coe]
  exact (min_eq_left (le_of_not_gt fun hgt => hne (again_of_lt hgt))).symm

end Again

/-- The state once the endpoint is reached. -/
def connected (settings : Settings) (w : Work δ) : Work δ :=
  { w with engine.endpoint := w.engine.endpoint.record settings.connection }

section Completed

variable {pace : Pace δ} {settings : Settings} {messages : List ChatMessage} {n i : Nat}
  {s t : Work δ}

/-- What a completion leaves that ended after so many refused requests, each with the wait that was
due behind it. -/
structure Ended (pace : Pace δ) (settings : Settings) (messages : List ChatMessage)
    (due : Nat → Option String → δ) (s : Work δ) (i : Nat) (w : Work δ) : Prop where
  /-- Requests and waits come in turn, and a request comes last. -/
  inTurn : ∃ t, Refused pace settings messages (connected settings s) i t ∧
    w = used (s.engine.endpoint.answer i).usage? (asked settings messages t)
  events : w.engine.endpoint.events = List.replicate (i + 1) (settings.asks messages) ++
    settings.connection :: s.engine.endpoint.events
  waits : w.engine.endpoint.waits =
    ((List.range i).map fun j => due j (s.engine.endpoint.answer j).header).reverse ++
      s.engine.endpoint.waits
  usage : w.engine.usage = (s.engine.endpoint.answer i).usage?.getD s.engine.usage

theorem Refused.ended {due : Nat → Option String → δ}
    (h : Refused pace settings messages (connected settings s) i t)
    (hdue : ∀ j < i, pace.after settings.firstWait j (s.engine.endpoint.answer j).header =
      .ok (due j (s.engine.endpoint.answer j).header)) :
    Ended pace settings messages due s i
      (used (s.engine.endpoint.answer i).usage? (asked settings messages t)) where
  inTurn := ⟨t, h, rfl⟩
  events := congrArg (settings.asks messages :: ·) h.events
  waits := h.waits hdue
  usage := congrArg (Option.getD _) h.usage

/-- What a completion leaves that ended with a wait, after so many refused requests each with the
wait that was due behind it and one refused request more. -/
structure Halted (settings : Settings) (messages : List ChatMessage)
    (due : Nat → Option String → δ) (s : Work δ) (i : Nat) (w : Work δ) : Prop where
  events : w.engine.endpoint.events = List.replicate (i + 1) (settings.asks messages) ++
    settings.connection :: s.engine.endpoint.events
  waits : w.engine.endpoint.waits =
    ((List.range i).map fun j => due j (s.engine.endpoint.answer j).header).reverse ++
      s.engine.endpoint.waits
  usage : w.engine.usage = s.engine.usage

/-- A completion ends with the answer to the request behind those that are made again, if it is
known how long it waits and all waits can be made. -/
theorem completeAt_ended (hn : settings.retries = n) (instruction data : String) (s : Work δ)
    {due : Nat → Option String → δ}
    (hdue : ∀ j < again s.engine.endpoint n,
      pace.after settings.firstWait j (s.engine.endpoint.answer j).header =
        .ok (due j (s.engine.endpoint.answer j).header))
    (hmade : ∀ j < again s.engine.endpoint n,
      pace.defect? s.engine.waiting (due j (s.engine.endpoint.answer j).header) = none) :
    ∃ w, (completeAt pace settings instruction data).on s =
        ((s.engine.endpoint.answer (again s.engine.endpoint n)).outcome, w) ∧
      Ended pace settings (conversation instruction data) due s (again s.engine.endpoint n) w := by
  obtain ⟨t, ht⟩ : ∃ t, Refused pace settings (conversation instruction data)
      (connected settings s) (again s.engine.endpoint n) t :=
    exists_refused _ _ _ _ _ (fun _ hj => refused_before hj) hdue hmade
  have hconnect : (record settings.connection).on s = (.ok (), connected settings s) := rfl
  have hanswer : t.engine.endpoint.answer 0 =
      s.engine.endpoint.answer (again s.engine.endpoint n) := ht.answer 0
  obtain ⟨left, hleft⟩ := Nat.exists_eq_add_of_le (again_le s.engine.endpoint n)
  have hbudget : (settings.retries + 1).toNat = left + 1 + again s.engine.endpoint n := by omega
  have hlast : left = 0 ∨ (t.engine.endpoint.answer 0).isRefusal = false := by
    rw [hanswer]
    exact last_of_again.imp_left fun hall => by omega
  refine ⟨_, ?_, ht.ended hdue⟩
  rw [completeAt, Act.on_bind_of_ok hconnect, hbudget, ht.attempts (Nat.succ_ne_zero left),
    attempts_last _ _ _ hlast, hanswer]

/-- A completion goes on after so many refusals, as long as a request is made again. -/
theorem Refused.completeAt (hn : settings.retries = n) (instruction data : String) (s : Work δ)
    (hi : i < Author.again s.engine.endpoint n)
    (ht : Refused pace settings (conversation instruction data) (connected settings s) i t) :
    ∃ left, left ≠ 0 ∧ (t.engine.endpoint.answer 0).isRefusal = true ∧
      (completeAt pace settings instruction data).on s =
        (Author.attempts pace settings (conversation instruction data) (left + 1) i).on t := by
  have hconnect : (record settings.connection).on s = (.ok (), connected settings s) := rfl
  obtain ⟨left, hleft⟩ := Nat.exists_eq_add_of_lt (Nat.lt_of_lt_of_le hi (again_le _ n))
  have hbudget : (settings.retries + 1).toNat = left + 1 + 1 + i := by omega
  refine ⟨left + 1, Nat.succ_ne_zero left, ?_, ?_⟩
  · rw [ht.answer 0]
    exact refused_before (e := s.engine.endpoint) hi
  · rw [Author.completeAt, Act.on_bind_of_ok hconnect, hbudget,
      ht.attempts (Nat.succ_ne_zero (left + 1))]

/-- A completion ends with the first wait that cannot be made. -/
theorem completeAt_unmade (hn : settings.retries = n) (instruction data : String) (s : Work δ)
    {due : Nat → Option String → δ} {f : WaitDefect} (hi : i < again s.engine.endpoint n)
    (hdue : ∀ j ≤ i, pace.after settings.firstWait j (s.engine.endpoint.answer j).header =
      .ok (due j (s.engine.endpoint.answer j).header))
    (hmade : ∀ j < i,
      pace.defect? s.engine.waiting (due j (s.engine.endpoint.answer j).header) = none)
    (hunmade : pace.defect? s.engine.waiting (due i (s.engine.endpoint.answer i).header) = some f) :
    ∃ w, (completeAt pace settings instruction data).on s = (.error (.wait f), w) ∧
      Halted settings (conversation instruction data) due s i w := by
  obtain ⟨t, ht⟩ : ∃ t, Refused pace settings (conversation instruction data)
      (connected settings s) i t :=
    exists_refused _ _ _ _ _ (fun _ hj => refused_before (Nat.lt_trans hj hi))
      (fun j hj => hdue j hj.le) hmade
  obtain ⟨left, hleft, hrefusal, hgoes⟩ := ht.completeAt hn instruction data s hi
  have hanswer : t.engine.endpoint.answer 0 = s.engine.endpoint.answer i := ht.answer 0
  have hwait := hdue i (Nat.le_refl i)
  rw [← hanswer] at hwait hunmade
  refine ⟨_, hgoes.trans (attempts_unmade _ _ _ hleft hrefusal hwait ?_),
    congrArg (settings.asks (conversation instruction data) :: ·) ht.events,
    ht.waits fun j hj => hdue j hj.le, ht.usage⟩
  rw [ht.waiting]
  exact hunmade

end Completed

end Author

end StoryServer
