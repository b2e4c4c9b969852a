import StoryServer.Proofs.Chat.Retrying
import StoryServer.Proofs.Number.Exact

/-!
# Completions and their waits

A completion is described for waits that are reckoned exactly, as values of doubles
(`completion_retried`): how often it asks, what it comes to, how long it waits before it asks
again, and which usage it keeps.  A wait that cannot be made ends it.  A completion whose waits are
doubles is the same as long as the first wait doubled so many times is in the range of doubles.
Beyond that the doubled wait is infinite, and after 1024 refusals there is no double for the
power of two: the completion fails (`completion_overflow`).
-/

namespace StoryServer

namespace Author

open Binary64 (value?)

/-! ## Exact waits -/

/-- The bound of the waits that can be counted, in seconds. -/
noncomputable def Waiting.limit : ℝ := (bound.scaled : ℝ) / (Binary64.unit : ℝ)

open Classical in
/-- Why a wait of this value cannot be made, if it cannot: a wait that is counted is a number, within
the bounds and not negative. -/
noncomputable def Waiting.refusal? : Waiting → Option EReal → Option WaitDefect
  | .noted, _ => none
  | .counted, none => some .notANumber
  | .counted, some v =>
    if v < ((-limit : ℝ) : EReal) ∨ ((limit : ℝ) : EReal) ≤ v then some .outOfRange
    else if v < 0 then some .negative
    else none

namespace Waiting

theorem value?_bound_neg : bound.neg.value? = some ((-limit : ℝ) : EReal) := by
  have hscaled : bound.neg.scaled = -bound.scaled := by decide +kernel
  change some (((bound.neg.scaled : ℝ) / (Binary64.unit : ℝ) : ℝ) : EReal) = _
  rw [hscaled, Int.cast_neg, neg_div]
  rfl

theorem value?_zero : (Binary64.zero false).value? = some 0 := by
  have hscaled : (Binary64.zero false).scaled = 0 := by decide +kernel
  change some ((((Binary64.zero false).scaled : ℝ) / (Binary64.unit : ℝ) : ℝ) : EReal) = _
  rw [hscaled, Int.cast_zero, zero_div, EReal.coe_zero]

/-- Whether a wait can be made depends on its value. -/
theorem defect?_eq (w : Waiting) (x : Binary64) : w.defect? x = w.refusal? x.value? := by
  cases w with
  | noted => rfl
  | counted =>
      cases hv : x.value? with
      | none =>
          obtain rfl := Binary64.value?_eq_none.mp hv
          rfl
      | some v =>
          have hnan : x ≠ .nan := fun hx => by rw [hx] at hv; cases hv
          have hlow := Binary64.blt_iff_of_value hv value?_bound_neg
          have hhigh : x.blt bound = true ↔ v < ((limit : ℝ) : EReal) :=
            Binary64.blt_iff_of_value hv rfl
          have hzero := Binary64.blt_iff_of_value hv value?_zero
          rw [defect?, if_neg hnan, refusal?]
          simp only [Bool.or_eq_true, Bool.not_eq_true', ← Bool.not_eq_true, hlow, hhigh, hzero,
            not_lt]

end Waiting

open Classical in
/-- Waits are values of doubles; a not-a-number is a wait without a value. -/
noncomputable def Pace.exact (shown : Option EReal → String) : Pace (Option EReal) where
  doubled first attempt := .ok (first.value?.map fun v => v * (2 : EReal) ^ attempt)
  read text := (Number.readDouble text).toOption.map value?
  isShorter a b := decide (∃ v w, a = some v ∧ b = some w ∧ v < w)
  defect? := Waiting.refusal?
  shown := shown

/-- The double that a header holds. -/
def headerDouble (header : Option String) : Option Binary64 :=
  (nonEmpty header).bind fun text => (Number.readDouble text).toOption

/-- The wait that is due after an attempt: the first wait, doubled after every attempt, or what the
header has when that is a number and longer. -/
noncomputable def dueWait (first : Binary64) (attempt : Nat) (header : Option String) :
    Option EReal :=
  first.value?.map fun v =>
    match (headerDouble header).bind value? with
    | some asked => max (v * (2 : EReal) ^ attempt) asked
    | none => v * (2 : EReal) ^ attempt

open Classical in
/-- Of two waits the longer one is waited for, and one that has no value is not longer. -/
theorem longer_eq (own asked : Option EReal) :
    (if ∃ v w, own = some v ∧ asked = some w ∧ v < w then asked else own) =
      own.map fun v =>
        match asked with
        | some w => max v w
        | none => v := by
  cases own with
  | none => simp
  | some v =>
      cases asked with
      | none => simp
      | some w =>
          by_cases hlt : v < w
          · simp [hlt, max_eq_right hlt.le]
          · simp [hlt, max_eq_left (le_of_not_gt hlt)]

open Classical in
theorem dueWait_eq (first : Binary64) (attempt : Nat) (header : Option String) :
    let own := first.value?.map fun v => v * (2 : EReal) ^ attempt
    let asked := (headerDouble header).bind value?
    dueWait first attempt header =
      if ∃ v w, own = some v ∧ asked = some w ∧ v < w then asked else own := by
  intro own asked
  rw [longer_eq, Option.map_map]
  rfl

theorem exact_after (shown : Option EReal → String) (first : Binary64) (attempt : Nat)
    (header : Option String) :
    (Pace.exact shown).after first attempt header = .ok (dueWait first attempt header) := by
  have hread : (nonEmpty header).bind (Pace.exact shown).read =
      (headerDouble header).map value? := by
    unfold headerDouble
    cases nonEmpty header <;> rfl
  rw [Pace.after, hread, dueWait_eq]
  cases headerDouble header with
  | none => simp [Pace.exact]
  | some asked => simp [Pace.exact]

/-! ## Waits in doubles -/

/-- The double that a completion waits for after an attempt. -/
def doubleWait (first : Binary64) (attempt : Nat) (header : Option String) : Binary64 :=
  let own := first.mul (Binary64.ofInt (Nat.pow 2 attempt : Nat))
  match headerDouble header with
  | some asked => if own.blt asked then asked else own
  | none => own

theorem doubled_doubles (first : Binary64) (attempt : Nat) :
    Pace.doubles.doubled first attempt =
      (toDouble (Nat.pow 2 attempt : Nat)).map fun power => first.mul power := by
  simp only [Pace.doubles]
  generalize toDouble _ = power
  cases power <;> rfl

theorem doubles_after (first : Binary64) {attempt : Nat} (h : attempt < 1024)
    (header : Option String) :
    Pace.doubles.after first attempt header = .ok (doubleWait first attempt header) := by
  obtain ⟨e, f, hpower, -⟩ := Binary64.ofInt_two_pow h
  have hdoubled : Pace.doubles.doubled first attempt =
      .ok (first.mul (Binary64.ofInt (Nat.pow 2 attempt : Nat))) := by
    rw [doubled_doubles, toDouble_eq hpower, hpower]
    rfl
  have hread : (nonEmpty header).bind Pace.doubles.read = headerDouble header := rfl
  rw [Pace.after, hdoubled, hread, doubleWait]
  generalize first.mul (Binary64.ofInt (Nat.pow 2 attempt : Nat)) = own
  cases headerDouble header with
  | none => rfl
  | some asked => rfl

/-- In the range of doubles the wait is exact. -/
theorem value?_doubleWait {first : Binary64} {attempt : Nat} (h : attempt < 1024)
    (hrange : first.magnitude * 2 ^ attempt < Binary64.beyond) (header : Option String) :
    (doubleWait first attempt header).value? = dueWait first attempt header := by
  rw [doubleWait, dueWait_eq, ← Binary64.value?_mul_two_pow h hrange]
  generalize first.mul (Binary64.ofInt (Nat.pow 2 attempt : Nat)) = own
  cases headerDouble header with
  | none => simp
  | some asked =>
      dsimp only [Option.bind_some]
      by_cases hlt : own.blt asked = true
      · rw [if_pos hlt, if_pos (Binary64.blt_iff.mp hlt)]
      · rw [if_neg hlt, if_neg (mt Binary64.blt_iff.mpr hlt)]

/-- There is no wait without a double for the power of two. -/
theorem doubles_after_of_error {first : Binary64} {attempt : Nat} {f : Fault}
    (h : toDouble (Nat.pow 2 attempt : Nat) = .error f) (header : Option String) :
    Pace.doubles.after first attempt header = .error f := by
  rw [Pace.after, doubled_doubles, h]
  rfl

theorem toDouble_two_pow : toDouble (Nat.pow 2 1024 : Nat) = .error .tooLargeForDouble := by
  decide +kernel

/-! ## Completions -/

/-- A state whose waits are the values of doubles. -/
noncomputable def exactly (w : Work) : Work (Option EReal) where
  engine :=
    { endpoint := { w.engine.endpoint with waits := w.engine.endpoint.waits.map value? }
      waiting := w.engine.waiting
      usage := w.engine.usage }
  log := w.log

/-- None of some waits has a defect, or there is a first that has one. -/
theorem all_or_first {m : Nat} (defect? : Nat → Option WaitDefect) : (∀ i < m, defect? i = none) ∨
    ∃ j < m, (∀ i < j, defect? i = none) ∧ ∃ d, defect? j = some d := by
  induction m with
  | zero => exact .inl nofun
  | succ m ih =>
      rcases ih with hall | ⟨j, hj, hfirst⟩
      · cases hd : defect? m with
        | none =>
            refine .inl fun i hi => ?_
            rcases Nat.lt_succ_iff_lt_or_eq.mp hi with hlt | rfl
            · exact hall i hlt
            · exact hd
        | some d => exact .inr ⟨m, Nat.lt_succ_self m, hall, d, hd⟩
      · exact .inr ⟨j, Nat.lt_succ_of_lt hj, hfirst⟩

section Completions

variable (shown : Option EReal → String) (settings : Settings) (n : Nat)
  (instruction data : String) (s : Work)

/-- The wait that is due after an attempt of a completion. -/
noncomputable def due (i : Nat) : Option EReal :=
  dueWait settings.firstWait i (s.engine.endpoint.answer i).header

/-- The double that a completion waits for after an attempt. -/
def dueDouble (i : Nat) : Binary64 :=
  doubleWait settings.firstWait i (s.engine.endpoint.answer i).header

variable {settings s} in
theorem value?_dueDouble {i : Nat} (h : i < 1024)
    (hrange : settings.firstWait.magnitude * 2 ^ i < Binary64.beyond) :
    (dueDouble settings s i).value? = due settings s i :=
  value?_doubleWait h hrange _

theorem completeAt_exact (hn : settings.retries = n)
    (hmade : ∀ i < again s.engine.endpoint n, s.engine.waiting.refusal? (due settings s i) = none) :
    ∃ w, (completeAt (.exact shown) settings instruction data).on (exactly s) =
        ((s.engine.endpoint.answer (again s.engine.endpoint n)).outcome, w) ∧
      Ended (.exact shown) settings (conversation instruction data) (dueWait settings.firstWait)
        (exactly s) (again s.engine.endpoint n) w :=
  completeAt_ended hn instruction data (exactly s)
    (fun i _ => exact_after shown settings.firstWait i (s.engine.endpoint.answer i).header) hmade

theorem completeAt_exact_unmade (hn : settings.retries = n) {i : Nat} {f : WaitDefect}
    (hi : i < again s.engine.endpoint n)
    (hmade : ∀ j < i, s.engine.waiting.refusal? (due settings s j) = none)
    (hunmade : s.engine.waiting.refusal? (due settings s i) = some f) :
    ∃ w, (completeAt (.exact shown) settings instruction data).on (exactly s) =
        (.error (.wait f), w) ∧
      Halted settings (conversation instruction data) (dueWait settings.firstWait) (exactly s) i w :=
  completeAt_unmade hn instruction data (exactly s) hi
    (fun j _ => exact_after shown settings.firstWait j (s.engine.endpoint.answer j).header) hmade
    hunmade

theorem complete_doubles (hn : settings.retries = n) (h : again s.engine.endpoint n ≤ 1024)
    (hmade : ∀ i < again s.engine.endpoint n,
      s.engine.waiting.defect? (dueDouble settings s i) = none) :
    ∃ w, (complete settings instruction data).on s =
        ((s.engine.endpoint.answer (again s.engine.endpoint n)).outcome, w) ∧
      Ended .doubles settings (conversation instruction data) (doubleWait settings.firstWait) s
        (again s.engine.endpoint n) w :=
  completeAt_ended hn instruction data s (fun i hi =>
    doubles_after settings.firstWait (Nat.lt_of_lt_of_le hi h) (s.engine.endpoint.answer i).header)
    hmade

theorem complete_doubles_unmade (hn : settings.retries = n) {i : Nat} {f : WaitDefect}
    (hi : i < again s.engine.endpoint n) (h : i < 1024)
    (hmade : ∀ j < i, s.engine.waiting.defect? (dueDouble settings s j) = none)
    (hunmade : s.engine.waiting.defect? (dueDouble settings s i) = some f) :
    ∃ w, (complete settings instruction data).on s = (.error (.wait f), w) ∧
      Halted settings (conversation instruction data) (doubleWait settings.firstWait) s i w :=
  completeAt_unmade hn instruction data s hi (fun j hj =>
    doubles_after settings.firstWait (Nat.lt_of_le_of_lt hj h) (s.engine.endpoint.answer j).header)
    hmade hunmade

/-- A completion whose waits are doubles does the same as one whose waits are exact, if the same of
them can be made: it comes to the same, and makes as many waits. -/
theorem complete_counterpart (hn : settings.retries = n) (hm : again s.engine.endpoint n ≤ 1024)
    (halike : ∀ i < again s.engine.endpoint n,
      s.engine.waiting.defect? (dueDouble settings s i) =
        s.engine.waiting.refusal? (due settings s i)) :
    ∃ outcome j w w', j ≤ again s.engine.endpoint n ∧
      (completeAt (.exact shown) settings instruction data).on (exactly s) = (outcome, w) ∧
      (complete settings instruction data).on s = (outcome, w') ∧
      w'.engine.endpoint.events = w.engine.endpoint.events ∧ w'.engine.usage = w.engine.usage ∧
      w.engine.endpoint.waits = ((List.range j).map (due settings s)).reverse ++
        s.engine.endpoint.waits.map value? ∧
      w'.engine.endpoint.waits = ((List.range j).map (dueDouble settings s)).reverse ++
        s.engine.endpoint.waits := by
  rcases all_or_first fun i => s.engine.waiting.refusal? (due settings s i) with
    hall | ⟨j, hj, hbefore, d, hd⟩
  · obtain ⟨w, hrun, hw⟩ := completeAt_exact shown settings n instruction data s hn hall
    obtain ⟨w', hreal, hw'⟩ := complete_doubles settings n instruction data s hn hm
      fun i hi => (halike i hi).trans (hall i hi)
    exact ⟨_, _, w, w', Nat.le_refl _, hrun, hreal, hw'.events.trans hw.events.symm,
      hw'.usage.trans hw.usage.symm, hw.waits, hw'.waits⟩
  · obtain ⟨w, hrun, hw⟩ :=
      completeAt_exact_unmade shown settings n instruction data s hn hj hbefore hd
    obtain ⟨w', hreal, hw'⟩ := complete_doubles_unmade settings n instruction data s hn hj
      (Nat.lt_of_lt_of_le hj hm)
      (fun i hi => (halike i (Nat.lt_trans hi hj)).trans (hbefore i hi)) ((halike j hj).trans hd)
    exact ⟨_, j, w, w', hj.le, hrun, hreal, hw'.events.trans hw.events.symm,
      hw'.usage.trans hw.usage.symm, hw.waits, hw'.waits⟩

/-- A completion that was refused 1025 times, and may ask again, fails because it cannot reckon how
long to wait. -/
theorem completion_overflow (hn : settings.retries = n) (h : 1024 < again s.engine.endpoint n)
    (hmade : ∀ i < 1024, s.engine.waiting.defect? (dueDouble settings s i) = none) :
    ∃ t, Refused .doubles settings (conversation instruction data) (connected settings s) 1024 t ∧
      (complete settings instruction data).on s =
        (.error .tooLargeForDouble, asked settings (conversation instruction data) t) := by
  obtain ⟨t, ht⟩ : ∃ t, Refused .doubles settings (conversation instruction data)
      (connected settings s) 1024 t :=
    exists_refused _ _ _ _ _ (fun _ hj => refused_before (Nat.lt_trans hj h))
      (fun j hj => doubles_after settings.firstWait hj _) hmade
  obtain ⟨left, hleft, hrefusal, hgoes⟩ := ht.completeAt hn instruction data s h
  exact ⟨t, ht, hgoes.trans (attempts_unreckoned _ _ _ hleft hrefusal
    (doubles_after_of_error toDouble_two_pow _))⟩

end Completions

/-- **Requests are made again.**  An endpoint gives some refusals in a row.  If all waits can be made, a
completion makes as many requests again as were refused, but no more than it may, so it makes one
request more than these, all of them the same.  If another answer comes in time it comes to what
that answer is worth, else to the refusal of the last request.  Between a refused request and the
next one it waits, once, for the first wait doubled after every attempt, or longer if the endpoint
asks for it.  It keeps the usage that the last answer carries, and always has an answer to end with.

The first wait that cannot be made ends a completion: no request is made again after it, and the
usage stays.

A completion whose waits are doubles differs in the waits only, and not in these where the doubled
waits are in the range of doubles. -/
theorem completion_retried (shown : Option EReal → String) (settings : Settings) (n : Nat)
    (instruction data : String) (s : Work) :
    let settings := { settings with retries := n }
    let messages := conversation instruction data
    let e := s.engine.endpoint
    let m := (min e.refusals n).toNat
    let delay := fun i => dueWait settings.firstWait i (e.answer i).header
    let made := fun i => s.engine.waiting.refusal? (delay i) = none
    let alike := fun i => s.engine.waiting.defect?
      (doubleWait settings.firstWait i (e.answer i).header) = s.engine.waiting.refusal? (delay i)
    let run := (completeAt (.exact shown) settings instruction data).on (exactly s)
    let real := (complete settings instruction data).on s
    ((∀ i < m, made i) →
      run.2.engine.endpoint.events =
          List.replicate (m + 1) (settings.asks messages) ++ settings.connection :: e.events ∧
        (∀ k : Nat, e.refusals = k → k ≤ n →
          (e.answer k).isRefusal = false ∧ run.1 = (e.answer k).outcome) ∧
        ((n : ℕ∞) < e.refusals →
          (e.answer n).isRefusal = true ∧ run.1 = (e.answer n).outcome) ∧
        run.2.engine.endpoint.waits = ((List.range m).map delay).reverse ++ e.waits.map value? ∧
        (∃ t, Refused (.exact shown) settings messages (connected settings (exactly s)) m t ∧
          run.2 = used (e.answer m).usage? (asked settings messages t)) ∧
        run.2.engine.usage = (e.answer m).usage?.getD s.engine.usage) ∧
      (∀ j < m, (∀ i < j, made i) → ∀ d, s.engine.waiting.refusal? (delay j) = some d →
        run.1 = .error (.wait d) ∧
          run.2.engine.endpoint.events =
            List.replicate (j + 1) (settings.asks messages) ++ settings.connection :: e.events ∧
          run.2.engine.endpoint.waits = ((List.range j).map delay).reverse ++ e.waits.map value? ∧
          run.2.engine.usage = s.engine.usage) ∧
      run.1 ≠ .error .chatUnreached ∧
      (m ≤ 1024 →
        ((∀ i < m, alike i) → real.1 = run.1 ∧
          real.2.engine.endpoint.events = run.2.engine.endpoint.events ∧
          real.2.engine.usage = run.2.engine.usage) ∧
        ((∀ i < m, settings.firstWait.magnitude * 2 ^ i < Binary64.beyond) → (∀ i < m, alike i) ∧
          real.2.engine.endpoint.waits.map value? = run.2.engine.endpoint.waits)) := by
  intro settings messages e m delay made alike run real
  have hended (hall : ∀ i < m, made i) := completeAt_exact shown settings n instruction data s rfl hall
  have hhalted {j : Nat} (hj : j < m) (hbefore : ∀ i < j, made i) {d : WaitDefect}
      (hd : s.engine.waiting.refusal? (delay j) = some d) :=
    completeAt_exact_unmade shown settings n instruction data s rfl hj hbefore hd
  refine ⟨fun hall => ?_, fun j hj hbefore d hd => ?_, ?_, fun hm => ⟨fun halike => ?_,
    fun hrange => ?_⟩⟩
  · obtain ⟨w, hrun, hw⟩ := hended hall
    have hresult : run.1 = (e.answer m).outcome := congrArg Prod.fst hrun
    rw [show run.2 = w from congrArg Prod.snd hrun, hresult]
    refine ⟨hw.events, fun k hk hn => ?_, fun hn => ?_, hw.waits, hw.inTurn, hw.usage⟩
    · have hm : m = k := again_of_le hk hn
      rw [hm]
      exact ⟨e.answer_refusals hk, rfl⟩
    · have hm : m = n := again_of_lt hn
      rw [hm]
      exact ⟨(e.lt_refusals n).mp hn n (Nat.le_refl n), rfl⟩
  · obtain ⟨w, hrun, hw⟩ := hhalted hj hbefore hd
    rw [show run.2 = w from congrArg Prod.snd hrun]
    exact ⟨congrArg Prod.fst hrun, hw.events, hw.waits, hw.usage⟩
  · rcases all_or_first fun i => s.engine.waiting.refusal? (delay i) with
      hall | ⟨j, hj, hbefore, d, hd⟩
    · obtain ⟨w, hrun, -⟩ := hended hall
      rw [show run.1 = _ from congrArg Prod.fst hrun]
      exact (e.answer m).outcome_ne_unreached
    · obtain ⟨w, hrun, -⟩ := hhalted hj hbefore hd
      rw [show run.1 = _ from congrArg Prod.fst hrun]
      exact nofun
  · obtain ⟨outcome, j, w, w', -, hrun, hreal, hevents, husage, -, -⟩ :=
      complete_counterpart shown settings n instruction data s rfl hm halike
    rw [show run = _ from hrun, show real = _ from hreal]
    exact ⟨rfl, hevents, husage⟩
  · have hvalues : ∀ i < m, (dueDouble settings s i).value? = delay i := fun i hi =>
      value?_dueDouble (Nat.lt_of_lt_of_le hi hm) (hrange i hi)
    have halike : ∀ i < m, alike i := fun i hi =>
      (Waiting.defect?_eq _ _).trans (congrArg _ (hvalues i hi))
    obtain ⟨outcome, j, w, w', hj, hrun, hreal, -, -, hwaits, hwaits'⟩ :=
      complete_counterpart shown settings n instruction data s rfl hm halike
    rw [show run = _ from hrun, show real = _ from hreal]
    refine ⟨halike, ?_⟩
    dsimp only
    rw [hwaits, hwaits', List.map_append, List.map_reverse, List.map_map]
    exact congrArg (·.reverse ++ e.waits.map value?) (List.map_congr_left fun i hi =>
      hvalues i (Nat.lt_of_lt_of_le (List.mem_range.mp hi) hj))

/-- A success need not have a choice to read a text from. -/
theorem completion_without_choice :
    let settings : Settings :=
      { model := "m", address := none, key := some "k", maxTokens := .int 4096, retries := 3,
        firstWait := .ofInt 2 }
    let s : Work :=
      ⟨{ endpoint := { answers := [.completion [] none], otherwise := .failed "" } }, []⟩
    s.engine.endpoint.answer 0 = .completion [] none ∧
      ¬∃ text, ((complete settings "" "hi").on s).1 = .ok text := by
  intro settings s
  have hfault : ((complete settings "" "hi").on s).1 = .error .noElement := rfl
  refine ⟨rfl, ?_⟩
  rintro ⟨text, htext⟩
  rw [hfault] at htext
  cases htext

end Author

end StoryServer
