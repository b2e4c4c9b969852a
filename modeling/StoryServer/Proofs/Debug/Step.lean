import StoryServer.Debug.Debugger

/-!
# What a step does to a record

A step tells a line, judges it and concludes.  This module says what each part does to the
debug record of the session, for any story engine.

*Looking.*  After the line every watched variable is read again.  What was seen is a list of
`Change`s, of which `changesAmong` keeps those that are changes; it fails at the first
comparison that fails.  `Record.look` is what looking leaves in the record.

*Focus.*  `Focus id sessions P r s` says that `r` is the record of `id` on the server `s`,
which sessions there are, and that `P` holds of the stage.  Every part of a step goes from
one focus to the next.  `P` is what reading variables keeps of the stage, and `Q` what is
known of the values read (`Reads`); both are trivial for an engine of which nothing is known.

*Judging.*  `Judged` lists the ways in which a line is judged: a comparison fails, a test
fails, or there is a verdict.  Concluding fails only when the text cannot be cut.
-/

namespace StoryServer

/-- The debug record of a session, if there is one. -/
def Server.recordOf {ε : Type} (id : String) (s : Server ε) : Option Debug.Record :=
  s.records.find? (·.session == id)

namespace Debug

/-! ## Looking -/

/-- What was seen that is a change. -/
def changesAmong : List Change → Except Fault (List Change)
  | [] => .ok []
  | x :: rest => do
    if ← sameValue x.old x.new then changesAmong rest
    else return x :: (← changesAmong rest)

theorem changesAmong_cons (x : Change) (rest : List Change) :
    changesAmong (x :: rest) =
      match sameValue x.old x.new with
      | .error f => .error f
      | .ok true => changesAmong rest
      | .ok false => (changesAmong rest).map (x :: ·) := by
  rw [changesAmong]
  cases sameValue x.old x.new with
  | error f => rfl
  | ok same =>
      cases same with
      | true => rfl
      | false => cases changesAmong rest <;> rfl

/-- A comparison that fails spoils every longer list. -/
theorem changesAmong_append_error {seen : List Change} {f : Fault} (h : changesAmong seen = .error f)
    (rest : List Change) : changesAmong (seen ++ rest) = .error f := by
  induction seen with
  | nil => cases h
  | cons x seen ih =>
      rw [List.cons_append, changesAmong_cons]
      rw [changesAmong_cons] at h
      cases hs : sameValue x.old x.new with
      | error g =>
          rw [hs] at h
          exact h
      | ok same =>
          rw [hs] at h
          cases same with
          | true => exact ih h
          | false =>
              cases hrest : changesAmong seen with
              | error g =>
                  rw [hrest] at h
                  obtain rfl : g = f := by simpa [Except.map] using h
                  rw [ih hrest]
                  rfl
              | ok changes =>
                  rw [hrest] at h
                  cases h

/-- A watch after a variable was seen. -/
def Watch.look (w : Watch) (x : Change) : Watch :=
  if w.name == x.name then
    match sameValue x.old x.new with
    | .ok false => { w with last := x.new, changes := w.changes + 1 }
    | _ => { w with last := x.new }
  else w

theorem Watch.look_name (w : Watch) (x : Change) : (w.look x).name = w.name := by
  rw [Watch.look]
  split
  · split <;> rfl
  · rfl

theorem Watch.looks_name (seen : List Change) (w : Watch) :
    (seen.foldl Watch.look w).name = w.name := by
  induction seen generalizing w with
  | nil => rfl
  | cons x rest ih => rw [List.foldl_cons, ih, Watch.look_name]

namespace Record

/-- A record after variables were seen. -/
def look (r : Record) (seen : List Change) : Record :=
  { r with watches := r.watches.map fun w => seen.foldl Watch.look w }

theorem look_nil (r : Record) : r.look [] = r := by
  simp only [look, List.foldl_nil, List.map_id']

theorem look_cons (r : Record) (x : Change) (seen : List Change) :
    r.look (x :: seen) = (r.look [x]).look seen := by
  simp only [look, List.foldl_cons, List.foldl_nil, List.map_map]
  rfl

/-- Looking leaves the names of the watches. -/
theorem look_names (r : Record) (seen : List Change) :
    (r.look seen).watches.map (·.name) = r.watches.map (·.name) := by
  rw [Record.look, List.map_map]
  exact List.map_congr_left fun w _ => w.looks_name seen

/-- A record with one more line counted. -/
def count (r : Record) (text : Json) : Record := { r with steps := r.steps + 1, lastOutput := text }

/-- A record that is paused if a breakpoint was hit. -/
def pauseAt (r : Record) (hit : Option Breakpoint) : Record :=
  { r with paused := r.paused || hit.isSome }

theorem pauseAt_none (r : Record) : r.pauseAt none = r := by
  rw [pauseAt, Option.isSome_none, Bool.or_false]

theorem pauseAt_some (r : Record) (b : Breakpoint) : r.pauseAt (some b) = { r with paused := true } := by
  rw [pauseAt, Option.isSome_some, Bool.or_true]

end Record

/-! ## Focus -/

section Focus

variable {ε : Type} {engine : StoryEngine ε} {id : String} {sessions : List Session}
variable {P : Stage ε → Prop} {Q : String → Json → Prop} {r : Record} {s : Server ε}
variable {story : StoryId}

/-- The record, the sessions, and what is known of the stage. -/
structure Focus (id : String) (sessions : List Session) (P : Stage ε → Prop) (r : Record)
    (s : Server ε) : Prop where
  record : s.recordOf id = some r
  sessions : s.sessions = sessions
  /-- What is known of the stage. -/
  stage : P s.stage

/-- What reading variables keeps of the stage, and what is known of the values read. -/
structure Reads (engine : StoryEngine ε) (story : StoryId) (P : Stage ε → Prop)
    (Q : String → Json → Prop) : Prop where
  note (line : String) (x : Stage ε) : P x → P ((Stage.note line).on x).2
  /-- A variable that cannot be read counts as null. -/
  read (name : String) (x : Stage ε) : P x → P ((engine.getVariable story name).on x).2 ∧
    match ((engine.getVariable story name).on x).1 with
    | .ok v => Q name v
    | .error _ => Q name .null

/-- What is known of every line that an engine tells. -/
def Tells (engine : StoryEngine ε) (T : Continuation → Prop) : Prop :=
  ∀ story x c y, (engine.continueLine story).on x = (.ok c, y) → T c

theorem tells_any (engine : StoryEngine ε) : Tells engine fun _ => True :=
  fun _ _ _ _ _ => trivial

/-- A line that has a text. -/
def HasText (c : Continuation) : Prop := ∃ line, c.text = .str line

/-- Of an engine nothing needs to be known. -/
theorem reads_any (engine : StoryEngine ε) (story : StoryId) :
    Reads engine story (fun _ => True) fun _ _ => True where
  note _ _ _ := trivial
  read _ _ _ := ⟨trivial, by split <;> trivial⟩

theorem record_on (h : s.recordOf id = some r) : (Server.record id).on s = (.ok r, s) := by
  have hfind : s.records.find? (·.session == id) = some r := h
  rw [Server.record, Act.on_bind, Act.on_get]
  simp only [hfind, Act.on_pure]

theorem record_none (h : s.recordOf id = none) :
    (Server.record id).on s = (.error (.noDebugSession id), s) := by
  have hfind : s.records.find? (·.session == id) = none := h
  rw [Server.record, Act.on_bind, Act.on_get]
  simp only [hfind, Act.on_throw]

theorem update_on (f : Record → Record) (s : Server ε) :
    (update id f).on s = (.ok ⟨⟩, ((update id f).on s).2) := rfl

theorem recordOf_update {f : Record → Record} (hf : ∀ q, (f q).session = q.session) (s : Server ε) :
    ((update id f).on s).2.recordOf id = (s.recordOf id).map f := by
  have hfind : ∀ records : List Record,
      (records.map fun q => if q.session == id then f q else q).find? (·.session == id) =
        (records.find? (·.session == id)).map f := by
    intro records
    induction records with
    | nil => rfl
    | cons q rest ih =>
        rw [List.map_cons, List.find?_cons, List.find?_cons]
        cases hq : q.session == id with
        | true => simp only [if_true, hf, hq, Option.map_some]
        | false => simp only [Bool.false_eq_true, if_false, hq, ih]
  exact hfind s.records

theorem record_update (h : s.recordOf id = some r) {f : Record → Record}
    (hf : ∀ q, (f q).session = q.session) : ((update id f).on s).2.recordOf id = some (f r) := by
  rw [recordOf_update hf, h]
  rfl

theorem Focus.update (h : Focus id sessions P r s) {f : Record → Record}
    (hf : ∀ q, (f q).session = q.session) : Focus id sessions P (f r) ((update id f).on s).2 where
  record := record_update h.record hf
  sessions := h.sessions
  stage := h.stage

theorem Focus.note (h : Focus id sessions P r s) (hr : Reads engine story P Q) (line : String) :
    Focus id sessions P r ((Server.note line).on s).2 :=
  ⟨h.record, h.sessions, hr.note line s.stage h.stage⟩

/-! ### Reading -/

theorem readVariable_focus (h : Focus id sessions P r s) (hr : Reads engine story P Q)
    (name : String) : ∃ v t, (readVariable engine story name).on s = (.ok v, t) ∧ Q name v ∧
      Focus id sessions P r t := by
  obtain ⟨hP, hQ⟩ := hr.read name s.stage h.stage
  have hstage : Focus id sessions P r
      { s with stage := ((engine.getVariable story name).on s.stage).2 } :=
    ⟨h.record, h.sessions, hP⟩
  rw [readVariable, Act.on_bind, Act.on_attempt, Server.onStage, Act.on_within]
  cases hread : ((engine.getVariable story name).on s.stage).1 with
  | ok v =>
      rw [hread] at hQ
      exact ⟨v, _, rfl, hQ, hstage⟩
  | error f =>
      rw [hread] at hQ
      exact ⟨.null, _, rfl, hQ, hstage.note hr _⟩

theorem readVariables_focus (hr : Reads engine story P Q) : ∀ (names : List String) {s : Server ε},
    Focus id sessions P r s →
      ∃ values t, (readVariables engine story names).on s = (.ok values, t) ∧
        values.map Prod.fst = names ∧ (∀ p ∈ values, Q p.1 p.2) ∧ Focus id sessions P r t
  | [], s, h => ⟨[], s, rfl, rfl, by simp, h⟩
  | name :: rest, s, h => by
      obtain ⟨v, t, ht, hv, hfocus⟩ := readVariable_focus h hr name
      obtain ⟨values, u, hu, hnames, hvalues, hlast⟩ := readVariables_focus hr rest hfocus
      refine ⟨(name, v) :: values, u, ?_, by rw [List.map_cons, hnames], ?_, hlast⟩
      · rw [readVariables, Act.on_bind_of_ok ht, Act.on_bind_of_ok hu, Act.on_pure]
      · exact List.forall_mem_cons.mpr ⟨hv, hvalues⟩

/-! ### Looking at the watches -/

theorem Record.look_same {name : String} {old new : Json} (r : Record)
    (h : sameValue old new ≠ .ok false) :
    r.look [⟨name, old, new⟩] = r.updateWatch name fun w => { w with last := new } := by
  have hwatch : ∀ w : Watch, w.look ⟨name, old, new⟩ =
      if w.name == name then { w with last := new } else w := by
    intro w
    rw [Watch.look]
    split
    · split
      · next hs => exact absurd hs h
      · rfl
    · rfl
  simp only [look, List.foldl_cons, List.foldl_nil, hwatch, updateWatch]

theorem Record.look_changed {name : String} {old new : Json} (r : Record)
    (h : sameValue old new = .ok false) :
    r.look [⟨name, old, new⟩] = (r.updateWatch name fun w => { w with last := new }).updateWatch name
      fun w => { w with changes := w.changes + 1 } := by
  have hwatch : ∀ w : Watch, w.look ⟨name, old, new⟩ =
      if w.name == name then { w with last := new, changes := w.changes + 1 } else w := by
    intro w
    rw [Watch.look, h]
  simp only [look, List.foldl_cons, List.foldl_nil, hwatch, updateWatch, List.map_map]
  congr 1
  refine List.map_congr_left fun w _ => ?_
  cases hw : w.name == name <;> simp [Function.comp, hw]

/-- One look: the variable is read, its watch is set, and the comparison may fail. -/
theorem lookAtWatches_cons (h : Focus id sessions P r s) (hr : Reads engine story P Q)
    (name : String) (old : Json) (rest : List (String × Json)) :
    ∃ new t, Q name new ∧ Focus id sessions P (r.look [⟨name, old, new⟩]) t ∧
      (lookAtWatches engine id story ((name, old) :: rest)).on s =
        match sameValue old new with
        | .error f => (.error f, t)
        | .ok true => (lookAtWatches engine id story rest).on t
        | .ok false =>
          (((lookAtWatches engine id story rest).on t).1.map (⟨name, old, new⟩ :: ·),
            ((lookAtWatches engine id story rest).on t).2) := by
  obtain ⟨new, t, ht, hnew, hfocus⟩ := readVariable_focus h hr name
  have hseen := hfocus.update (f := (·.updateWatch name fun w => { w with last := new }))
    fun _ => rfl
  cases hsame : sameValue old new with
  | error f =>
      refine ⟨new, _, hnew, (r.look_same (by rw [hsame]; simp)).symm ▸ hseen, ?_⟩
      rw [lookAtWatches, Act.on_bind_of_ok ht, Act.on_bind_of_ok (update_on _ _), hsame]
      rfl
  | ok same =>
      cases same with
      | true =>
          refine ⟨new, _, hnew, (r.look_same (by rw [hsame]; simp)).symm ▸ hseen, ?_⟩
          rw [lookAtWatches, Act.on_bind_of_ok ht, Act.on_bind_of_ok (update_on _ _), hsame]
          rfl
      | false =>
          have hchanged := hseen.update
            (f := (·.updateWatch name fun w => { w with changes := w.changes + 1 })) fun _ => rfl
          refine ⟨new, _, hnew, (r.look_changed hsame).symm ▸ hchanged, ?_⟩
          rw [lookAtWatches, Act.on_bind_of_ok ht, Act.on_bind_of_ok (update_on _ _), hsame,
            Act.on_bind, Act.on_ofExcept]
          simp only [Bool.false_eq_true, if_false]
          rw [Act.on_bind_of_ok (update_on _ _), Act.on_bind]
          generalize (lookAtWatches engine id story rest).on _ = run
          obtain ⟨r, u⟩ := run
          cases r <;> rfl

theorem lookAtWatches_focus (hr : Reads engine story P Q) : ∀ (before : List (String × Json))
    {r : Record} {s : Server ε}, Focus id sessions P r s →
      ∃ seen rest t, (lookAtWatches engine id story before).on s = (changesAmong seen, t) ∧
        before = (seen.map fun x => (x.name, x.old)) ++ rest ∧
        ((∃ changes, changesAmong seen = .ok changes) → rest = []) ∧
        (∀ x ∈ seen, Q x.name x.new) ∧ Focus id sessions P (r.look seen) t
  | [], r, s, h => ⟨[], [], s, rfl, rfl, fun _ => rfl, by simp, (Record.look_nil r).symm ▸ h⟩
  | (name, old) :: before, r, s, h => by
      obtain ⟨new, t, hnew, hfocus, hon⟩ := lookAtWatches_cons h hr name old before
      obtain ⟨seen, rest, u, hu, hbefore, hall, hseen, hlast⟩ := lookAtWatches_focus hr before hfocus
      rw [← Record.look_cons] at hlast
      cases hsame : sameValue old new with
      | error f =>
          refine ⟨[⟨name, old, new⟩], before, t, ?_, rfl, ?_, by simpa using hnew, hfocus⟩
          · rw [hon, hsame, changesAmong_cons, hsame]
          · rintro ⟨changes, hc⟩
            rw [changesAmong_cons, hsame] at hc
            cases hc
      | ok same =>
          refine ⟨⟨name, old, new⟩ :: seen, rest, u, ?_, by rw [hbefore]; rfl, ?_,
            List.forall_mem_cons.mpr ⟨hnew, hseen⟩, hlast⟩
          · rw [hon, hsame, changesAmong_cons, hsame, hu]
            cases same <;> rfl
          · rintro ⟨changes, hc⟩
            rw [changesAmong_cons, hsame] at hc
            cases same with
            | true => exact hall ⟨changes, hc⟩
            | false =>
                cases hamong : changesAmong seen with
                | error f =>
                    rw [hamong] at hc
                    cases hc
                | ok rest => exact hall ⟨rest, hamong⟩

/-! ### Telling -/

theorem focus_any (h : s.recordOf id = some r) : Focus id s.sessions (fun _ => True) r s :=
  ⟨h, rfl, trivial⟩

theorem session_on {session : Session} (h : s.sessions.find? (·.id == id) = some session) :
    (Server.session id).on s = (.ok session, s) := by
  rw [Server.session, Act.on_bind, Act.on_get]
  simp only [h, Act.on_pure]

theorem session_none (h : s.sessions.find? (·.id == id) = none) :
    (Server.session id).on s = (.error (.noSession id), s) := by
  rw [Server.session, Act.on_bind, Act.on_get]
  simp only [h, Act.on_throw]

/-- Telling the line changes no record, and remembers the watched variables by name. -/
theorem advance_record {T : Continuation → Prop} (hT : Tells engine T)
    (h : s.recordOf id = some r) :
    match (advance engine id).on s with
    | (.error _, t) => t.recordOf id = some r
    | (.ok p, t) => t.recordOf id = some r ∧ p.before.map Prod.fst = r.watches.map (·.name) ∧
        T p.told := by
  rw [advance]
  cases hs : s.sessions.find? (·.id == id) with
  | none =>
      rw [Act.on_bind_of_error (session_none hs)]
      exact h
  | some session =>
      rw [Act.on_bind_of_ok (session_on hs), Act.on_bind_of_ok (record_on h), Act.on_bind,
        Server.onStage, Act.on_within]
      cases ((engine.canContinue session.story).on s.stage).1 with
      | error f => exact h
      | ok can =>
          cases can with
          | false =>
              simp only [Bool.not_false, if_true, Act.on_bind, Server.onStage, Act.on_within]
              cases ((engine.choices session.story).on _).1 <;> exact h
          | true =>
              have hcan : Focus id s.sessions (fun _ => True) r
                  { s with stage := ((engine.canContinue session.story).on s.stage).2 } :=
                ⟨h, rfl, trivial⟩
              obtain ⟨values, t, ht, hnames, -, hfocus⟩ := readVariables_focus
                (reads_any engine session.story) (r.watches.map (·.name)) hcan
              simp only [Bool.not_true, Bool.false_eq_true, if_false]
              rw [Act.on_bind_of_ok ht, Act.on_bind, Server.onStage, Act.on_within]
              cases hline : (engine.continueLine session.story).on t.stage with
              | mk res x =>
                  cases res with
                  | error f => exact hfocus.record
                  | ok told => exact ⟨hfocus.record, hnames, hT _ _ _ _ hline⟩

/-! ### Judging -/

/-- The ways in which a line is judged. -/
inductive Judged (r : Record) (p : Passage) (seen : List Change) : Except Fault Verdict → Prop where
  | uncompared {rest : List (String × Json)} {f : Fault}
      (hseen : p.before = (seen.map fun x => (x.name, x.old)) ++ rest)
      (hc : changesAmong seen = .error f) : Judged r p seen (.error f)
  | untested {changes : List Change} {f : Fault}
      (hseen : p.before = seen.map fun x => (x.name, x.old)) (hc : changesAmong seen = .ok changes)
      (ht : firstHit p.told.text (changes.map (·.name)) r.breakpoints = .error f) :
      Judged r p seen (.error f)
  | judged {changes : List Change} {hit : Option Breakpoint}
      (hseen : p.before = seen.map fun x => (x.name, x.old)) (hc : changesAmong seen = .ok changes)
      (ht : firstHit p.told.text (changes.map (·.name)) r.breakpoints = .ok hit) :
      Judged r p seen (.ok { number := r.steps + 1, changes, hit })

theorem judge_focus {p : Passage} (h : Focus id sessions P r s) (hr : Reads engine p.story P Q) :
    ∃ res seen t, (judge engine id p).on s = (res, t) ∧ Judged r p seen res ∧
      (∀ x ∈ seen, Q x.name x.new) ∧
      Focus id sessions P ((r.count p.told.text).look seen) t := by
  have hcount := h.update
    (f := fun q => { q with steps := r.steps + 1, lastOutput := p.told.text }) fun _ => rfl
  obtain ⟨seen, rest, t, ht, hbefore, hall, hseen, hlook⟩ := lookAtWatches_focus hr p.before hcount
  have hjudge : (judge engine id p).on s =
      match changesAmong seen with
      | .error f => (.error f, t)
      | .ok changes =>
        match firstHit p.told.text (changes.map (·.name)) r.breakpoints with
        | .error f => (.error f, t)
        | .ok hit => (.ok { number := r.steps + 1, changes, hit }, t) := by
    rw [judge, Act.on_bind_of_ok (record_on h.record), Act.on_bind_of_ok (update_on _ _),
      Act.on_bind, ht]
    cases changesAmong seen with
    | error f => rfl
    | ok changes =>
        dsimp only
        rw [Act.on_bind_of_ok (record_on hlook.record), Act.on_bind, Act.on_ofExcept]
        simp only [Record.look]
        cases firstHit p.told.text (changes.map (·.name)) r.breakpoints <;> rfl
  cases hc : changesAmong seen with
  | error f =>
      rw [hc] at hjudge
      exact ⟨_, seen, t, hjudge, .uncompared hbefore hc, hseen, hlook⟩
  | ok changes =>
      rw [hall ⟨changes, hc⟩, List.append_nil] at hbefore
      rw [hc] at hjudge
      cases hf : firstHit p.told.text (changes.map (·.name)) r.breakpoints with
      | error f =>
          simp only [hf] at hjudge
          exact ⟨_, seen, t, hjudge, .untested hbefore hc hf, hseen, hlook⟩
      | ok hit =>
          simp only [hf] at hjudge
          exact ⟨_, seen, t, hjudge, .judged hbefore hc hf, hseen, hlook⟩

/-! ### Concluding -/

/-- What a step says of the line that it told. -/
def Verdict.outcome (v : Verdict) (told : Continuation) (paused : Bool) : StepOutcome :=
  { text := told.text, canContinue := told.canContinue, choices := told.choices, tags := told.tags
    number := v.number, paused, hit := v.hit, changes := v.changes }

theorem pauseAt_focus (h : Focus id sessions P r s) (hr : Reads engine story P Q) (number : Nat) :
    ∀ hit : Option Breakpoint, ∃ t, (pauseAt id number hit).on s = (.ok ⟨⟩, t) ∧
      Focus id sessions P (r.pauseAt hit) t
  | none => ⟨s, rfl, r.pauseAt_none.symm ▸ h⟩
  | some b => by
      have hpause := h.update (f := fun q => { q with paused := true }) fun _ => rfl
      rw [r.pauseAt_some b]
      exact ⟨_, rfl, hpause.note hr s!"[inky] {id}: step {number} hit {b.id}"⟩

/-- Where the text cannot be cut, the line is counted and not written down. -/
theorem conclude_error (h : Focus id sessions P r s) (hr : Reads engine story P Q)
    {told : Continuation} {v : Verdict} {f : Fault}
    (hf : beginning traceTextLimit told.text = .error f) :
    ∃ t, (conclude id told v).on s = (.error f, t) ∧
      Focus id sessions P (r.pauseAt v.hit) t := by
  obtain ⟨t, ht, hfocus⟩ := pauseAt_focus h hr v.number v.hit
  refine ⟨t, ?_, hfocus⟩
  rw [conclude, Act.on_bind_of_ok ht, hf]
  rfl

/-- A line that is concluded is the last one in the trace. -/
theorem conclude_ok (h : Focus id sessions P r s) (hr : Reads engine story P Q)
    {told : Continuation} {v : Verdict} {text : Json}
    (hf : beginning traceTextLimit told.text = .ok text) :
    ∃ time t, (conclude id told v).on s = (.ok (v.outcome told (r.pauseAt v.hit).paused), t) ∧
      Focus id sessions P ((r.pauseAt v.hit).visit
        { step := v.number, text, changed := v.changes.map (·.name), time }) t := by
  obtain ⟨t, ht, hfocus⟩ := pauseAt_focus h hr v.number v.hit
  have hclock : Focus id sessions P (r.pauseAt v.hit) ((Server.readClock (ε := ε)).on t).2 :=
    ⟨hfocus.record, hfocus.sessions, hfocus.stage⟩
  have hvisit := hclock.update (f := (·.visit
    { step := v.number, text, changed := v.changes.map (·.name), time := t.clock.now })) fun _ => rfl
  refine ⟨t.clock.now, _, ?_, hvisit⟩
  have hread : (Server.readClock (ε := ε)).on t =
      (.ok t.clock.now, ((Server.readClock (ε := ε)).on t).2) := rfl
  rw [conclude, Act.on_bind_of_ok ht, hf]
  rw [Act.on_bind, Act.on_ofExcept]
  dsimp only
  rw [Act.on_bind_of_ok hread, Act.on_bind_of_ok (update_on _ _),
    Act.on_bind_of_ok (record_on hvisit.record), Act.on_pure]
  rfl

end Focus

end Debug

end StoryServer
