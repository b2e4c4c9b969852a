import StoryServer.Proofs.Tool.Likeness

/-!
# The session that a request names

The session of a request is read from one argument, and no other argument is read under its
key.  So a request names the session in the argument (`Request.read_target`), and with another
id in the argument the same request is made of another session (`Request.read_named`).
-/

namespace StoryServer

/-- Whether a tool takes the id of a session. -/
def Tool.takesSession : Tool → Bool
  | .compileInk | .listSessions | .bidify | .stripBidi | .bidifyJson | .llmChat | .generateInk
  | .reviewInk | .translateInkHebrew | .generateCompilePlay | .modelInfo => false
  | _ => true

namespace Request

open Argument

/-- The session that a request names: the one it works on, or the one it starts. -/
def target : Request → Option String
  | .startStory _ id => id
  | .startStoryJson _ id _ => id
  | r => r.session?

/-! ## Reading -/

/-- Every request that is read has a property. -/
def Reads (P : Request → Prop) (read : Except ArgumentDefect Request) : Prop :=
  ∀ r, read = .ok r → P r

variable {P : Request → Prop}

theorem reads_pure {r : Request} (h : P r) : Reads P (pure r) := by
  intro q hq
  obtain rfl : r = q := Except.ok.inj hq
  exact h

theorem reads_bind {α : Type} {x : Except ArgumentDefect α}
    {next : α → Except ArgumentDefect Request} (h : ∀ a, x = .ok a → Reads P (next a)) :
    Reads P (x >>= next) := by
  intro r hr
  cases hx : x with
  | error d => rw [hx] at hr; cases hr
  | ok a => exact h a hx r (by rwa [hx] at hr)

theorem session_text {fields : Fields} {id : String} (h : session fields = .ok id) :
    fields.get? "session_id" = some (.str id) := by
  rw [session, text, Argument.given, given?] at h
  generalize fields.get? "session_id" = v at h
  cases v with
  | none => cases h
  | some v =>
      cases v <;> cases h
      rfl

theorem optionalText_text {fields : Fields} {id : String}
    (h : optionalText fields "session_id" = .ok (some id)) :
    fields.get? "session_id" = some (.str id) := by
  rw [optionalText] at h
  suffices htext : session fields = .ok id from session_text htext
  cases hg : given? fields "session_id" with
  | none => rw [hg] at h; cases h
  | some v =>
      rw [hg] at h
      rw [session]
      generalize text fields "session_id" = x at h
      cases x <;> cases h
      rfl

/-- The session in the arguments. -/
theorem read_target {fields : Fields} {tool : Tool} :
    Reads (fun r => ∀ a, r.target = some a →
      tool.takesSession = true ∧ fields.get? "session_id" = some (.str a)) (read fields tool) := by
  have hsession : ∀ {id : String}, session fields = .ok id → ∀ a, some id = some a →
      true = true ∧ fields.get? "session_id" = some (.str a) := by
    intro id hid a ha
    exact ⟨rfl, Option.some.inj ha ▸ session_text hid⟩
  have hstart : ∀ {id : Option String}, optionalText fields "session_id" = .ok id → ∀ a, id = some a →
      true = true ∧ fields.get? "session_id" = some (.str a) := by
    rintro _ hid a rfl
    exact ⟨rfl, optionalText_text hid⟩
  have hnone : ∀ {p : Bool}, ∀ a, none = some a →
      p = true ∧ fields.get? "session_id" = some (.str a) := fun _ h => nomatch h
  cases tool <;> unfold read <;>
    repeat first
      | exact reads_pure hnone
      | exact reads_pure (hsession ‹_›)
      | exact reads_pure (hstart ‹_›)
      | refine reads_bind fun _ _ => ?_

/-- A tool that takes the id of a session makes a request of the session in the arguments. -/
theorem read_names {fields : Fields} {tool : Tool} {a : String} (ht : tool.takesSession = true)
    (h : fields.get? "session_id" = some (.str a)) :
    Reads (fun r => r.target = some a) (read fields tool) := by
  have hsession : ∀ {id : String}, session fields = .ok id → some id = some a := by
    intro id hid
    have hsame := h.symm.trans (session_text hid)
    obtain rfl : a = id := by simpa using hsame
    rfl
  have hstart : ∀ {id : Option String}, optionalText fields "session_id" = .ok id → id = some a := by
    intro id hid
    have htext : text fields "session_id" = .ok a := by
      rw [text, Argument.given, given?, h]
      rfl
    rw [optionalText, given?, h, htext] at hid
    exact (Except.ok.inj hid).symm
  cases tool with
  | compileInk | listSessions | bidify | stripBidi | bidifyJson | llmChat | generateInk | reviewInk
  | translateInkHebrew | generateCompilePlay | modelInfo => cases ht
  | _ =>
      unfold read
      repeat first
        | exact reads_pure (hsession ‹_›)
        | exact reads_pure (hstart ‹_›)
        | refine reads_bind fun _ _ => ?_

/-- Only the tools for debugging make requests about debugging. -/
theorem read_debugs {fields : Fields} {tool : Tool} :
    Reads (fun r => r.debugs = true → tool ∈ Tool.ofGroup .debug) (read fields tool) := by
  cases tool <;> unfold read <;>
    repeat first
      | exact reads_pure fun _ => by decide
      | exact reads_pure fun h => by cases h
      | refine reads_bind fun _ _ => ?_

/-- A request is read from the members of an object, or needs no arguments. -/
theorem ofJson_ok {arguments : Json} {tool : Tool} {r : Request}
    (h : ofJson arguments tool = .ok r) :
    (∃ fields, arguments = .obj fields ∧ read fields tool = .ok r) ∨
      r = .listSessions ∨ (r = .modelInfo ∧ tool = .modelInfo) := by
  cases arguments with
  | obj fields =>
      rw [ofJson_obj] at h
      refine .inl ⟨fields, rfl, ?_⟩
      cases hread : read fields tool with
      | error d => rw [hread] at h; cases h
      | ok q => rw [hread] at h; rw [Except.ok.inj h]
  | _ =>
      refine .inr ?_
      cases tool with
      | listSessions => exact .inl (Except.ok.inj h).symm
      | modelInfo => exact .inr ⟨(Except.ok.inj h).symm, rfl⟩
      | _ => cases h

section Put

variable {fields : Fields} {key other : String} {v : Json}

theorem given?_put (h : key ≠ other) : given? (fields.put other v) key = given? fields key := by
  rw [given?, given?, Fields.get?_put_of_ne fields v h]

theorem text_put (h : key ≠ other) : text (fields.put other v) key = text fields key := by
  rw [text, text, Argument.given, Argument.given, given?_put h]

theorem integer_put (h : key ≠ other) : integer (fields.put other v) key = integer fields key := by
  rw [integer, integer, Argument.given, Argument.given, given?_put h]

theorem optionalText_put (h : key ≠ other) :
    optionalText (fields.put other v) key = optionalText fields key := by
  rw [optionalText, optionalText, given?_put h, text_put h]

theorem optionalInteger_put (h : key ≠ other) (n : Int) :
    optionalInteger (fields.put other v) key n = optionalInteger fields key n := by
  rw [optionalInteger, optionalInteger, given?_put h]

theorem optionalBoolean_put (h : key ≠ other) (b : Bool) :
    optionalBoolean (fields.put other v) key b = optionalBoolean fields key b := by
  rw [optionalBoolean, optionalBoolean, given?_put h]

theorem optionalArray_put (h : key ≠ other) :
    optionalArray (fields.put other v) key = optionalArray fields key := by
  rw [optionalArray, optionalArray, given?_put h]

theorem scalar_put (h : key ≠ other) : scalar (fields.put other v) key = scalar fields key := by
  rw [scalar, scalar, Fields.get?_put_of_ne fields v h]

theorem breakpointKey_put (h : "breakpoint_id" ≠ other) (h' : "id" ≠ other) :
    breakpointKey (fields.put other v) = breakpointKey fields := by
  rw [breakpointKey, breakpointKey, given?_put h, given?_put h']

/-- A breakpoint is named under one of two keys. -/
theorem breakpointKey_mem (h : breakpointKey fields = .ok key) : key ∈ ["breakpoint_id", "id"] := by
  rw [breakpointKey] at h
  split at h
  · obtain rfl := Except.ok.inj h
    exact List.mem_cons_self
  · split at h
    · obtain rfl := Except.ok.inj h
      exact List.mem_cons_of_mem _ List.mem_cons_self
    · cases h

end Put

theorem session_of_text {fields : Fields} {id : String}
    (h : fields.get? "session_id" = some (.str id)) : session fields = .ok id := by
  rw [session, text, Argument.given, given?, h]
  rfl

/-- Another id makes the same request of another session. -/
theorem read_named {fields : Fields} {tool : Tool} {a : String} (b : String)
    (ht : tool.takesSession = true) (h : fields.get? "session_id" = some (.str a)) :
    read (fields.put "session_id" (.str b)) tool = (·.named b) <$> read fields tool := by
  have hsession : session fields = pure a := session_of_text h
  have hsession' : session (fields.put "session_id" (.str b)) = pure b :=
    session_of_text (Fields.get?_put_self fields "session_id" (.str b))
  have hoptional : optionalText fields "session_id" = pure (some a) := by
    rw [optionalText, given?, h]
    exact congrArg (some <$> ·) hsession
  have hoptional' : optionalText (fields.put "session_id" (.str b)) "session_id" =
      pure (some b) := by
    rw [optionalText, given?, Fields.get?_put_self]
    exact congrArg (some <$> ·) hsession'
  cases tool with
  | compileInk | listSessions | bidify | stripBidi | bidifyJson | llmChat | generateInk | reviewInk
  | translateInkHebrew | generateCompilePlay | modelInfo => cases ht
  | removeBreakpoint =>
      have hkey : breakpointKey (fields.put "session_id" (.str b)) = breakpointKey fields :=
        breakpointKey_put (by decide) (by decide)
      simp only [read, hsession, hsession', hkey, map_bind, pure_bind, map_pure]
      cases hkey : breakpointKey fields with
      | error d => rfl
      | ok key =>
          have hne : key ≠ "session_id" := by
            rcases List.mem_cons.mp (breakpointKey_mem hkey) with rfl | hkey
            · decide
            · obtain rfl := List.mem_singleton.mp hkey
              decide
          exact congrArg (removeBreakpoint b <$> ·) (text_put hne)
  | _ =>
      simp [read, hsession, hsession', hoptional, hoptional', text_put, integer_put,
        optionalText_put, optionalInteger_put, optionalBoolean_put, optionalArray_put, scalar_put,
        named]

end Request

end StoryServer
