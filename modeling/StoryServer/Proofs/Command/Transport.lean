import StoryServer.Proofs.Command.Occurrence
import StoryServer.Proofs.Command.Shutdown

/-!
# How messages are taken

Each option of a run has the value that the command line gives it last, else the one that the
environment gives it, else a usual one (`Options.Chosen`).  The two ways to take messages are checked
where a word gives one: a command line with another one is refused.  What the environment gives is
taken as it stands, so that a run can have any text for it.  A run takes lines if that is `stdio`, and
listens once if it is anything else (`transport_chosen`).
-/

namespace StoryServer

namespace Options

/-- The options have what is set last, else what the environment has, else what is usual. -/
structure Chosen (env : Environment) (settings : List (Flag × String)) (o : Options) : Prop where
  transport : o.transport = ((Flag.last .transport settings).or (env "INKY_TRANSPORT")).getD "sse"
  host : o.host = ((Flag.last .host settings).or (env "INKY_HOST")).getD "127.0.0.1"
  port : ((Flag.last .port settings).or (env "INKY_PORT")).elim (.ok 3001) Number.readInteger =
    .ok o.port
  program : o.program = ((Flag.last .node settings).or (env "INKY_NODE")).getD "node"
  module : o.module = ((Flag.last .inkjs settings).or (env "INKY_INKJS_MODULE")).getD "inkjs/full"
  bidify : o.bidify =
    (Flag.last .bidify settings).or ((env "INKY_BIDIFY_PATH").filter fun s => !s.isEmpty)
  noDebug : o.noDebug = ((Flag.last .noDebug settings).isSome || isSet env "INKY_DISABLE_DEBUG")
  noAuthor : o.noAuthor = (Flag.last .noLlm settings).isSome

theorem mem_of_last {f : Flag} {value : String} {settings : List (Flag × String)}
    (h : f.last settings = some value) : (f, value) ∈ settings := by
  obtain ⟨p, hp, hvalue⟩ := List.mem_filterMap.mp (List.mem_of_getLast? h)
  split_ifs at hvalue with hf
  obtain rfl := Option.some.inj hvalue
  exact hf ▸ hp

theorem elim_getD {α : Type} (x y : Option α) (d : α) :
    x.elim (y.getD d) id = (x.or y).getD d := by
  cases x <;> rfl

/-- An environment whose port is a number has options, and what is set over them is chosen. -/
theorem ofEnvironment_chosen {env : Environment} {port : Int}
    (hport : (env "INKY_PORT").elim (.ok 3001) Number.readInteger = .ok port) :
    ∃ usual, ofEnvironment env = .ok usual ∧
      ∀ settings : List (Flag × String), (∀ p ∈ settings, p.1.Admits p.2) →
        Chosen env settings (usual.after settings) := by
  have husual : ofEnvironment env = .ok
      { transport := (env "INKY_TRANSPORT").getD "sse"
        host := (env "INKY_HOST").getD "127.0.0.1"
        port
        program := (env "INKY_NODE").getD "node"
        module := (env "INKY_INKJS_MODULE").getD "inkjs/full"
        bidify := (env "INKY_BIDIFY_PATH").filter fun s => !s.isEmpty
        noDebug := isSet env "INKY_DISABLE_DEBUG" } := by
    rw [ofEnvironment]
    cases henv : env "INKY_PORT" with
    | none =>
        rw [henv] at hport
        cases hport
        rfl
    | some text =>
        rw [henv, Option.elim_some] at hport
        dsimp only
        rw [hport]
        rfl
  refine ⟨_, husual, fun settings hall => ?_⟩
  exact
    { transport := elim_getD _ _ _
      host := elim_getD _ _ _
      port := by
        rw [after]
        cases hlast : Flag.last .port settings with
        | none => exact hport
        | some text =>
            obtain ⟨given, hgiven⟩ : Flag.Admits .port text := hall _ (mem_of_last hlast)
            dsimp only [Option.some_or, Option.elim_some]
            rw [hgiven]
            rfl
      program := elim_getD _ _ _
      module := elim_getD _ _ _
      bidify := by
        rw [after]
        cases Flag.last .bidify settings <;> rfl
      noDebug := by
        rw [after]
        cases Flag.last .noDebug settings <;> rfl
      noAuthor := by
        rw [after]
        cases Flag.last .noLlm settings <;> rfl }

theorem Chosen.transport_or {env : Environment} {settings : List (Flag × String)} {o : Options}
    (h : o.Chosen env settings) (hall : ∀ p ∈ settings, p.1.Admits p.2) :
    o.transport ∈ transports ∨
      Flag.last .transport settings = none ∧ env "INKY_TRANSPORT" = some o.transport := by
  have htransport := h.transport
  cases hlast : Flag.last .transport settings with
  | some way =>
      rw [hlast, Option.some_or, Option.getD_some] at htransport
      have hway : Flag.Admits .transport way := hall _ (mem_of_last hlast)
      exact .inl (htransport ▸ hway)
  | none =>
      rw [hlast, Option.none_or] at htransport
      cases henv : env "INKY_TRANSPORT" with
      | some way =>
          rw [henv, Option.getD_some] at htransport
          exact .inr ⟨rfl, congrArg some htransport.symm⟩
      | none =>
          rw [henv, Option.getD_none] at htransport
          rw [htransport]
          exact .inl (by decide)

theorem exists_toolbox {ε : Type} (o : Options) {env : Environment} (engine : StoryEngine ε)
    (h : ∃ author, Author.Settings.configured? env = .ok author) :
    ∃ box, o.toolbox env engine = .ok box := by
  obtain ⟨author, hauthor⟩ := h
  rw [toolbox]
  split
  · exact ⟨_, rfl⟩
  · rw [hauthor]
    exact ⟨_, rfl⟩

end Options

namespace Launch

variable {ε : Type}

theorem receive_outcome (p : Processor ε) (v : Visits) (s : Server ε) :
    ((receive p v).on s).1 = v.stopped := by
  rw [receive, Act.on_bind, Act.on_get]
  dsimp only
  rw [Act.on_bind, Act.on_set]
  dsimp only
  rw [Act.on_ofExcept]

theorem serve_outcome (p : Processor ε) (o : Options) (input : String) (v : Visits) (s : Server ε) :
    ((serve p o input v).on s).1 =
      if o.transport = "stdio" then ((p.serve input).on s).1.map fun lines => { lines }
      else v.stopped.map fun _ => { listeners := [⟨o.host, o.port⟩] } := by
  rw [serve, Options.takesLines]
  by_cases hlines : o.transport = "stdio"
  · rw [if_pos (beq_iff_eq.mpr hlines), if_pos hlines, bind_pure_comp, Act.on_map]
  · rw [if_neg (beq_iff_eq.not.mpr hlines), if_neg hlines]
    obtain ⟨t, hnote⟩ : ∃ t, (Server.note (listening p.identity o)).on s = (.ok (), t) := ⟨_, rfl⟩
    rw [Act.on_bind_of_ok hnote, bind_pure_comp, Act.on_map, receive_outcome]

theorem program_refused {σ : Type} (peer : Bridge.Peer σ) {env : Environment} {usual : Options}
    (husual : Options.ofEnvironment env = .ok usual) {words : List String} {halt : Halt}
    (hrefused : usual.ofWords words = .error halt) {input : String} {v : Visits}
    {s : Server (Bridge.World σ)} :
    ((program peer env words input v).on s).1 = .ok (.error halt) := by
  rw [program, Act.on_bind, Act.on_ofExcept, husual]
  dsimp only
  rw [hrefused]
  rfl

theorem program_outcome {σ : Type} (peer : Bridge.Peer σ) {env : Environment} {usual : Options}
    (husual : Options.ofEnvironment env = .ok usual) {words : List String} {o : Options}
    (ho : usual.ofWords words = .ok o) {box : Toolbox (Bridge.World σ)}
    (hbox : o.toolbox env (Bridge.engine peer (o.processes env)) = .ok box) (input : String)
    (v : Visits) (s : Server (Bridge.World σ)) :
    ((program peer env words input v).on s.idle).1 =
      ((serve { box } o input v).on ((Server.note box.announcement).on s.idle).2).1.map .ok := by
  obtain ⟨traceLimit, author, rfl⟩ := toolbox_of_options peer _ hbox
  obtain ⟨t, hrun, -⟩ :=
    attend_on peer (o.processes env) traceLimit author o input v s.idle_kept
  rw [program, Act.on_bind, Act.on_ofExcept, husual]
  dsimp only
  rw [ho]
  dsimp only
  rw [Act.on_bind, Act.on_ofExcept, hbox]
  dsimp only
  rw [bind_pure_comp, Act.on_map, hrun]

end Launch

/-- **How messages are taken is checked only where a word gives it.**  In an environment whose port is
a number and which does not name a model wrongly, a command line either sets no options to values that
they can have, and then it is refused and nothing is run; or it sets options, and then each option has
the value that is set last, else the one of the environment, else the usual one.  The way messages are
taken is then one of the two, or no word gives it and it is what the environment has for it, whatever
that is.  If it is `stdio`, the run takes lines and listens nowhere; if it is anything else, the run
takes no lines and listens once, at the chosen address. -/
theorem transport_chosen {σ : Type} (peer : Bridge.Peer σ) (env : Environment) (words : List String)
    (input : String) (v : Visits) (s : Server (Bridge.World σ))
    (hport : ∀ text, env "INKY_PORT" = some text → ∃ port, Number.readInteger text = .ok port)
    (hauthor : ∃ author, Author.Settings.configured? env = .ok author) :
    ∃ usual, Options.ofEnvironment env = .ok usual ∧
      let outcome := ((Launch.program peer env words input v).on s.idle).1
      ((¬∃ settings, Sets words settings ∧ ∀ p ∈ settings, p.1.Admits p.2) ∧
        ∃ halt, usual.ofWords words = .error halt ∧ outcome = .ok (.error halt)) ∨
      ∃ settings o, usual.ofWords words = .ok o ∧
        Sets words settings ∧ (∀ p ∈ settings, p.1.Admits p.2) ∧ o.Chosen env settings ∧
        (o.transport ∈ Options.transports ∨
          Flag.last .transport settings = none ∧ env "INKY_TRANSPORT" = some o.transport) ∧
        ∃ box, o.toolbox env (Bridge.engine peer (o.processes env)) = .ok box ∧
          outcome =
            if o.transport = "stdio" then
              ((Processor.serve { box } input).on ((Server.note box.announcement).on s.idle).2).1.map
                fun lines => .ok { lines }
            else v.stopped.map fun _ => .ok { listeners := [⟨o.host, o.port⟩] } := by
  obtain ⟨port, hread⟩ :
      ∃ port, (env "INKY_PORT").elim (.ok 3001) Number.readInteger = .ok port := by
    cases henv : env "INKY_PORT" with
    | none => exact ⟨3001, rfl⟩
    | some text => exact hport text henv
  obtain ⟨usual, husual, hchosen⟩ := Options.ofEnvironment_chosen hread
  refine ⟨usual, husual, ?_⟩
  cases ho : usual.ofWords words with
  | error halt =>
      refine .inl ⟨fun ⟨settings, hsets, hall⟩ => ?_, halt, rfl,
        Launch.program_refused peer husual ho⟩
      rw [Options.ofWords_eq_ok_iff.mpr ⟨settings, hsets, hall, rfl⟩] at ho
      cases ho
  | ok o =>
      obtain ⟨settings, hsets, hall, rfl⟩ := Options.ofWords_eq_ok_iff.mp ho
      obtain ⟨box, hbox⟩ := (usual.after settings).exists_toolbox (Bridge.engine peer _) hauthor
      refine .inr ⟨settings, _, rfl, hsets, hall, hchosen settings hall,
        (hchosen settings hall).transport_or hall, box, hbox, ?_⟩
      rw [Launch.program_outcome peer husual ho hbox, Launch.serve_outcome]
      split
      · generalize ((Processor.serve _ input).on _).1 = served
        cases served <;> rfl
      · cases v.stopped <;> rfl

/-- With another case than that of `stdio` in the environment, a run listens. -/
theorem transport_chosen_upper :
    let env : Environment := fun name => if name = "INKY_TRANSPORT" then some "STDIO" else none
    let words := ["--ho=0.0.0.0", "--port", "5000", "--port=4100"]
    let s : Server (Bridge.World (List Bridge.Reaction)) :=
      { stage := { engine := { peer := [] } }, ids := { numbered := toString }, clock := { now := 0 },
        author := { endpoint := { otherwise := .failed "" } } }
    (∀ text, env "INKY_PORT" = some text → ∃ port, Number.readInteger text = .ok port) ∧
    (∃ author, Author.Settings.configured? env = .ok author) ∧
    ((Launch.program (Bridge.Peer.scripted {}) env words "" {}).on s.idle).1 =
      .ok (.ok { listeners := [⟨"0.0.0.0", 4100⟩] }) := by
  intro env words s
  have hport : ∀ text, env "INKY_PORT" = some text → ∃ port, Number.readInteger text = .ok port :=
    fun _ h => nomatch h
  have hauthor : ∃ author, Author.Settings.configured? env = .ok author := ⟨none, rfl⟩
  have hnamed : Flag.port.Named "--port" := by decide +kernel
  have hsets : Sets words [(.host, "0.0.0.0"), (.port, "5000"), (.port, "4100")] := by
    have hwords : words = [Words.spelled "--ho" (some "0.0.0.0"), "--port", "5000",
        Words.spelled "--port" (some "4100")] := by decide +kernel
    rw [hwords]
    exact .joined (by decide +kernel) rfl
      (.apart hnamed rfl ⟨by decide, rfl⟩ (.joined hnamed rfl .nil))
  have hfirst : Number.readInteger "5000" = .ok 5000 := rfl
  have hlast : Number.readInteger "4100" = .ok 4100 := rfl
  refine ⟨hport, hauthor, ?_⟩
  obtain ⟨usual, -, ⟨hnone, -⟩ | ⟨settings, o, -, hsets', -, hchosen, -, box, -, houtcome⟩⟩ :=
    transport_chosen (Bridge.Peer.scripted {}) env words "" {} s hport hauthor
  · refine absurd ⟨_, hsets, ?_⟩ hnone
    simp only [List.forall_mem_cons]
    exact ⟨trivial, ⟨_, hfirst⟩, ⟨_, hlast⟩, nofun⟩
  · obtain rfl := hsets'.unique hsets
    have htransport : o.transport = "STDIO" := hchosen.transport
    have hhost : o.host = "0.0.0.0" := hchosen.host
    have hchosenPort : o.port = 4100 := Except.ok.inj (hchosen.port.symm.trans hlast)
    rw [houtcome, htransport, hhost, hchosenPort]
    rfl

end StoryServer
