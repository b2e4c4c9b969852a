import Mathlib.Data.List.Infix
import Mathlib.Data.List.TakeWhile
import StoryServer.Command.Options

/-!
# What a command line sets

The words of a command line name options, in full or by a beginning, with a value in the same word, in
the next one, or with none.  `Sets words settings` says that the words set these options to these
values, in this order.  A command line is accepted just if it sets options, each to a value that it
can have, and then each option has the value that it was given last (`ofWords_eq_ok_iff`).

*Names.*  A text names an option if it is the beginning of a name of this option and of no other
(`Flag.Named`).  `read_option_iff` says that the words read as options are those that begin with such
a text.  The beginnings of names are finitely many, so what is looked up for each is checked once for
all of them (`named_iff`).

*Words.*  The words of an accepted line are taken from the left, one or two at a time
(`sets_of_apply`, `apply_of_sets`).
-/

namespace StoryServer

namespace Flag

theorem mem_all (f : Flag) : f ∈ all := by cases f <;> decide

/-- Whether a text is the beginning of a name of an option. -/
def Begins (f : Flag) (start : String) : Prop := ∃ name ∈ f.names, start.toList <+: name.toList

instance (f : Flag) (start : String) : Decidable (f.Begins start) :=
  inferInstanceAs (Decidable (∃ name ∈ f.names, start.toList <+: name.toList))

/-- Whether a text names an option: it is the beginning of a name of this option, and of no other. -/
def Named (f : Flag) (start : String) : Prop := ∀ g : Flag, g.Begins start ↔ g = f

instance (f : Flag) (start : String) : Decidable (f.Named start) :=
  decidable_of_iff (∀ g ∈ all, g.Begins start ↔ g = f)
    ⟨fun h g => h g (mem_all g), fun h g _ => h g⟩

/-- The beginnings of names, each with the option that is looked up for it. -/
theorem named_table : ∀ p ∈ named, ∀ start ∈ p.1.toList.inits,
    p.2.Named (String.ofList start) ↔
      ofName? (String.ofList start) = some p.2 ∨
        ofName? (String.ofList start) = none ∧ ['-', '-'] <+: start ∧
          (beginning (String.ofList start)).map (·.2) = [p.2] := by
  decide +kernel

theorem mem_named {name : String} {f : Flag} : (name, f) ∈ named ↔ name ∈ f.names := by
  simp [named, mem_all]

theorem begins_of_ofName? {name : String} {f : Flag} (h : ofName? name = some f) :
    name ∈ f.names := by
  obtain ⟨p, hp, rfl⟩ := Option.map_eq_some_iff.mp h
  obtain rfl : p.1 = name := by simpa using List.find?_some hp
  exact mem_named.mp (List.mem_of_find?_eq_some hp)

theorem mem_beginning {start name : String} {f : Flag} :
    (name, f) ∈ beginning start ↔ name ∈ f.names ∧ start.toList <+: name.toList := by
  rw [beginning, List.mem_filter, mem_named, Text.startsWith, List.isPrefixOf_iff_prefix]

/-- **What names an option.**  It is a name in full, or begins with two hyphens and is the beginning
of one name. -/
theorem named_iff {f : Flag} {start : String} :
    f.Named start ↔ ofName? start = some f ∨
      ofName? start = none ∧ ['-', '-'] <+: start.toList ∧ (beginning start).map (·.2) = [f] := by
  have htable (h : f.Begins start) : f.Named start ↔ ofName? start = some f ∨
      ofName? start = none ∧ ['-', '-'] <+: start.toList ∧ (beginning start).map (·.2) = [f] := by
    obtain ⟨name, hname, hstart⟩ := h
    have hrow := named_table (name, f) (mem_named.mpr hname) start.toList
      ((List.mem_inits _ _).mpr hstart)
    rwa [String.ofList_toList] at hrow
  refine ⟨fun h => (htable ((h f).mpr rfl)).mp h, fun h => (htable ?_).mpr h⟩
  rcases h with h | ⟨-, -, h⟩
  · exact ⟨start, begins_of_ofName? h, List.prefix_rfl⟩
  · obtain ⟨p, hp, rfl⟩ := List.mem_map.mp (h ▸ List.mem_singleton_self f)
    obtain ⟨hname, hstart⟩ := mem_beginning.mp (show (p.1, p.2) ∈ beginning start from hp)
    exact ⟨p.1, hname, hstart⟩

/-- A text that names an option begins with a hyphen and has another character. -/
theorem exists_hyphen {f : Flag} {start : String}
    (h : ofName? start = some f ∨ ofName? start = none ∧ ['-', '-'] <+: start.toList ∧
      (beginning start).map (·.2) = [f]) : ∃ c rest, start.toList = '-' :: c :: rest := by
  rcases h with h | ⟨-, ⟨rest, hrest⟩, -⟩
  · have hall : ∀ p ∈ named, p.1.toList = '-' :: p.1.toList.tail.headD '-' :: p.1.toList.drop 2 := by
      decide +kernel
    exact ⟨_, _, hall (start, f) (mem_named.mpr (begins_of_ofName? h))⟩
  · exact ⟨'-', rest, hrest.symm⟩

/-- No name has an equals sign in it. -/
theorem equals_not_mem {f : Flag} {name : String} (h : name ∈ f.names) : '=' ∉ name.toList := by
  have hall : ∀ p ∈ named, '=' ∉ p.1.toList := by decide +kernel
  exact hall (name, f) (mem_named.mpr h)

theorem Begins.equals_not_mem {f : Flag} {start : String} (h : f.Begins start) :
    '=' ∉ start.toList := by
  obtain ⟨name, hname, hstart⟩ := h
  exact fun hmem => Flag.equals_not_mem hname (hstart.subset hmem)

theorem ofName?_of_equals {s : String} (h : '=' ∈ s.toList) : ofName? s = none :=
  Option.eq_none_iff_forall_ne_some.mpr fun _ hf => equals_not_mem (begins_of_ofName? hf) h

end Flag

/-! ## Words that name options -/

namespace Words

/-- A word with a name and perhaps a value. -/
def spelled (start : String) (value : Option String) : String :=
  start ++ (value.map ("=" ++ ·)).getD ""

theorem toList_spelled (start : String) (value : Option String) :
    (spelled start value).toList =
      start.toList ++ (value.map ('=' :: ·.toList)).getD [] := by
  cases value <;> simp [spelled]

theorem spelled_none (start : String) : spelled start none = start := by
  simp [spelled]

theorem atEquals_spelled {start : String} (h : '=' ∉ start.toList) (value : Option String) :
    atEquals (spelled start value) = (start, value) := by
  have hstart : ∀ c ∈ start.toList, (c != '=') = true := fun c hc =>
    bne_iff_ne.mpr fun heq => h (heq ▸ hc)
  have hname : (spelled start value).toList.takeWhile (· != '=') = start.toList := by
    rw [toList_spelled, List.takeWhile_append_of_pos hstart]
    cases value <;> simp
  simp only [atEquals, hname, String.ofList_toList]
  cases value with
  | none => rw [spelled_none, if_neg (by simp [← String.length_toList])]
  | some v =>
      have hlength : start.toList.length < (spelled start (some v)).length := by
        rw [← String.length_toList, toList_spelled]
        simp
      rw [if_pos hlength, toList_spelled]
      simp [List.drop_append]

/-- A word is taken apart at its first equals sign. -/
theorem exists_spelled (s : String) :
    ∃ start value, '=' ∉ start.toList ∧ s = spelled start value := by
  refine ⟨String.ofList (s.toList.takeWhile (· != '=')), ?_⟩
  have hstart : '=' ∉ s.toList.takeWhile (· != '=') := fun hmem => by
    simpa using List.mem_takeWhile_imp hmem
  have hsplit := List.takeWhile_append_dropWhile (p := (· != '=')) (l := s.toList)
  cases hrest : s.toList.dropWhile (· != '=') with
  | nil =>
      refine ⟨none, by simpa using hstart, String.toList_inj.mp ?_⟩
      rw [toList_spelled]
      simpa [hrest] using hsplit.symm
  | cons c rest =>
      have hc : c = '=' := by
        have := List.head?_dropWhile_not (· != '=') s.toList
        simpa [hrest] using this
      refine ⟨some (String.ofList rest), by simpa using hstart, String.toList_inj.mp ?_⟩
      rw [toList_spelled]
      simpa [hrest, hc] using hsplit.symm

theorem inFull?_spelled {start : String} (h : '=' ∉ start.toList) (value : Option String) :
    inFull? (spelled start value) = (Flag.ofName? start).map fun f => .option f value := by
  rw [inFull?, atEquals_spelled h]
  cases value with
  | none =>
      rw [spelled_none]
      cases Flag.ofName? start <;> rfl
  | some v =>
      rw [Flag.ofName?_of_equals (by simp [toList_spelled])]

theorem unnamed_eq (s : String) : unnamed s = .plain s ∨ unnamed s = .unknown s := by
  rw [unnamed]
  split
  · exact .inl rfl
  · exact .inr rfl

theorem unnamed_ne_option (s : String) (f : Flag) (value : Option String) :
    unnamed s ≠ .option f value := by
  rcases unnamed_eq s with h | h <;> rw [h] <;> nofun

theorem abbreviated_spelled {start : String} (h : '=' ∉ start.toList) {value value' : Option String}
    {f : Flag} :
    abbreviated (spelled start value) = .ok (.option f value') ↔
      (Flag.beginning start).map (·.2) = [f] ∧ value' = value := by
  rw [abbreviated, atEquals_spelled h]
  dsimp only
  split
  case h_1 hnone => simp [hnone, unnamed_ne_option]
  case h_2 name g hone => simp [hone, eq_comm]
  case h_3 hnone hone =>
    refine ⟨nofun, fun ⟨hmap, _⟩ => ?_⟩
    obtain ⟨p, hp, rfl⟩ := List.map_eq_singleton_iff.mp hmap
    exact absurd hp (hone p.1 p.2)

theorem hyphens_prefix_spelled {start : String} {value : Option String} {c : Char}
    {rest : List Char} (h : (spelled start value).toList = '-' :: c :: rest) :
    ['-', '-'] <+: start.toList ↔ c = '-' := by
  rw [toList_spelled] at h
  generalize start.toList = l at h ⊢
  match l, h with
  | [], h => cases value <;> simp at h
  | [a], h =>
      cases value with
      | none => simp at h
      | some v =>
          obtain ⟨rfl, rfl, -⟩ : a = '-' ∧ '=' = c ∧ v.toList = rest := by simpa using h
          decide
  | a :: b :: more, h =>
      obtain ⟨rfl, rfl, -⟩ : a = '-' ∧ b = c ∧ _ = rest := by simpa using h
      simp [eq_comm]

/-- **Which words are options.** -/
theorem read_spelled {start : String} (h : '=' ∉ start.toList) {value value' : Option String}
    {f : Flag} :
    read (spelled start value) = .ok (.option f value') ↔ f.Named start ∧ value' = value := by
  rw [Flag.named_iff, read]
  split
  case h_1 c rest hs =>
    rw [inFull?_spelled h]
    cases hname : Flag.ofName? start with
    | some g => simp [eq_comm]
    | none =>
        simp only [Option.map_none, reduceCtorEq, false_or, true_and]
        rw [hyphens_prefix_spelled hs]
        by_cases hc : c = '-'
        · rw [if_pos hc, abbreviated_spelled h]
          simp [hc]
        · rw [if_neg hc]
          split <;> simp [hc, unnamed_ne_option]
  case h_2 hs =>
    refine ⟨nofun, fun ⟨hnamed, _⟩ => ?_⟩
    obtain ⟨c, rest, hstart⟩ := Flag.exists_hyphen hnamed
    exact (hs c _ (by rw [toList_spelled, hstart]; rfl)).elim

theorem read_option_iff {s : String} {f : Flag} {value : Option String} :
    read s = .ok (.option f value) ↔ ∃ start, f.Named start ∧ s = spelled start value := by
  constructor
  · intro h
    obtain ⟨start, value', hstart, rfl⟩ := exists_spelled s
    obtain ⟨hnamed, rfl⟩ := (read_spelled hstart).mp h
    exact ⟨start, hnamed, rfl⟩
  · rintro ⟨start, hnamed, rfl⟩
    exact (read_spelled ((hnamed f).mpr rfl).equals_not_mem).mpr ⟨hnamed, rfl⟩

theorem spelled_unique {start start' : String} {f f' : Flag} {value value' : Option String}
    (hnamed : f.Named start) (hnamed' : f'.Named start')
    (h : spelled start value = spelled start' value') : f = f' ∧ value = value' := by
  have hread : read (spelled start value) = .ok (.option f value) :=
    read_option_iff.mpr ⟨start, hnamed, rfl⟩
  rw [read_option_iff.mpr ⟨start', hnamed', h⟩] at hread
  cases hread
  exact ⟨rfl, rfl⟩

theorem of_inFull? {s : String} {w : Word} (h : inFull? s = some w) :
    ∃ f value, w = .option f value := by
  obtain ⟨start, value, hstart, rfl⟩ := exists_spelled s
  rw [inFull?_spelled hstart] at h
  obtain ⟨f, -, rfl⟩ := Option.map_eq_some_iff.mp h
  exact ⟨f, value, rfl⟩

/-- What a word can be read as. -/
theorem of_read {s : String} {w : Word} (h : read s = .ok w) :
    w = .plain s ∨ w = .unknown s ∨ (∃ rest, w = .short rest) ∨ ∃ f value, w = .option f value := by
  have hunnamed (h : (.ok (unnamed s) : Except UsageError Word) = .ok w) :
      w = .plain s ∨ w = .unknown s ∨ (∃ rest, w = .short rest) ∨ ∃ f value, w = .option f value := by
    obtain rfl := Except.ok.inj h
    exact (unnamed_eq s).imp_right .inl
  rw [read] at h
  split at h
  · split at h
    · obtain rfl := Except.ok.inj h
      exact .inr (.inr (.inr (of_inFull? ‹_›)))
    · split_ifs at h
      · rw [abbreviated] at h
        dsimp only at h
        split at h
        · exact hunnamed h
        · exact .inr (.inr (.inr ⟨_, _, (Except.ok.inj h).symm⟩))
        · cases h
      · exact .inr (.inr (.inl ⟨_, (Except.ok.inj h).symm⟩))
      · exact hunnamed h
  · exact .inl (Except.ok.inj h).symm

theorem eq_of_read_plain {s text : String} (h : read s = .ok (.plain text)) : s = text := by
  simpa [eq_comm] using of_read h

theorem scan_cons_eq_ok {s : String} (hs : s ≠ "--") {words : List String} {all : List Word} :
    scan (s :: words) = .ok all ↔ ∃ w ws, read s = .ok w ∧ scan words = .ok ws ∧ all = w :: ws := by
  rw [scan, if_neg hs, bind_eq_ok]
  refine exists_congr fun w => ?_
  rw [bind_eq_ok, ← exists_and_left]
  exact exists_congr fun ws => and_congr_right fun _ => and_congr_right fun _ =>
    ⟨fun h => (Except.ok.inj h).symm, fun h => congrArg Except.ok h.symm⟩

theorem scan_cons {s : String} (hs : s ≠ "--") {w : Word} (hw : read s = .ok w) {words : List String}
    {ws : List Word} (h : scan words = .ok ws) : scan (s :: words) = .ok (w :: ws) :=
  (scan_cons_eq_ok hs).mpr ⟨w, ws, hw, h, rfl⟩

/-- The words are read one by one, up to the one that ends options. -/
theorem of_scan_cons {words : List String} {w : Word} {ws : List Word} (hw : w ≠ .stop)
    (h : scan words = .ok (w :: ws)) :
    ∃ s more, words = s :: more ∧ s ≠ "--" ∧ read s = .ok w ∧ scan more = .ok ws := by
  match words with
  | [] => cases h
  | s :: more =>
      by_cases hs : s = "--"
      · rw [scan, if_pos hs] at h
        cases h
        exact absurd rfl hw
      · obtain ⟨_, _, hread, hmore, heq⟩ := (scan_cons_eq_ok hs).mp h
        cases heq
        exact ⟨s, more, rfl, hs, hread, hmore⟩

theorem eq_nil_of_scan {words : List String} (h : scan words = .ok []) : words = [] := by
  match words with
  | [] => rfl
  | s :: more =>
      by_cases hs : s = "--"
      · rw [scan, if_pos hs] at h
        cases h
      · obtain ⟨_, _, _, _, heq⟩ := (scan_cons_eq_ok hs).mp h
        cases heq

theorem scan_option {start : String} {f : Flag} (hnamed : f.Named start) (value : Option String)
    {words : List String} {ws : List Word} (h : scan words = .ok ws) :
    scan (spelled start value :: words) = .ok (.option f value :: ws) := by
  have hread : read (spelled start value) = .ok (.option f value) :=
    read_option_iff.mpr ⟨start, hnamed, rfl⟩
  refine scan_cons (fun hstop => ?_) hread h
  have hnone : (read "--").toOption = none := by decide +kernel
  rw [hstop] at hread
  rw [hread] at hnone
  cases hnone

theorem scan_bare {start : String} {f : Flag} (hnamed : f.Named start) {words : List String}
    {ws : List Word} (h : scan words = .ok ws) :
    scan (start :: words) = .ok (.option f none :: ws) := by
  have hwords := scan_option hnamed none h
  rwa [spelled_none] at hwords

theorem of_scan_option {words : List String} {f : Flag} {value : Option String} {ws : List Word}
    (h : scan words = .ok (.option f value :: ws)) :
    ∃ start more, words = spelled start value :: more ∧ f.Named start ∧ scan more = .ok ws := by
  obtain ⟨s, more, rfl, -, hread, hmore⟩ := of_scan_cons Word.noConfusion h
  obtain ⟨start, hnamed, rfl⟩ := read_option_iff.mp hread
  exact ⟨start, more, rfl, hnamed, hmore⟩

/-- A word that can be the value of the option before it. -/
def IsValue (s : String) : Prop := s ≠ "--" ∧ read s = .ok (.plain s)

end Words

/-! ## What words set -/

/-- The words set options to values, in this order.  An option without a value is set to the empty
text. -/
inductive Sets : List String → List (Flag × String) → Prop where
  | nil : Sets [] []
  /-- The value is in the word that names the option. -/
  | joined {start value : String} {f : Flag} {words : List String}
      {settings : List (Flag × String)} :
    f.Named start → f.takesValue = true → Sets words settings →
      Sets (Words.spelled start (some value) :: words) ((f, value) :: settings)
  /-- The value is the next word. -/
  | apart {start value : String} {f : Flag} {words : List String}
      {settings : List (Flag × String)} :
    f.Named start → f.takesValue = true → Words.IsValue value → Sets words settings →
      Sets (start :: value :: words) ((f, value) :: settings)
  | bare {start : String} {f : Flag} {words : List String} {settings : List (Flag × String)} :
    f.Named start → f.takesValue = false → Sets words settings →
      Sets (start :: words) ((f, "") :: settings)

/-- What the option that a word names is set to. -/
theorem Sets.of_option {word start : String} {f : Flag} {value : Option String} {words : List String}
    {settings : List (Flag × String)} (hnamed : f.Named start)
    (hword : word = Words.spelled start value) (h : Sets (word :: words) settings) :
    (∃ v rest, value = some v ∧ f.takesValue = true ∧ Sets words rest ∧ settings = (f, v) :: rest) ∨
    (∃ v more rest, value = none ∧ f.takesValue = true ∧ words = v :: more ∧ Sets more rest ∧
      settings = (f, v) :: rest) ∨
    ∃ rest, value = none ∧ f.takesValue = false ∧ Sets words rest ∧ settings = (f, "") :: rest := by
  cases h with
  | joined hnamed' htakes hrest =>
      obtain ⟨rfl, rfl⟩ := Words.spelled_unique hnamed hnamed' hword.symm
      exact .inl ⟨_, _, rfl, htakes, hrest, rfl⟩
  | apart hnamed' htakes hvalue hrest =>
      obtain ⟨rfl, rfl⟩ := Words.spelled_unique hnamed hnamed'
        (hword.symm.trans (Words.spelled_none word).symm)
      exact .inr (.inl ⟨_, _, _, rfl, htakes, rfl, hrest, rfl⟩)
  | bare hnamed' htakes hrest =>
      obtain ⟨rfl, rfl⟩ := Words.spelled_unique hnamed hnamed'
        (hword.symm.trans (Words.spelled_none word).symm)
      exact .inr (.inr ⟨_, rfl, htakes, hrest, rfl⟩)

/-- **The words tell what is set.** -/
theorem Sets.unique {words : List String} {settings settings' : List (Flag × String)}
    (h : Sets words settings) (h' : Sets words settings') : settings = settings' := by
  induction h generalizing settings' with
  | nil => cases h'; rfl
  | joined hnamed htakes _ ih =>
      obtain ⟨v, rest, hvalue, -, hrest, rfl⟩ | ⟨_, _, _, hvalue, -⟩ | ⟨_, hvalue, -⟩ :=
        h'.of_option hnamed rfl
      · rw [Option.some.inj hvalue, ih hrest]
      · cases hvalue
      · cases hvalue
  | apart hnamed htakes _ _ ih =>
      obtain ⟨_, _, hvalue, -⟩ | ⟨v, more, rest, -, -, hwords, hrest, rfl⟩ | ⟨_, -, hbare, -⟩ :=
        h'.of_option hnamed (Words.spelled_none _).symm
      · cases hvalue
      · cases hwords
        rw [ih hrest]
      · rw [htakes] at hbare
        cases hbare
  | bare hnamed htakes _ ih =>
      obtain ⟨_, _, hvalue, -⟩ | ⟨_, _, _, -, hvalued, -⟩ | ⟨rest, -, -, hrest, rfl⟩ :=
        h'.of_option hnamed (Words.spelled_none _).symm
      · cases hvalue
      · rw [htakes] at hvalued
        cases hvalued
      · rw [ih hrest]

/-- The value that an option is given last. -/
def Flag.last (f : Flag) (settings : List (Flag × String)) : Option String :=
  (settings.filterMap fun p => if p.1 = f then some p.2 else none).getLast?

@[simp] theorem Flag.last_nil (f : Flag) : f.last [] = none := rfl

theorem Flag.last_cons (f : Flag) (p : Flag × String) (settings : List (Flag × String)) :
    f.last (p :: settings) = (f.last settings).or (if p.1 = f then some p.2 else none) := by
  by_cases hp : p.1 = f
  · simp [Flag.last, hp, List.getLast?_cons]
  · simp [Flag.last, hp]

/-- Whether an option can have a value. -/
def Flag.Admits : Flag → String → Prop
  | .help, _ => False
  | .transport, value => value ∈ Options.transports
  | .port, value => ∃ port, Number.readInteger value = .ok port
  | _, _ => True

namespace Options

/-- The options with several of them set, one after another. -/
def putAll (o : Options) (settings : List (Flag × String)) : Except Halt Options :=
  settings.foldlM (fun o p => o.put p.1 p.2) o

theorem putAll_cons_eq_ok {o o' : Options} {p : Flag × String} {settings : List (Flag × String)} :
    o.putAll (p :: settings) = .ok o' ↔
      ∃ o₁, o.put p.1 p.2 = .ok o₁ ∧ o₁.putAll settings = .ok o' := by
  rw [putAll, List.foldlM_cons, bind_eq_ok]
  rfl

/-- The options with each of them as it is given last, and as before if it is not given. -/
def after (o : Options) (settings : List (Flag × String)) : Options where
  transport := (Flag.last .transport settings).elim o.transport id
  host := (Flag.last .host settings).elim o.host id
  -- the fallback is never taken: a port that is no number is refused
  port := (Flag.last .port settings).elim o.port fun value =>
    (Number.readInteger value).toOption.getD 0
  program := (Flag.last .node settings).elim o.program id
  module := (Flag.last .inkjs settings).elim o.module id
  bidify := (Flag.last .bidify settings).elim o.bidify some
  noDebug := (Flag.last .noDebug settings).elim o.noDebug fun _ => true
  noAuthor := (Flag.last .noLlm settings).elim o.noAuthor fun _ => true

theorem put_eq_ok_iff {o o' : Options} {f : Flag} {value : String} :
    o.put f value = .ok o' ↔ f.Admits value ∧ o' = o.after [(f, value)] := by
  cases f with
  | port =>
    rw [put]
    cases h : Number.readInteger value with
    | ok n => simp [Flag.Admits, after, Flag.last, h, Except.toOption, eq_comm]
    | error e => simp [Flag.Admits, h]
  | transport =>
    by_cases h : value ∈ transports
    · simp [put, Flag.Admits, after, Flag.last, h, eq_comm]
    · simp [put, Flag.Admits, h]
  | _ => simp [put, Flag.Admits, after, Flag.last, eq_comm]

theorem elim_or {α β : Type} (x y : Option α) (b : β) (g : α → β) :
    (x.or y).elim b g = x.elim (y.elim b g) g := by
  cases x <;> rfl

theorem after_cons (o : Options) (p : Flag × String) (settings : List (Flag × String)) :
    o.after (p :: settings) = (o.after [p]).after settings := by
  simp only [after, Flag.last_cons, Flag.last_nil, elim_or, Option.elim_none]

theorem putAll_eq_ok_iff {o o' : Options} {settings : List (Flag × String)} :
    o.putAll settings = .ok o' ↔ (∀ p ∈ settings, p.1.Admits p.2) ∧ o' = o.after settings := by
  induction settings generalizing o with
  | nil => simp [putAll, after, eq_comm, pure, Except.pure]
  | cons p settings ih =>
      rw [putAll_cons_eq_ok, after_cons, List.forall_mem_cons]
      simp only [put_eq_ok_iff, ih, and_assoc, exists_and_left, exists_eq_left]

theorem apply_bare {o : Options} {f : Flag} (h : f.takesValue = false) (ws : List Word) :
    apply o (.option f none :: ws) = (o.put f "" >>= fun o => apply o ws) := by
  rw [apply.eq_def]
  simp only [h, Bool.false_eq_true, if_false]

/-- **The words of an accepted line are options and their values.** -/
theorem sets_of_apply {words : List String} {ws : List Word} {o o' : Options}
    (hscan : Words.scan words = .ok ws) (happly : apply o ws = .ok (o', [])) :
    ∃ settings, Sets words settings ∧ o.putAll settings = .ok o' := by
  fun_induction apply o ws generalizing words with
  | case1 o =>
      rw [Words.eq_nil_of_scan hscan]
      exact ⟨[], .nil, congrArg (Except.map Prod.fst) happly⟩
  -- a word that is left over makes the line fail
  | case2 | case3 | case4 =>
      obtain ⟨_, -, h⟩ := bind_eq_ok.mp happly
      cases h
  | case5 | case7 | case9 => cases happly
  | case6 o f value rest htakes ih =>
      obtain ⟨o₁, hput, hrest⟩ := bind_eq_ok.mp happly
      obtain ⟨start, more, rfl, hnamed, hmore⟩ := Words.of_scan_option hscan
      obtain ⟨settings, hsets, hall⟩ := ih o₁ hmore hrest
      exact ⟨_, .joined hnamed htakes hsets, putAll_cons_eq_ok.mpr ⟨o₁, hput, hall⟩⟩
  | case8 o f htakes value rest ih =>
      obtain ⟨o₁, hput, hrest⟩ := bind_eq_ok.mp happly
      obtain ⟨start, more, rfl, hnamed, hmore⟩ := Words.of_scan_option hscan
      obtain ⟨v, more', rfl, hstop, hvalue, hmore'⟩ := Words.of_scan_cons Word.noConfusion hmore
      obtain rfl := Words.eq_of_read_plain hvalue
      obtain ⟨settings, hsets, hall⟩ := ih o₁ hmore' hrest
      rw [Words.spelled_none]
      exact ⟨_, .apart hnamed htakes ⟨hstop, hvalue⟩ hsets,
        putAll_cons_eq_ok.mpr ⟨o₁, hput, hall⟩⟩
  | case10 o f rest htakes ih =>
      obtain ⟨o₁, hput, hrest⟩ := bind_eq_ok.mp happly
      obtain ⟨start, more, rfl, hnamed, hmore⟩ := Words.of_scan_option hscan
      obtain ⟨settings, hsets, hall⟩ := ih o₁ hmore hrest
      rw [Words.spelled_none]
      exact ⟨_, .bare hnamed (Bool.eq_false_iff.mpr htakes) hsets,
        putAll_cons_eq_ok.mpr ⟨o₁, hput, hall⟩⟩

/-- Words that set options are accepted, if the options can have the values. -/
theorem apply_of_sets {words : List String} {settings : List (Flag × String)} {o o' : Options}
    (hsets : Sets words settings) (hput : o.putAll settings = .ok o') :
    ∃ ws, Words.scan words = .ok ws ∧ apply o ws = .ok (o', []) := by
  induction hsets generalizing o with
  | nil => exact ⟨[], rfl, congrArg (Except.map (·, [])) hput⟩
  | joined hnamed htakes hrest ih =>
      obtain ⟨o₁, hfirst, hall⟩ := putAll_cons_eq_ok.mp hput
      obtain ⟨ws, hscan, happly⟩ := ih hall
      refine ⟨_, Words.scan_option hnamed _ hscan, ?_⟩
      rw [apply, if_pos htakes, hfirst]
      exact happly
  | apart hnamed htakes hvalue hrest ih =>
      obtain ⟨o₁, hfirst, hall⟩ := putAll_cons_eq_ok.mp hput
      obtain ⟨ws, hscan, happly⟩ := ih hall
      refine ⟨_, Words.scan_bare hnamed (Words.scan_cons hvalue.1 hvalue.2 hscan), ?_⟩
      rw [apply, if_pos htakes, hfirst]
      exact happly
  | bare hnamed htakes hrest ih =>
      obtain ⟨o₁, hfirst, hall⟩ := putAll_cons_eq_ok.mp hput
      obtain ⟨ws, hscan, happly⟩ := ih hall
      refine ⟨_, Words.scan_bare hnamed hscan, ?_⟩
      rw [apply_bare htakes, hfirst]
      exact happly

/-- **Which command lines are accepted, and with which options.**  The words set options, each to a
value that it can have, and each option then has the value that it was given last. -/
theorem ofWords_eq_ok_iff {o o' : Options} {words : List String} :
    o.ofWords words = .ok o' ↔ ∃ settings, Sets words settings ∧
      (∀ p ∈ settings, p.1.Admits p.2) ∧ o' = o.after settings := by
  simp only [← putAll_eq_ok_iff]
  constructor
  · intro h
    obtain ⟨ws, hscan, h⟩ := bind_eq_ok.mp h
    obtain ⟨⟨o₁, left⟩, happly, h⟩ := bind_eq_ok.mp h
    match left, h with
    | [], h =>
        obtain rfl := Except.ok.inj h
        exact sets_of_apply (mapError_eq_ok.mp hscan) happly
  · rintro ⟨settings, hsets, hput⟩
    obtain ⟨ws, hscan, happly⟩ := apply_of_sets hsets hput
    exact bind_eq_ok.mpr ⟨ws, mapError_eq_ok.mpr hscan, bind_eq_ok.mpr ⟨(o', []), happly, rfl⟩⟩

end Options

end StoryServer
