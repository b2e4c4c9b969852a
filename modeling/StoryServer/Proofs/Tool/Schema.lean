import Mathlib.Data.List.Forall2
import StoryServer.Proofs.Tool.Naming

/-!
# Schemas and requests

A client learns from the schema of a tool which arguments to give, but a request is not read by
the schema: every tool reads its own arguments.  The two agree (`schema_read`).  Arguments that
satisfy the schema make a request whose fields say what the arguments say; only a value for a
variable that is an array or an object is refused all the same, because the schema leaves that
value open.  And what is read satisfies the schema, but that a null stands for an absent argument
and that a breakpoint may be named under another key.

`Tool.fill` reads the fields of a request off the card of a tool, property by property.  Up to
the defect that is reported first, this is what reading a request comes to (`read_fill`).  It is
the one fact with a case for every tool; the rest is about one property at a time.
-/

namespace StoryServer

/-! ## Types of a schema -/

namespace Json

/-- Whether a value has a type of a schema.  A double without fraction is an integer too. -/
def isOf (type : String) : Json → Bool
  | .null => type == "null"
  | .bool _ => type == "boolean"
  | .int _ => type == "integer" || type == "number"
  | .float x => type == "number" || type == "integer" && x.isWhole
  | .str _ => type == "string"
  | .arr _ => type == "array"
  | .obj _ => type == "object"

/-- Whether a value is an array or an object. -/
def isCompound : Json → Bool
  | .arr _ | .obj _ => true
  | _ => false

/-- The field of a request says what an argument says: it is the argument, or the whole number
that the argument is as a double. -/
def Says (field argument : Json) : Prop :=
  field = argument ∨ ∃ n x, field = .int n ∧ argument = .float x ∧ x.isWhole = true ∧
    x.scaled = n * Binary64.unit

/-- A value of a type, as the field of a request has it. -/
def taken (type : String) : Json → Json
  | .float x => if type = "integer" then .int (x.truncate?.getD 0) else .float x
  | v => v

theorem scaled_of_isWhole {x : Binary64} (h : x.isWhole = true) :
    x.scaled = x.truncate?.getD 0 * Binary64.unit := by
  cases x with
  | nan | infinite => cases h
  | finite negative e f =>
      have hwhole : Binary64.magnitude (.finite negative e f) % Binary64.unit = 0 := by
        simpa [Binary64.isWhole] using h
      have hvalue : ∀ m unit : Nat, m % unit = 0 →
          (if negative then -(m : Int) else m) =
            (if negative then -((m / unit : Nat) : Int) else (m / unit : Nat)) * unit := by
        intro m unit hm
        have hexact : ((m / unit : Nat) : Int) * unit = m := by
          rw [← Int.natCast_mul, Nat.div_mul_cancel (Nat.dvd_of_mod_eq_zero hm)]
        split
        · rw [Int.neg_mul, hexact]
        · exact hexact.symm
      exact hvalue _ _ hwhole

theorem says_taken {type : String} {v : Json} (h : v.isOf type = true) :
    (v.taken type).Says v := by
  cases v with
  | float x =>
      rw [taken]
      split
      · next htype =>
        have hwhole : x.isWhole = true := by simpa [isOf, htype] using h
        exact .inr ⟨_, x, rfl, rfl, hwhole, scaled_of_isWhole hwhole⟩
      · exact .inl rfl
  | _ => exact .inl rfl

/-- Whether the arguments that a schema requires are present. -/
def hasRequired (schema : Json) (args : Fields) : Bool :=
  match schema.get? "required" with
  | some (.arr keys) => keys.all fun key =>
    match key with
    | .str key => (args.get? key).isSome
    | _ => true
  | _ => true

/-- Whether the arguments that a schema lists with a type have that type, if they are present. -/
def hasTypes (schema : Json) (args : Fields) : Bool :=
  match schema.get? "properties" with
  | some (.obj properties) => properties.all fun p =>
    match p.2.get? "type", args.get? p.1 with
    | some (.str type), some v => v.isOf type
    | _, _ => true
  | _ => true

end Json

/-! ## Cards -/

/-- The schema that is advertised with a card. -/
def ToolCard.schema (c : ToolCard) : Json := (c.toJson.get? "inputSchema").getD .null

theorem ToolCard.schema_required {c : ToolCard} (h : c.required ≠ []) :
    c.schema.get? "required" = some (.texts c.required) := by
  simp [schema, toJson, Json.get?, Fields.get?, h]

theorem ToolCard.schema_properties (c : ToolCard) :
    c.schema.get? "properties" = some (.obj (c.properties.map Property.toJson)) := rfl

theorem Property.toJson_type {p : Property} {type : String} (h : p.type = some type) :
    p.toJson.2.get? "type" = some (.str type) := by
  simp [toJson, Json.get?, Fields.get?, h]

/-- Whether arguments satisfy the schema of a tool. -/
def Tool.admits (tool : Tool) (args : Fields) : Bool :=
  tool.card.schema.hasRequired args && tool.card.schema.hasTypes args

section Admits

variable {tool : Tool} {args : Fields} (h : tool.admits args = true)

include h

theorem Tool.required_of_admits {key : String} (hkey : key ∈ tool.card.required) :
    (args.get? key).isSome = true := by
  have hrequired := (Bool.and_eq_true_iff.mp h).1
  rw [Json.hasRequired, ToolCard.schema_required (List.ne_nil_of_mem hkey), Json.texts] at hrequired
  exact List.all_eq_true.mp hrequired (.str key) (List.mem_map_of_mem hkey)

theorem Tool.typed_of_admits {p : Property} (hp : p ∈ tool.card.properties) {type : String}
    (htype : p.type = some type) {v : Json} (hv : args.get? p.name = some v) :
    v.isOf type = true := by
  have htypes := (Bool.and_eq_true_iff.mp h).2
  rw [Json.hasTypes, ToolCard.schema_properties] at htypes
  have hmember := List.all_eq_true.mp htypes p.toJson (List.mem_map_of_mem hp)
  rw [Property.toJson_type htype, show p.toJson.1 = p.name from rfl, hv] at hmember
  exact hmember

end Admits

/-! ## What is given -/

namespace Argument

variable {args : Fields} {key : String} {v : Json}

theorem get?_of_given? (h : given? args key = some v) : args.get? key = some v := by
  rw [given?] at h
  split at h
  · cases h
  · cases h
  · next hget => rw [hget, h]

theorem get?_of_not_given (h : given? args key = none) :
    args.get? key = some .null ∨ args.get? key = none := by
  rw [given?] at h
  split at h
  · next hget => exact .inl hget
  · next hget => exact .inr hget
  · cases h

theorem given?_put_self (h : v ≠ .null) : given? (args.put key v) key = some v := by
  rw [given?, Fields.get?_put_self]
  cases v <;> first | rfl | exact absurd rfl h

theorem ne_null_of_given? (h : given? args key = some v) : v ≠ .null := by
  rintro rfl
  rw [given?] at h
  split at h
  · cases h
  · cases h
  · next hv hget => exact hv (Option.some.inj h)

end Argument

/-! ## Filling a card -/

namespace Property

open Argument

/-- The field of a request whose argument is absent. -/
def fallback (name : String) : Json :=
  if name = "auto_continue" then .bool true
  else if name = "args" then .arr []
  else if name = "max_steps" then .int 100
  else if name = "last_n" then .int 50
  else .null

/-- The field of a request that a property stands for, if there is one. -/
def fill (args : Fields) (required : Bool) (p : Property) : Option Json :=
  match p.type with
  | some type =>
    match given? args p.name with
    | some v => if v.isOf type then some (v.taken type) else none
    | none => if required then none else some (fallback p.name)
  | none => (args.get? p.name).filter fun v => !v.isCompound

section Kinds

variable (args : Fields) (name description : String) (options : List String)

theorem fill_text : fill args true ⟨name, some "string", description, options⟩ =
    (Argument.text args name).toOption.map .str := by
  simp only [fill, Argument.text, Argument.given]
  cases given? args name with
  | none => rfl
  | some v => cases v <;> rfl

theorem fill_optionalText (h : fallback name = .null) :
    fill args false ⟨name, some "string", description, options⟩ =
      (optionalText args name).toOption.map .ofText? := by
  simp only [fill, optionalText, Argument.text, Argument.given, h]
  cases given? args name with
  | none => rfl
  | some v => cases v <;> rfl

theorem toOption_asInteger (v : Json) : (asInteger name v).toOption.map .int =
    if v.isOf "integer" then some (v.taken "integer") else none := by
  cases v with
  | float x =>
      cases x with
      | nan | infinite => rfl
      | finite negative e f =>
          simp only [asInteger, Json.isOf, Json.taken]
          cases Binary64.isWhole (.finite negative e f) <;> rfl
  | _ => rfl

theorem fill_integer : fill args true ⟨name, some "integer", description, options⟩ =
    (Argument.integer args name).toOption.map .int := by
  simp only [fill, Argument.integer, Argument.given]
  cases given? args name with
  | none => rfl
  | some v => exact (toOption_asInteger name v).symm

theorem fill_optionalInteger {n : Int} (h : fallback name = .int n) :
    fill args false ⟨name, some "integer", description, options⟩ =
      (optionalInteger args name n).toOption.map .int := by
  simp only [fill, optionalInteger, h]
  cases given? args name with
  | none => rfl
  | some v => exact (toOption_asInteger name v).symm

theorem fill_optionalBoolean {b : Bool} (h : fallback name = .bool b) :
    fill args false ⟨name, some "boolean", description, options⟩ =
      (optionalBoolean args name b).toOption.map .bool := by
  simp only [fill, optionalBoolean, h]
  cases given? args name with
  | none => rfl
  | some v => cases v <;> rfl

theorem fill_optionalArray (h : fallback name = .arr []) :
    fill args false ⟨name, some "array", description, options⟩ =
      (optionalArray args name).toOption.map .arr := by
  simp only [fill, optionalArray, h]
  cases given? args name with
  | none => rfl
  | some v => cases v <;> rfl

theorem fill_scalar : fill args true ⟨name, none, description, options⟩ =
    (scalar args name).toOption := by
  simp only [fill, scalar]
  cases args.get? name with
  | none => rfl
  | some v => cases v <;> rfl

end Kinds

end Property

namespace Tool

/-- The fields of a request for some properties of a tool. -/
def fillAll (tool : Tool) (args : Fields) : List Property → Option Fields
  | [] => some []
  | p :: rest =>
    (p.fill args (tool.card.required.contains p.name)).bind fun v =>
      (tool.fillAll args rest).map ((p.name, v) :: ·)

/-- The arguments with a breakpoint under the key that the schema has for it. -/
def keyed (tool : Tool) (args : Fields) : Fields :=
  match tool, Argument.given? args "breakpoint_id", Argument.given? args "id" with
  | .removeBreakpoint, none, some v => args.put "breakpoint_id" v
  | _, _, _ => args

/-- The fields of a request, read off the card of the tool. -/
def fill (tool : Tool) (args : Fields) : Option Fields :=
  tool.fillAll (tool.keyed args) tool.card.properties

end Tool

namespace Request

open Argument

variable {α β : Type}

@[simp] theorem toOption_bind (x : Except ArgumentDefect α) (next : α → Except ArgumentDefect β) :
    (x >>= next).toOption = x.toOption.bind fun a => (next a).toOption := by
  cases x <;> rfl

@[simp] theorem toOption_map (f : α → β) (x : Except ArgumentDefect α) :
    (f <$> x).toOption = x.toOption.bind fun a => some (f a) := by
  cases x <;> rfl

theorem toOption_pure (a : α) : (pure a : Except ArgumentDefect α).toOption = some a := rfl

/-- What is looked at first may as well be looked at last. -/
theorem bind_last {γ δ : Type} (x : Option α) (y : Option β) (z : Option γ)
    (next : α → β → γ → Option δ) :
    (x.bind fun a => y.bind fun b => z.bind fun c => next a b c) =
      y.bind fun b => z.bind fun c => x.bind fun a => next a b c := by
  cases x <;> cases y <;> cases z <;> rfl

/-- The name of a breakpoint under the key that is used for it. -/
theorem text_keyed (args : Fields) :
    (breakpointKey args).toOption.bind (fun key => (text args key).toOption) =
      (text (Tool.removeBreakpoint.keyed args) "breakpoint_id").toOption := by
  cases hkey : given? args "breakpoint_id" with
  | some v =>
      have hfirst : breakpointKey args = .ok "breakpoint_id" := by
        simp [breakpointKey, hkey]
      have hkeyed : Tool.removeBreakpoint.keyed args = args := by
        simp [Tool.keyed, hkey]
      rw [hfirst, hkeyed]
      rfl
  | none =>
      cases hid : given? args "id" with
      | some v =>
          have hfirst : breakpointKey args = .ok "id" := by
            simp [breakpointKey, hkey, hid]
          have hkeyed : Tool.removeBreakpoint.keyed args = args.put "breakpoint_id" v := by
            simp [Tool.keyed, hkey, hid]
          have hput : given? (args.put "breakpoint_id" v) "breakpoint_id" = some v :=
            given?_put_self (ne_null_of_given? hid)
          rw [hfirst, hkeyed]
          change (text args "id").toOption = _
          rw [text, text, Argument.given, Argument.given, hid, hput]
          cases v <;> rfl
      | none =>
          have hfirst : breakpointKey args = .error (.missing "breakpoint_id") := by
            simp [breakpointKey, hkey, hid]
          have hkeyed : Tool.removeBreakpoint.keyed args = args := by
            simp [Tool.keyed, hkey, hid]
          rw [hfirst, hkeyed, text, Argument.given, hkey]
          rfl

/-- The session is where it was. -/
theorem session_keyed (args : Fields) :
    text (Tool.removeBreakpoint.keyed args) "session_id" = text args "session_id" := by
  unfold Tool.keyed
  split
  · exact text_put (by decide)
  · rfl

/-- **Reading is filling.**  The fields of a request are those that the card of its tool gives. -/
theorem read_fill (tool : Tool) (args : Fields) :
    (read args tool).toOption.map arguments = tool.fill args := by
  cases tool with
  | removeBreakpoint =>
      have hread : (read args .removeBreakpoint).toOption.map arguments =
          (session args).toOption.bind fun id =>
            ((breakpointKey args).toOption.bind fun key => (text args key).toOption).bind fun name =>
              some [("session_id", .str id), ("breakpoint_id", .str name)] := by
        simp only [read, bind_pure_comp, toOption_bind, toOption_map, Option.map_bind,
          Function.comp_def, Option.map_some, arguments, Option.bind_assoc]
        exact Option.bind_comm ..
      rw [hread, text_keyed, session, ← session_keyed]
      simp only [Tool.fill, Tool.fillAll, Tool.card, Property.session, Property.text,
        List.contains_eq_mem, List.mem_cons, true_or, or_true, decide_true, Property.fill_text,
        Option.map_some, Option.bind_map, Option.map_bind, Function.comp_def]
  | setVariable =>
      simp only [read, session, bind_pure_comp, toOption_bind, toOption_map, Option.map_bind,
        Function.comp_def, Option.map_some, arguments]
      rw [bind_last]
      simp only [Tool.fill, Tool.fillAll, Tool.keyed, Tool.card, Property.session, Property.text,
        List.contains_eq_mem, List.mem_cons, true_or, or_true, decide_true, Property.fill_text,
        Property.fill_scalar, Option.map_some, Option.bind_map, Option.map_bind, Function.comp_def]
  | evaluateFunction =>
      simp only [read, session, bind_pure_comp, toOption_bind, toOption_map, Option.map_bind,
        Function.comp_def, Option.map_some, arguments]
      rw [bind_last]
      simp only [Tool.fill, Tool.fillAll, Tool.keyed, Tool.card, Property.session, Property.text,
        List.contains_eq_mem, List.mem_cons, List.not_mem_nil, String.reduceEq, or_self, or_false,
        or_true, decide_true, decide_false, Property.fill_text, Property.fallback, ↓reduceIte,
        Property.fill_optionalArray, Option.map_some, Option.bind_map, Option.map_bind,
        Function.comp_def]
  | _ =>
      -- the other tools look at their arguments in the order of the card
      simp [read, arguments, toOption_pure, Tool.fill, Tool.fillAll, Tool.keyed, Tool.card, Tool.sessionCard,
        Property.session, Property.text, Property.integer, Property.fill_text,
        Property.fill_optionalText, Property.fill_integer, Property.fill_optionalInteger,
        Property.fill_optionalBoolean, Property.fallback, session, Option.bind_map,
        Option.map_bind, Function.comp_def]

end Request

/-! ## One property -/

namespace Property

open Argument

variable {args : Fields} {p : Property}

/-- A field of a request says what the argument of a property says, or what stands for it when
it is absent. -/
def Holds (args : Fields) (p : Property) (field : String × Json) : Prop :=
  field.1 = p.name ∧
    match args.get? p.name with
    | some v => field.2.Says v
    | none => field.2 = fallback p.name

/-- Whether a value has the type of a property; without a type it is one for a variable. -/
def fits (p : Property) (v : Json) : Bool :=
  match p.type with
  | some type => v.isOf type
  | none => !v.isCompound

/-- An argument that fits is the field of the request. -/
theorem fill_of_fits {v : Json} {required : Bool} (hv : args.get? p.name = some v)
    (hfits : p.fits v = true) (hnull : p.type ≠ some "null") :
    ∃ w, p.fill args required = some w ∧ w.Says v := by
  cases htype : p.type with
  | none =>
      have hscalar : v.isCompound = false := by simpa [fits, htype] using hfits
      exact ⟨v, by simp [fill, htype, hv, hscalar], .inl rfl⟩
  | some type =>
      have htyped : v.isOf type = true := by simpa [fits, htype] using hfits
      have hgiven : given? args p.name = some v := by
        rw [given?, hv]
        cases v with
        | null =>
            have hname : type = "null" := by simpa [Json.isOf] using htyped
            exact absurd (htype.trans (congrArg some hname)) hnull
        | _ => rfl
      exact ⟨v.taken type, by simp [fill, htype, hgiven, htyped], Json.says_taken htyped⟩

/-- Without an argument the field is what stands for it. -/
theorem fill_of_absent (hv : args.get? p.name = none) (htype : p.type.isSome) :
    p.fill args false = some (fallback p.name) := by
  obtain ⟨type, htype⟩ := Option.isSome_iff_exists.mp htype
  simp [fill, htype, given?, hv]

/-- The argument of a field fits, or it is absent or null and need not be given. -/
theorem fits_of_fill {required : Bool} {w : Json} (h : p.fill args required = some w) :
    (∃ v, args.get? p.name = some v ∧ p.fits v = true) ∨
      required = false ∧ (args.get? p.name = some .null ∨ args.get? p.name = none) := by
  cases htype : p.type with
  | none =>
      have hvalue : args.get? p.name = some w ∧ w.isCompound = false := by
        simpa [fill, htype] using h
      exact .inl ⟨w, hvalue.1, by simpa [fits, htype] using hvalue.2⟩
  | some type =>
      cases hgiven : given? args p.name with
      | none =>
          have hrequired : required = false := by
            cases required with
            | false => rfl
            | true => simp [fill, htype, hgiven] at h
          exact .inr ⟨hrequired, get?_of_not_given hgiven⟩
      | some v =>
          have htyped : v.isOf type = true := by
            cases hof : v.isOf type with
            | true => rfl
            | false => simp [fill, htype, hgiven, hof] at h
          exact .inl ⟨v, get?_of_given? hgiven, by simpa [fits, htype] using htyped⟩

end Property

/-! ## The properties of a tool -/

namespace Tool

open Argument

variable {tool : Tool} {args : Fields}

/-- Every property has a field if all are filled. -/
theorem fill_of_fillAll : ∀ {ps : List Property} {fields : Fields},
    tool.fillAll args ps = some fields →
      ∀ p ∈ ps, ∃ v, p.fill args (tool.card.required.contains p.name) = some v
  | [], _, _, _, hp => absurd hp List.not_mem_nil
  | q :: ps, _, h, p, hp => by
      obtain ⟨v, hv, hrest⟩ := Option.bind_eq_some_iff.mp h
      obtain ⟨fields, hfields, -⟩ := Option.map_eq_some_iff.mp hrest
      rcases List.mem_cons.mp hp with rfl | hp
      · exact ⟨v, hv⟩
      · exact fill_of_fillAll hfields p hp

/-- All properties are filled if every one is. -/
theorem fillAll_of_fill {R : Property → String × Json → Prop} : ∀ {ps : List Property},
    (∀ p ∈ ps, ∃ v, p.fill args (tool.card.required.contains p.name) = some v ∧ R p (p.name, v)) →
      ∃ fields, tool.fillAll args ps = some fields ∧ List.Forall₂ R ps fields
  | [], _ => ⟨[], rfl, .nil⟩
  | p :: ps, h => by
      obtain ⟨v, hv, hR⟩ := h p List.mem_cons_self
      obtain ⟨fields, hfields, hall⟩ := fillAll_of_fill fun q hq => h q (List.mem_cons_of_mem p hq)
      refine ⟨(p.name, v) :: fields, ?_, .cons hR hall⟩
      rw [fillAll, hv, Option.bind_some, hfields]
      rfl

/-- No argument is declared to be null. -/
theorem type_ne_null (tool : Tool) : ∀ p ∈ tool.card.properties, p.type ≠ some "null" := by
  cases tool <;> decide

/-- Only the value for a variable is declared without a type, and it must be given. -/
theorem typed_or_value (tool : Tool) : ∀ p ∈ tool.card.properties, p.type.isSome = true ∨
    tool = .setVariable ∧ p.name = "value" ∧ p.type = none := by
  cases tool <;> decide

theorem breakpoint_typed : ∀ p ∈ (card .removeBreakpoint).properties,
    p.name = "breakpoint_id" → p.type = some "string" := by decide

/-- Arguments that satisfy the schema have the breakpoint under its key. -/
theorem keyed_of_admits (h : tool.admits args = true) : tool.keyed args = args := by
  unfold keyed
  split
  · next hkey hid =>
    have hpresent : (args.get? "breakpoint_id").isSome = true :=
      required_of_admits h (by decide : "breakpoint_id" ∈ (card .removeBreakpoint).required)
    rcases get?_of_not_given hkey with hnull | habsent
    · have htyped := typed_of_admits h (List.mem_cons_of_mem _ List.mem_cons_self) rfl hnull
      cases htyped
    · rw [habsent] at hpresent
      cases hpresent
  · rfl

/-- What is found under a key once the breakpoint is under its own. -/
theorem get?_keyed (tool : Tool) (args : Fields) (key : String) :
    (tool.keyed args).get? key = args.get? key ∨
      tool = .removeBreakpoint ∧ key = "breakpoint_id" ∧ given? args key = none ∧
        (tool.keyed args).get? key = args.get? "id" := by
  unfold keyed
  split
  · next v hkey hid =>
    rcases eq_or_ne key "breakpoint_id" with rfl | hne
    · refine .inr ⟨rfl, rfl, hkey, ?_⟩
      rw [Fields.get?_put_self, get?_of_given? hid]
    · exact .inl (Fields.get?_put_of_ne args v hne)
  · exact .inl rfl

/-- The argument of a property is as the schema says, or it is absent or null and need not be
given, or it is a breakpoint that is named under the other key. -/
def Accepts (tool : Tool) (args : Fields) (p : Property) : Prop :=
  if p.name ∈ tool.card.required then
    (∃ v, args.get? p.name = some v ∧ p.fits v = true) ∨
      tool = .removeBreakpoint ∧ p.name = "breakpoint_id" ∧ given? args p.name = none ∧
        ∃ s, args.get? "id" = some (.str s)
  else
    args.get? p.name = none ∨ args.get? p.name = some .null ∨
      ∃ v, args.get? p.name = some v ∧ p.fits v = true

theorem accepts_of_fill {p : Property} (hp : p ∈ tool.card.properties) {w : Json}
    (h : p.fill (tool.keyed args) (tool.card.required.contains p.name) = some w) :
    tool.Accepts args p := by
  rcases get?_keyed tool args p.name with hsame | ⟨rfl, hname, hkey, hid⟩
  · rcases Property.fits_of_fill h with hfits | ⟨hfree, habsent⟩
    · rw [hsame] at hfits
      unfold Accepts
      split
      · exact .inl hfits
      · exact .inr (.inr hfits)
    · rw [hsame] at habsent
      have hnot : p.name ∉ tool.card.required := by simpa using hfree
      rw [Accepts, if_neg hnot]
      exact habsent.symm.imp_right .inl
  · have hrequired : p.name ∈ (card .removeBreakpoint).required := by
      rw [hname]
      decide
    rw [Accepts, if_pos hrequired]
    refine .inr ⟨rfl, hname, hkey, ?_⟩
    rcases Property.fits_of_fill h with ⟨v, hv, hfits⟩ | ⟨hfree, -⟩
    · rw [Property.fits, breakpoint_typed p hp hname] at hfits
      rw [hid] at hv
      cases v with
      | str s => exact ⟨s, hv⟩
      | _ => cases hfits
    · rw [List.contains_iff_mem.mpr hrequired] at hfree
      cases hfree

theorem fits_of_admits (h : tool.admits args = true)
    (hvalue : tool = .setVariable → ∀ v, args.get? "value" = some v → v.isCompound = false)
    {p : Property} (hp : p ∈ tool.card.properties) {v : Json} (hv : args.get? p.name = some v) :
    p.fits v = true := by
  rw [Property.fits]
  cases htype : p.type with
  | some type => exact typed_of_admits h hp htype hv
  | none =>
      rcases typed_or_value tool p hp with htyped | ⟨rfl, hname, -⟩
      · rw [htype] at htyped
        cases htyped
      · rw [hname] at hv
        simpa using hvalue rfl v hv

theorem optional_of_absent (h : tool.admits args = true) {p : Property}
    (hp : p ∈ tool.card.properties) (hv : args.get? p.name = none) :
    p.type.isSome = true ∧ tool.card.required.contains p.name = false := by
  have hnot : p.name ∉ tool.card.required := by
    intro hrequired
    have hpresent := required_of_admits h hrequired
    rw [hv] at hpresent
    cases hpresent
  refine ⟨?_, by simpa using hnot⟩
  rcases typed_or_value tool p hp with htyped | ⟨rfl, hname, -⟩
  · exact htyped
  · rw [hname] at hnot
    exact absurd (by decide) hnot

/-- Arguments that satisfy the schema fill the card, unless they are to set a variable to an
array or an object. -/
theorem fill_of_admits (h : tool.admits args = true)
    (hvalue : tool = .setVariable → ∀ v, args.get? "value" = some v → v.isCompound = false) :
    ∃ fields, tool.fill args = some fields ∧
      List.Forall₂ (Property.Holds args) tool.card.properties fields := by
  rw [fill, keyed_of_admits h]
  refine fillAll_of_fill fun p hp => ?_
  cases hv : args.get? p.name with
  | none =>
      obtain ⟨htyped, hoptional⟩ := optional_of_absent h hp hv
      refine ⟨_, by rw [hoptional, Property.fill_of_absent hv htyped], rfl, ?_⟩
      rw [hv]
  | some v =>
      obtain ⟨w, hw, hsays⟩ :=
        Property.fill_of_fits hv (fits_of_admits h hvalue hp hv) (type_ne_null tool p hp)
      refine ⟨w, hw, rfl, ?_⟩
      rw [hv]
      exact hsays

end Tool

/-! ## Schemas and requests -/

namespace Request

open Argument

theorem fill_of_read {tool : Tool} {args : Fields} {r : Request} (h : read args tool = .ok r) :
    tool.fill args = some r.arguments := by
  rw [← read_fill, h]
  rfl

theorem read_of_fill {tool : Tool} {args fields : Fields} (h : tool.fill args = some fields) :
    ∃ r, read args tool = .ok r ∧ r.arguments = fields := by
  rw [← read_fill] at h
  cases hread : read args tool with
  | error d => rw [hread] at h; cases h
  | ok r => rw [hread] at h; exact ⟨r, rfl, Option.some.inj h⟩

/-- The value for a variable is looked at first. -/
theorem read_compound {args : Fields} {v : Json} (hv : args.get? "value" = some v)
    (h : v.isCompound = true) : read args .setVariable = .error .compoundValue := by
  have hscalar : scalar args "value" = .error .compoundValue := by
    rw [scalar, hv]
    cases v <;> first | rfl | cases h
  rw [read, hscalar]
  rfl

/-- **Schemas and requests agree.**  Arguments that satisfy the schema of a tool make a request,
and each of its fields says what the argument says, or what stands for it when it is absent; only
an array or an object is refused as the value for a variable.  And of every request that is made,
each argument is as the schema says; but one that need not be given may be null, a value for a
variable must not be an array or an object, and a breakpoint may be named under another key. -/
theorem schema_read (tool : Tool) (args : Fields) :
    (tool.admits args = true →
      (∃ r, read args tool = .ok r ∧
        List.Forall₂ (Property.Holds args) tool.card.properties r.arguments) ∨
      tool = .setVariable ∧ (∃ v, args.get? "value" = some v ∧ v.isCompound = true) ∧
        read args tool = .error .compoundValue) ∧
    ∀ r, read args tool = .ok r → ∀ p ∈ tool.card.properties, tool.Accepts args p := by
  constructor
  · intro h
    by_cases hcompound : tool = .setVariable ∧ ∃ v, args.get? "value" = some v ∧ v.isCompound = true
    · obtain ⟨rfl, v, hv, hv'⟩ := hcompound
      exact .inr ⟨rfl, ⟨v, hv, hv'⟩, read_compound hv hv'⟩
    · obtain ⟨fields, hfill, hholds⟩ := Tool.fill_of_admits h fun htool v hv => by
        simpa using fun hv' => hcompound ⟨htool, v, hv, hv'⟩
      obtain ⟨r, hread, rfl⟩ := read_of_fill hfill
      exact .inl ⟨r, hread, hholds⟩
  · intro r hread p hp
    obtain ⟨v, hv⟩ := Tool.fill_of_fillAll (fill_of_read hread) p hp
    exact Tool.accepts_of_fill hp hv

/-- A double counts as the index of a choice. -/
theorem schema_read_choice :
    let args : Fields := [("session_id", .str "a"), ("choice_index", .float (.ofInt 2))]
    Tool.choose.admits args = true ∧ ∃ r, read args .choose = .ok r ∧
      List.Forall₂ (Property.Holds args) Tool.choose.card.properties r.arguments := by
  intro args
  have hadmits : Tool.choose.admits args = true := by decide +kernel
  refine ⟨hadmits, ?_⟩
  rcases (schema_read .choose args).1 hadmits with hread | ⟨htool, -⟩
  · exact hread
  · cases htool

end Request

end StoryServer
