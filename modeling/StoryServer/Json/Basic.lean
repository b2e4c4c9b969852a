import StoryServer.Number.Binary64

/-!
# JSON values

A JSON value in which whole numbers and doubles are different kinds, as they are for
every reader of a saved story: `1`, `1.0` and `true` are three values.  An object is a
list of members in the order of their first appearance, each key once; `Fields.put`
keeps that form, and `Fields.ofPairs` reaches it from any list of pairs, the last value
of a key winning and the first place.
-/

namespace StoryServer

/-- A JSON value. -/
inductive Json where
  | null
  | bool (b : Bool)
  /-- A whole number of any size. -/
  | int (n : Int)
  /-- A number with a fraction or an exponent. -/
  | float (x : Binary64)
  | str (s : String)
  | arr (items : List Json)
  /-- An object: its members in order. -/
  | obj (fields : List (String × Json))
  deriving Inhabited, Repr

/-- The members of an object. -/
abbrev Fields := List (String × Json)

/-! ## Equality -/

mutual

/-- Whether two values are the same value. -/
def Json.same : Json → Json → Bool
  | .null, .null => true
  | .bool a, .bool b => a == b
  | .int a, .int b => a == b
  | .float a, .float b => decide (a = b)
  | .str a, .str b => a == b
  | .arr a, .arr b => Json.sameItems a b
  | .obj a, .obj b => Json.sameFields a b
  | _, _ => false

/-- Whether two arrays have the same items. -/
def Json.sameItems : List Json → List Json → Bool
  | [], [] => true
  | a :: as, b :: bs => Json.same a b && Json.sameItems as bs
  | _, _ => false

/-- Whether two objects have the same members in the same order. -/
def Json.sameFields : List (String × Json) → List (String × Json) → Bool
  | [], [] => true
  | (k, a) :: as, (l, b) :: bs => k == l && Json.same a b && Json.sameFields as bs
  | _, _ => false

end

mutual

theorem Json.eq_of_same : ∀ {a b : Json}, Json.same a b = true → a = b
  | .null, b, h => by cases b <;> simp [Json.same] at h ⊢
  | .bool _, b, h => by cases b <;> simp_all [Json.same]
  | .int _, b, h => by cases b <;> simp_all [Json.same]
  | .float _, b, h => by cases b <;> simp_all [Json.same]
  | .str _, b, h => by cases b <;> simp_all [Json.same]
  | .arr _, b, h => by
    cases b <;> simp only [Json.same, Bool.false_eq_true] at h
    exact congrArg Json.arr (Json.eq_of_sameItems h)
  | .obj _, b, h => by
    cases b <;> simp only [Json.same, Bool.false_eq_true] at h
    exact congrArg Json.obj (Json.eq_of_sameFields h)

theorem Json.eq_of_sameItems : ∀ {a b : List Json}, Json.sameItems a b = true → a = b
  | [], b, h => by cases b <;> simp [Json.sameItems] at h ⊢
  | _ :: _, b, h => by
    cases b <;> simp only [Json.sameItems, Bool.false_eq_true, Bool.and_eq_true] at h
    rw [Json.eq_of_same h.1, Json.eq_of_sameItems h.2]

theorem Json.eq_of_sameFields : ∀ {a b : List (String × Json)}, Json.sameFields a b = true → a = b
  | [], b, h => by cases b <;> simp [Json.sameFields] at h ⊢
  | (_, _) :: _, b, h => by
    cases b <;> simp only [Json.sameFields, Bool.false_eq_true, Bool.and_eq_true, beq_iff_eq] at h
    obtain ⟨⟨hk, hv⟩, hr⟩ := h
    rw [hk, Json.eq_of_same hv, Json.eq_of_sameFields hr]

end

mutual

theorem Json.same_self : ∀ (a : Json), Json.same a a = true
  | .null => rfl
  | .bool _ => by simp [Json.same]
  | .int _ => by simp [Json.same]
  | .float _ => by simp [Json.same]
  | .str _ => by simp [Json.same]
  | .arr items => by simpa [Json.same] using Json.sameItems_self items
  | .obj fields => by simpa [Json.same] using Json.sameFields_self fields

theorem Json.sameItems_self : ∀ (a : List Json), Json.sameItems a a = true
  | [] => rfl
  | a :: as => by simp [Json.sameItems, Json.same_self a, Json.sameItems_self as]

theorem Json.sameFields_self : ∀ (a : List (String × Json)), Json.sameFields a a = true
  | [] => rfl
  | (_, a) :: as => by simp [Json.sameFields, Json.same_self a, Json.sameFields_self as]

end

instance : DecidableEq Json := fun a b =>
  if h : Json.same a b = true then .isTrue (Json.eq_of_same h)
  else .isFalse fun e => h (e ▸ Json.same_self a)

/-! ## Induction -/

/-- Induction on a value and the values in it. -/
@[elab_as_elim]
theorem Json.byParts {motive : Json → Prop} (null : motive .null) (bool : ∀ b, motive (.bool b))
    (int : ∀ n, motive (.int n)) (float : ∀ x, motive (.float x)) (str : ∀ s, motive (.str s))
    (arr : ∀ items : List Json, (∀ v ∈ items, motive v) → motive (.arr items))
    (obj : ∀ fields : Fields, (∀ p ∈ fields, motive p.2) → motive (.obj fields)) (v : Json) :
    motive v :=
  @Json.rec motive (fun items => ∀ v ∈ items, motive v) (fun fields => ∀ p ∈ fields, motive p.2)
    (fun p => motive p.2) null bool int float str arr obj
    (fun _ h => absurd h List.not_mem_nil) (fun _ _ hv hrest => List.forall_mem_cons.mpr ⟨hv, hrest⟩)
    (fun _ h => absurd h List.not_mem_nil) (fun _ _ hp hrest => List.forall_mem_cons.mpr ⟨hp, hrest⟩)
    (fun _ _ hv => hv) v

/-! ## Members -/

namespace Fields

/-- The value of a key. -/
def get? (fields : Fields) (key : String) : Option Json :=
  (fields.find? fun p => p.1 == key).map (·.2)

/-- Whether a key is present. -/
def has (fields : Fields) (key : String) : Bool := fields.any fun p => p.1 == key

/-- The value of a key replaced where it stands, or a new member at the end. -/
def put : Fields → String → Json → Fields
  | [], key, value => [(key, value)]
  | (k, v) :: rest, key, value =>
    if k == key then (k, value) :: rest else (k, v) :: put rest key value

/-- An object from pairs in the order read. -/
def ofPairs (pairs : List (String × Json)) : Fields :=
  pairs.foldl (fun fields p => fields.put p.1 p.2) []

theorem get?_put_self (fields : Fields) (key : String) (value : Json) :
    (fields.put key value).get? key = some value := by
  induction fields with
  | nil => simp [put, get?]
  | cons p rest ih =>
    obtain ⟨k, v⟩ := p
    by_cases h : k = key
    · simp [put, get?, h]
    · simpa [put, get?, h] using ih

theorem get?_put_of_ne (fields : Fields) {key other : String} (value : Json) (h : other ≠ key) :
    (fields.put key value).get? other = fields.get? other := by
  induction fields with
  | nil => simp [put, get?, Ne.symm h]
  | cons p rest ih =>
    obtain ⟨k, v⟩ := p
    by_cases hk : k = key
    · have : k ≠ other := fun e => h (e ▸ hk)
      simp [put, get?, hk, Ne.symm h]
    · by_cases ho : k = other
      · have : other ≠ key := h
        simp [put, get?, ho, this]
      · simpa [put, get?, hk, ho] using ih

end Fields

namespace Json

/-- The value of a key of an object. -/
def get? : Json → String → Option Json
  | .obj fields, key => Fields.get? fields key
  | _, _ => none

/-! ## Kinds -/

/-- The kinds of values. -/
inductive Kind where
  | null
  | bool
  | int
  | float
  | str
  | arr
  | obj
  deriving DecidableEq, Repr

/-- The name of a kind in messages. -/
def Kind.name : Kind → String
  | .null => "NoneType"
  | .bool => "bool"
  | .int => "int"
  | .float => "float"
  | .str => "str"
  | .arr => "list"
  | .obj => "dict"

/-- The kind of a value. -/
def kind : Json → Kind
  | .null => .null
  | .bool _ => .bool
  | .int _ => .int
  | .float _ => .float
  | .str _ => .str
  | .arr _ => .arr
  | .obj _ => .obj

/-- Whether a value counts as true in a condition: everything but null, false, the zeros
and what is empty. -/
def truthy : Json → Bool
  | .null => false
  | .bool b => b
  | .int n => n != 0
  | .float x => !x.isZero
  | .str s => !s.isEmpty
  | .arr items => !items.isEmpty
  | .obj fields => !fields.isEmpty

def ofText? : Option String → Json
  | some s => .str s
  | none => .null

def texts (items : List String) : Json := .arr (items.map .str)

end Json

end StoryServer
