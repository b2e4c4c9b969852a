import StoryServer.Json.Printer

/-!
# Values in messages

Messages and log lines show a value in a notation of their own: the words `None`, `True`
and `False`, texts in quotes inside other values, and doubles with the words `inf` and
`nan`.  A text by itself is shown as it is.

Not every value can be shown: a whole number may have too many digits, and arrays and
objects too many levels.  `obstacle?` finds the first part of a value that is in the way.
-/

namespace StoryServer

namespace Json

/-- Doubles in messages: as in JSON, but for the words. -/
def messageLayout : Layout :=
  { floatLayout with nan := "nan", infinity := "inf", negativeInfinity := "-inf" }

/-- Pieces with a comma and a blank between them. -/
def commaJoined (pieces : List String) : String := ", ".intercalate pieces

mutual

/-- A value as it is shown inside other values. -/
def quoted : Json → String
  | .null => "None"
  | .bool true => "True"
  | .bool false => "False"
  | .int n => String.ofList (intChars n)
  | .float x => String.ofList (messageLayout.text x)
  | .str s => Text.quoted s
  | .arr items => "[" ++ commaJoined (quotedItems items) ++ "]"
  | .obj fields => "\x7b" ++ commaJoined (quotedFields fields) ++ "\x7d"

/-- The items of an array, shown. -/
def quotedItems : List Json → List String
  | [] => []
  | x :: rest => quoted x :: quotedItems rest

/-- The members of an object, shown. -/
def quotedFields : List (String × Json) → List String
  | [] => []
  | (k, v) :: rest => (Text.quoted k ++ ": " ++ quoted v) :: quotedFields rest

end

/-- A value by itself in a message. -/
def shown : Json → String
  | .str s => s
  | v => quoted v

/-- Why a value cannot be shown. -/
inductive Obstacle where
  /-- A whole number has too many digits. -/
  | tooLong
  /-- There is no room for another level. -/
  | tooDeep
  deriving DecidableEq, Repr

mutual

/-- The first part of a value that cannot be shown when there is room for so many levels of
arrays and objects. -/
def obstacle? : Nat → Json → Option Obstacle
  | _, .int n => if digitLimit < (Nat.toDigits 10 n.natAbs).length then some .tooLong else none
  | 0, .arr _ => some .tooDeep
  | room + 1, .arr items => obstacleIn? room items
  | 0, .obj _ => some .tooDeep
  | room + 1, .obj fields => obstacleAmong? room fields
  | _, _ => none

/-- The first of some items that cannot be shown. -/
def obstacleIn? : Nat → List Json → Option Obstacle
  | _, [] => none
  | room, v :: rest => (obstacle? room v).or (obstacleIn? room rest)

/-- The first of some members that cannot be shown. -/
def obstacleAmong? : Nat → List (String × Json) → Option Obstacle
  | _, [] => none
  | room, (_, v) :: rest => (obstacle? room v).or (obstacleAmong? room rest)

end

theorem obstacleIn?_eq_none {room : Nat} {items : List Json} :
    obstacleIn? room items = none ↔ ∀ v ∈ items, obstacle? room v = none := by
  induction items with
  | nil => simp [obstacleIn?]
  | cons v rest ih => simp [obstacleIn?, ih]

theorem obstacleAmong?_eq_none {room : Nat} {fields : Fields} :
    obstacleAmong? room fields = none ↔ ∀ p ∈ fields, obstacle? room p.2 = none := by
  induction fields with
  | nil => simp [obstacleAmong?]
  | cons p rest ih => simp [obstacleAmong?, ih]

/-- What can be shown can be shown where there is more room. -/
theorem obstacle?_succ {v : Json} : ∀ {room : Nat}, obstacle? room v = none →
    obstacle? (room + 1) v = none := by
  induction v using byParts with
  | arr items ih =>
      intro room h
      cases room with
      | zero => cases h
      | succ k =>
          rw [obstacle?, obstacleIn?_eq_none] at h ⊢
          exact fun v hv => ih v hv (h v hv)
  | obj fields ih =>
      intro room h
      cases room with
      | zero => cases h
      | succ k =>
          rw [obstacle?, obstacleAmong?_eq_none] at h ⊢
          exact fun p hp => ih p hp (h p hp)
  | int n =>
      intro room h
      cases room <;> exact h
  | _ => intro room _; rfl

/-- The members of what can be shown can be shown. -/
theorem obstacle?_member {v w : Json} {key : String} {room : Nat} (h : obstacle? room v = none)
    (hw : v.get? key = some w) : obstacle? room w = none := by
  cases v with
  | obj fields =>
      obtain ⟨p, hp, rfl⟩ := Option.map_eq_some_iff.mp hw
      cases room with
      | zero => cases h
      | succ k =>
          rw [obstacle?, obstacleAmong?_eq_none] at h
          exact obstacle?_succ (h p (List.mem_of_find?_eq_some hp))
  | _ => cases hw

example : shown (.arr [.str "it's", .null, .float (.ofInt 1)]) = "[\"it's\", None, 1.0]" := by
  decide +kernel

end Json

end StoryServer
