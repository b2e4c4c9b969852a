import Mathlib.Data.List.Forall2
import StoryServer.Debug.Record
import StoryServer.Proofs.Json.RoundTrip

/-!
# When a value counts as changed

A watched variable has changed when the texts of its two values differ, members sorted by key.
That is a test of trees: the texts are the same just if the values are, the order of members at
every level apart (`sameValue_iff`).

*Sorting.*  `arranged` sorts the members at every level, and the sorted text of a value is the plain
text of the arranged value (`chars_canonical`).  Plain texts are read back, so two values have the
same sorted text just if they are arranged alike (`canonical_inj`).

*Trees.*  `SameTree` compares values without any order of keys: two objects are the same when they
have the same keys, with the same tree under each.  Values are arranged alike just if they are the
same trees (`arranged_eq_iff`).
-/

namespace StoryServer

namespace Fields

/-- Where each key stands once, its value is the one that stands beside it. -/
theorem get?_eq_some_iff {fields : Fields} (h : (fields.map (·.1)).Nodup) {key : String}
    {value : Json} : fields.get? key = some value ↔ (key, value) ∈ fields := by
  rw [get?, Option.map_eq_some_iff]
  constructor
  · rintro ⟨p, hp, rfl⟩
    have hkey : p.1 = key := by simpa using List.find?_some hp
    exact hkey ▸ List.mem_of_find?_eq_some hp
  · intro hmem
    cases hp : fields.find? fun p => p.1 == key with
    | none => exact absurd (List.find?_eq_none.mp hp _ hmem) (by simp)
    | some p =>
        have hkey : p.1 = key := by simpa using List.find?_some hp
        have hsame : p = (key, value) :=
          List.inj_on_of_nodup_map h (List.mem_of_find?_eq_some hp) hmem hkey
        exact ⟨p, rfl, congrArg Prod.snd hsame⟩

theorem has_iff {fields : Fields} {key : String} :
    fields.has key = true ↔ ∃ value, (key, value) ∈ fields := by
  simp [has]

end Fields

namespace Json

/-! ## Trees -/

/-- The values are the same trees: whole numbers, doubles and truth values are kinds of their own,
doubles are the same when they are shown alike, and the members of an object have no order. -/
inductive SameTree : Json → Json → Prop
  | null : SameTree .null .null
  | bool (b : Bool) : SameTree (.bool b) (.bool b)
  | int (n : Int) : SameTree (.int n) (.int n)
  | float {x y : Binary64} (h : messageLayout.text x = messageLayout.text y) :
      SameTree (.float x) (.float y)
  | str (s : String) : SameTree (.str s) (.str s)
  | arr {items others : List Json} (h : List.Forall₂ SameTree items others) :
      SameTree (.arr items) (.arr others)
  | obj {fields others : Fields} (hkeys : ∀ key, fields.has key = others.has key)
      (h : ∀ key v w, fields.get? key = some v → others.get? key = some w → SameTree v w) :
      SameTree (.obj fields) (.obj others)

/-- The whole numbers in the value have no more digits than a whole number may have in text. -/
inductive Short : Json → Prop
  | null : Short .null
  | bool (b : Bool) : Short (.bool b)
  | int {n : Int} (h : (Nat.toDigits 10 n.natAbs).length ≤ digitLimit) : Short (.int n)
  | float (x : Binary64) : Short (.float x)
  | str (s : String) : Short (.str s)
  | arr {items : List Json} (h : ∀ v ∈ items, Short v) : Short (.arr items)
  | obj {fields : Fields} (h : ∀ p ∈ fields, Short p.2) : Short (.obj fields)

/-! ## Sorting -/

section Sorting

variable {α β : Type}

theorem sortFields_perm (fields : List (String × α)) : (sortFields fields).Perm fields :=
  List.mergeSort_perm fields _

/-- What leaves the keys alone can be done before or after sorting. -/
theorem map_sortFields {f : String × α → String × β} (hf : ∀ p, (f p).1 = p.1)
    (fields : List (String × α)) : (sortFields fields).map f = sortFields (fields.map f) :=
  List.map_mergeSort fun a _ b _ => by rw [hf, hf]

/-- Members with distinct keys are sorted alike just if they are the same members. -/
theorem sortFields_eq_iff {fields others : List (String × α)} (h : (fields.map (·.1)).Nodup) :
    sortFields fields = sortFields others ↔ fields.Perm others := by
  constructor
  · intro heq
    exact (sortFields_perm fields).symm.trans (heq ▸ sortFields_perm others)
  · intro hperm
    have htrans (a b c : String × α) (hab : decide (a.1 ≤ b.1) = true)
        (hbc : decide (b.1 ≤ c.1) = true) : decide (a.1 ≤ c.1) = true := by
      rw [decide_eq_true_eq] at hab hbc ⊢
      exact String.le_trans hab hbc
    have htotal (a b : String × α) : (decide (a.1 ≤ b.1) || decide (b.1 ≤ a.1)) = true := by
      rw [Bool.or_eq_true, decide_eq_true_eq, decide_eq_true_eq]
      exact String.le_total a.1 b.1
    have hsorted (l : List (String × α)) : (sortFields l).Pairwise fun a b => a.1 ≤ b.1 :=
      (List.pairwise_mergeSort htrans htotal l).imp of_decide_eq_true
    have hall := ((sortFields_perm fields).trans hperm).trans (sortFields_perm others).symm
    refine List.Perm.eq_of_pairwise (fun a b ha hb hab hba => ?_) (hsorted _) (hsorted _) hall
    -- two members with one key are one member
    have hb' : b ∈ fields := hperm.mem_iff.mpr ((sortFields_perm others).mem_iff.mp hb)
    exact List.inj_on_of_nodup_map h ((sortFields_perm fields).mem_iff.mp ha) hb'
      (String.le_antisymm hab hba)

end Sorting

mutual

/-- A value whose objects have their members sorted by key. -/
def arranged : Json → Json
  | .arr items => .arr (arrangedItems items)
  | .obj fields => .obj (sortFields (arrangedFields fields))
  | v => v

def arrangedItems : List Json → List Json
  | [] => []
  | v :: rest => arranged v :: arrangedItems rest

def arrangedFields : List (String × Json) → List (String × Json)
  | [] => []
  | (k, v) :: rest => (k, arranged v) :: arrangedFields rest

end

theorem arranged_arr (items : List Json) : arranged (.arr items) = .arr (items.map arranged) := by
  have hitems : ∀ items, arrangedItems items = items.map arranged := by
    intro items
    induction items with
    | nil => rfl
    | cons v rest ih => rw [arrangedItems, ih, List.map_cons]
  rw [arranged, hitems]

/-- A member with its value arranged. -/
def arrangedMember (p : String × Json) : String × Json := (p.1, arranged p.2)

theorem arranged_obj (fields : Fields) :
    arranged (.obj fields) = .obj (sortFields (fields.map arrangedMember)) := by
  have hfields : ∀ fields, arrangedFields fields = fields.map arrangedMember := by
    intro fields
    induction fields with
    | nil => rfl
    | cons p rest ih => rw [arrangedFields, ih, List.map_cons, arrangedMember]
  rw [arranged, hfields]

theorem keys_arrangedMember (fields : Fields) :
    (fields.map arrangedMember).map (·.1) = fields.map (·.1) := by
  rw [List.map_map]
  rfl

/-! ## Sorted texts -/

/-- The sorted text of a value is the plain text of the arranged value. -/
theorem chars_canonical (v : Json) : chars .canonical v = chars .ascii (arranged v) := by
  induction v using byParts with
  | arr items ih =>
      rw [arranged_arr, chars, chars, itemsChars_eq, itemsChars_eq, List.map_map]
      congr 3
      exact List.map_congr_left ih
  | obj fields ih =>
      have hmembers : fields.map (fun p => (p.1, memberChars .canonical p)) =
          (fields.map arrangedMember).map fun p => (p.1, memberChars .ascii p) := by
        rw [List.map_map]
        exact List.map_congr_left fun p hp =>
          congrArg (fun s => (p.1, stringChars true p.1 ++ ": ".toList ++ s)) (ih p hp)
      have hsorted := map_sortFields (f := fun p : String × Json => (p.1, memberChars .ascii p))
        (fun _ => rfl) (fields.map arrangedMember)
      rw [arranged_obj, chars, chars, fieldsChars_eq, fieldsChars_eq, hmembers, hsorted]
      rfl
  | bool b => cases b <;> rfl
  | _ => rfl

/-- A value with short numbers is written in every style that has words for all doubles. -/
theorem Short.defect? {style : JsonStyle} (hs : style.nonFinite = true) {v : Json} (h : Short v) :
    defect? style v = none := by
  induction h with
  | int h => exact if_neg (Nat.not_lt.mpr h)
  | float x =>
      cases x with
      | finite n e f => rfl
      | _ => exact if_pos hs
  | arr h ih => rwa [Json.defect?, itemsDefect?_eq_none]
  | obj h ih => rwa [Json.defect?, fieldsDefect?_eq_none]
  | _ => rfl

theorem short_arranged {v : Json} (h : Short v) : Short (arranged v) := by
  induction h with
  | arr h ih =>
      rw [arranged_arr]
      exact .arr (List.forall_mem_map.mpr ih)
  | obj h ih =>
      rw [arranged_obj]
      refine .obj fun p hp => ?_
      obtain ⟨q, hq, rfl⟩ := List.mem_map.mp ((sortFields_perm _).mem_iff.mp hp)
      exact ih q hq
  | int h => exact .int h
  | null => exact .null
  | bool b => exact .bool b
  | float x => exact .float x
  | str s => exact .str s

theorem distinct_arranged {v : Json} (h : v.Distinct) : (arranged v).Distinct := by
  induction v using byParts with
  | arr items ih =>
      rw [Distinct, distinctItems_iff] at h
      rw [arranged_arr, Distinct, distinctItems_iff, List.forall_mem_map]
      exact fun v hv => ih v hv (h v hv)
  | obj fields ih =>
      rw [Distinct, distinctFields_iff] at h
      rw [arranged_obj, Distinct, distinctFields_iff]
      refine ⟨?_, fun p hp => ?_⟩
      · rw [((sortFields_perm _).map _).nodup_iff, keys_arrangedMember]
        exact h.1
      · obtain ⟨q, hq, rfl⟩ := List.mem_map.mp ((sortFields_perm _).mem_iff.mp hp)
        exact ih q hq (h.2 q hq)
  | _ => trivial

/-- A plain text is the text of one value only, because it is read back. -/
theorem ascii_inj {v w : Json} (hv : v.Distinct) (hw : w.Distinct) (hshort : Short v)
    (hshort' : Short w) (h : chars .ascii v = chars .ascii w) : v = w := by
  have hread := parse_text ascii_readable hv (hshort.defect? rfl)
  rw [text, h, ← text, parse_text ascii_readable hw (hshort'.defect? rfl)] at hread
  exact (Except.ok.inj hread).symm

/-- **Two values have the same sorted text just if they are arranged alike.** -/
theorem canonical_inj {a b : Json} (ha : a.Distinct) (hb : b.Distinct) (hshort : Short a)
    (hshort' : Short b) : chars .canonical a = chars .canonical b ↔ arranged a = arranged b := by
  rw [chars_canonical, chars_canonical]
  exact ⟨ascii_inj (distinct_arranged ha) (distinct_arranged hb) (short_arranged hshort)
    (short_arranged hshort'), congrArg _⟩

/-! ## Doubles -/

/-- No text of a finite double has a letter of the words for the others in it. -/
theorem finite_text_ne (n : Bool) (e : Fin 2047) (f : Fin 4503599627370496) {word : List Char}
    (hword : 'n' ∈ word) : messageLayout.text (.finite n e f) ≠ word := by
  obtain ⟨x, hproper, -, hchars, -⟩ := Layout.text_numeral (l := messageLayout) rfl rfl n e f
  rintro rfl
  rw [← hchars] at hword
  rcases Number.mem_chars hproper hword with hdigit | hmark
  · exact absurd hdigit (by decide)
  · exact absurd hmark (by decide)

/-- Doubles that are shown alike are the same double. -/
theorem shown_inj {x y : Binary64} (h : messageLayout.text x = messageLayout.text y) : x = y := by
  cases x with
  | nan =>
      cases y with
      | nan => rfl
      | infinite b => cases b <;> exact absurd h (by decide)
      | finite n e f => exact absurd h.symm (finite_text_ne n e f (by decide))
  | infinite a =>
      cases y with
      | nan => cases a <;> exact absurd h (by decide)
      | infinite b => cases a <;> cases b <;> first | rfl | exact absurd h (by decide)
      | finite n e f => cases a <;> exact absurd h.symm (finite_text_ne n e f (by decide))
  | finite n e f =>
      cases y with
      | nan => exact absurd h (finite_text_ne n e f (by decide))
      | infinite b => cases b <;> exact absurd h (finite_text_ne n e f (by decide))
      | finite n' e' f' =>
          -- only the words differ from the doubles of JSON
          exact Json.float.inj (ascii_inj trivial trivial (.float _) (.float _) h)

/-! ## Arranged alike -/

/-- Members with distinct keys are the same, in some order, just if the keys are the same and so is
the value of each key. -/
theorem arrangedMembers_perm_iff {fields others : Fields} (h : (fields.map (·.1)).Nodup)
    (h' : (others.map (·.1)).Nodup) :
    (fields.map arrangedMember).Perm (others.map arrangedMember) ↔
      (∀ key, fields.has key = others.has key) ∧ ∀ key v w, fields.get? key = some v →
        others.get? key = some w → arranged v = arranged w := by
  have hnodup : ∀ {l : Fields}, (l.map (·.1)).Nodup → (l.map arrangedMember).Nodup := by
    intro l hl
    rw [← keys_arrangedMember] at hl
    exact hl.of_map
  have hmem : ∀ {l : Fields} {key : String} {u : Json}, (key, u) ∈ l.map arrangedMember ↔
      ∃ v, (key, v) ∈ l ∧ arranged v = u := by
    intro l key u
    simp only [List.mem_map, arrangedMember, Prod.mk.injEq, Prod.exists]
    constructor
    · rintro ⟨_, v, hv, rfl, rfl⟩
      exact ⟨v, hv, rfl⟩
    · rintro ⟨v, hv, rfl⟩
      exact ⟨key, v, hv, rfl, rfl⟩
  rw [List.perm_ext_iff_of_nodup (hnodup h) (hnodup h')]
  constructor
  · intro hsame
    have hmember : ∀ {key : String} {v : Json}, (key, v) ∈ fields →
        ∃ w, (key, w) ∈ others ∧ arranged w = arranged v := fun hv =>
      hmem.mp ((hsame _).mp (hmem.mpr ⟨_, hv, rfl⟩))
    have hmember' : ∀ {key : String} {w : Json}, (key, w) ∈ others →
        ∃ v, (key, v) ∈ fields ∧ arranged v = arranged w := fun hw =>
      hmem.mp ((hsame _).mpr (hmem.mpr ⟨_, hw, rfl⟩))
    refine ⟨fun key => Bool.eq_iff_iff.mpr ?_, fun key v w hv hw => ?_⟩
    · rw [Fields.has_iff, Fields.has_iff]
      exact ⟨fun ⟨_, hv⟩ => (hmember hv).imp fun _ => And.left,
        fun ⟨_, hw⟩ => (hmember' hw).imp fun _ => And.left⟩
    · obtain ⟨u, hu, heq⟩ := hmember ((Fields.get?_eq_some_iff h).mp hv)
      rw [(Fields.get?_eq_some_iff h').mpr hu] at hw
      rw [← heq, Option.some.inj hw]
  · rintro ⟨hkeys, hvalues⟩ ⟨key, u⟩
    rw [hmem, hmem]
    have hboth : ∀ {v w : Json}, (key, v) ∈ fields → (key, w) ∈ others →
        arranged v = arranged w := fun hv hw =>
      hvalues key _ _ ((Fields.get?_eq_some_iff h).mpr hv) ((Fields.get?_eq_some_iff h').mpr hw)
    constructor
    · rintro ⟨v, hv, rfl⟩
      obtain ⟨w, hw⟩ := Fields.has_iff.mp (hkeys key ▸ Fields.has_iff.mpr ⟨v, hv⟩)
      exact ⟨w, hw, (hboth hv hw).symm⟩
    · rintro ⟨w, hw, rfl⟩
      obtain ⟨v, hv⟩ := Fields.has_iff.mp ((hkeys key).symm ▸ Fields.has_iff.mpr ⟨w, hw⟩)
      exact ⟨v, hv, hboth hv hw⟩

theorem kind_arranged (v : Json) : (arranged v).kind = v.kind := by
  cases v <;> rfl

theorem SameTree.kind {a b : Json} (h : SameTree a b) : a.kind = b.kind := by
  cases h <;> rfl

/-- Values of different kinds are neither. -/
theorem apart {a b : Json} (h : a.kind ≠ b.kind) : arranged a = arranged b ↔ SameTree a b := by
  refine iff_of_false (fun heq => h ?_) fun hsame => h hsame.kind
  rw [← kind_arranged, heq, kind_arranged]

/-- **Values are arranged alike just if they are the same trees.** -/
theorem arranged_eq_iff {a b : Json} (ha : a.Distinct) (hb : b.Distinct) :
    arranged a = arranged b ↔ SameTree a b := by
  induction a using byParts generalizing b with
  | null =>
      cases b with
      | null => exact iff_of_true rfl .null
      | _ => exact apart (fun h => Kind.noConfusion h)
  | bool x =>
      cases b with
      | bool y => exact ⟨fun h => Json.bool.inj h ▸ .bool x, fun h => by cases h; rfl⟩
      | _ => exact apart (fun h => Kind.noConfusion h)
  | int n =>
      cases b with
      | int m => exact ⟨fun h => Json.int.inj h ▸ .int n, fun h => by cases h; rfl⟩
      | _ => exact apart (fun h => Kind.noConfusion h)
  | float x =>
      cases b with
      | float y =>
          refine ⟨fun h => .float (congrArg _ (Json.float.inj h)), fun h => ?_⟩
          cases h with
          | float hshown => rw [shown_inj hshown]
      | _ => exact apart (fun h => Kind.noConfusion h)
  | str s =>
      cases b with
      | str t => exact ⟨fun h => Json.str.inj h ▸ .str s, fun h => by cases h; rfl⟩
      | _ => exact apart (fun h => Kind.noConfusion h)
  | arr items ih =>
      cases b with
      | arr others =>
          rw [Distinct, distinctItems_iff] at ha hb
          have hitems : items.map arranged = others.map arranged ↔
              List.Forall₂ SameTree items others := by
            rw [← List.forall₂_eq_eq_eq, List.forall₂_map_left_iff, List.forall₂_map_right_iff,
              List.forall₂_iff_zip, List.forall₂_iff_zip]
            refine and_congr_right fun _ => forall₂_congr fun v w => forall_congr' fun hvw => ?_
            obtain ⟨hv, hw⟩ := List.of_mem_zip hvw
            exact ih v hv (ha v hv) (hb w hw)
          rw [arranged_arr, arranged_arr, Json.arr.injEq, hitems]
          refine ⟨.arr, fun h => ?_⟩
          cases h with
          | arr hall => exact hall
      | _ => exact apart (fun h => Kind.noConfusion h)
  | obj fields ih =>
      cases b with
      | obj others =>
          rw [Distinct, distinctFields_iff] at ha hb
          have hvalue : ∀ {key : String} {v w : Json}, Fields.get? fields key = some v →
              Fields.get? others key = some w → (arranged v = arranged w ↔ SameTree v w) := by
            intro key v w hv hw
            have hmem := (Fields.get?_eq_some_iff ha.1).mp hv
            have hmem' := (Fields.get?_eq_some_iff hb.1).mp hw
            exact ih _ hmem (ha.2 _ hmem) (hb.2 _ hmem')
          have hnodup : ((fields.map arrangedMember).map (·.1)).Nodup := by
            rw [keys_arrangedMember]
            exact ha.1
          rw [arranged_obj, arranged_obj, Json.obj.injEq, sortFields_eq_iff hnodup,
            arrangedMembers_perm_iff ha.1 hb.1]
          constructor
          · rintro ⟨hkeys, hvalues⟩
            exact .obj hkeys fun key v w hv hw => (hvalue hv hw).mp (hvalues key v w hv hw)
          · intro h
            cases h with
            | obj hkeys hsame =>
                exact ⟨hkeys, fun key v w hv hw => (hvalue hv hw).mpr (hsame key v w hv hw)⟩
      | _ => exact apart (fun h => Kind.noConfusion h)

end Json

namespace Debug

open Json

/-- **A value counts as changed just if the tree has.**  Two values whose objects have distinct keys
and whose whole numbers are short are compared without a fault, and are the same just if they are
the same trees. -/
theorem sameValue_iff {a b : Json} (ha : a.Distinct) (hb : b.Distinct) (hshort : a.Short)
    (hshort' : b.Short) : ∃ same, sameValue a b = .ok same ∧ (same = true ↔ SameTree a b) := by
  have hrun : sameValue a b = .ok (Json.text .canonical a == Json.text .canonical b) := by
    rw [sameValue, writeJson_eq_ok.mpr ⟨hshort.defect? rfl, rfl⟩,
      writeJson_eq_ok.mpr ⟨hshort'.defect? rfl, rfl⟩]
    rfl
  refine ⟨_, hrun, ?_⟩
  rw [beq_iff_eq, Json.text, Json.text, String.ofList_inj, canonical_inj ha hb hshort hshort']
  exact arranged_eq_iff ha hb

/-- Members in another order, on two levels, and doubles that are not equal as numbers. -/
theorem sameValue_iff_reordered :
    let a := Json.obj [("x", .int 1), ("y", .obj [("é", .float .nan), ("", .arr [.bool true])])]
    let b := Json.obj [("y", .obj [("", .arr [.bool true]), ("é", .float .nan)]), ("x", .int 1)]
    (a.Distinct ∧ b.Distinct ∧ a.Short ∧ b.Short) ∧ sameValue a b = .ok true ∧ SameTree a b := by
  intro a b
  have ha : a.Distinct := by simp [a, Distinct, DistinctItems, DistinctFields]
  have hb : b.Distinct := by simp [b, Distinct, DistinctItems, DistinctFields]
  have hone : (Nat.toDigits 10 (1 : Int).natAbs).length ≤ digitLimit := by decide
  have hmember : (Json.arr [.bool true]).Short := .arr (by simp [Short.bool])
  have hshort : a.Short := .obj (by simp [hmember, Short.int hone, Short.obj, Short.float])
  have hshort' : b.Short := .obj (by simp [hmember, Short.int hone, Short.obj, Short.float])
  have hinner : arranged (.obj [("é", .float .nan), ("", .arr [.bool true])]) =
      arranged (.obj [("", .arr [.bool true]), ("é", .float .nan)]) := by
    rw [arranged_obj, arranged_obj, Json.obj.injEq, sortFields_eq_iff (by simp [arrangedMember])]
    exact .swap _ _ _
  have htree : SameTree a b := by
    refine (arranged_eq_iff ha hb).mp ?_
    rw [arranged_obj, arranged_obj, Json.obj.injEq, sortFields_eq_iff (by simp [arrangedMember])]
    simp only [List.map_cons, arrangedMember, hinner]
    exact .swap _ _ _
  obtain ⟨same, hrun, hiff⟩ := sameValue_iff ha hb hshort hshort'
  rw [hiff.mpr htree] at hrun
  exact ⟨⟨ha, hb, hshort, hshort'⟩, hrun, htree⟩

-- the zeros are shown differently, and a whole number is no double
example : sameValue (.float (.zero false)) (.float (.zero true)) = .ok false ∧
    sameValue (.int 1) (.float (.ofInt 1)) = .ok false ∧
    sameValue (.int 1) (.bool true) = .ok false := by decide +kernel

end Debug

end StoryServer
