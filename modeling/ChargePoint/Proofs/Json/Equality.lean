import ChargePoint.Proofs.Json.Tree

/-!
# Equality of JSON values

Two numbers are equal if they are the same, but for one exception: the zeros of the floats, which
differ in their sign, are equal.  So two trees are equal exactly when they are the same once the
sign of every zero has been dropped.  An equality of that form, by what a function makes of two
values, is an equivalence, and passes from the parts of a value to the whole.

## Main definitions

* `EqualAt`: the values equal to one value are those that a function takes to the same.
* `Number.foldZeros`, `Json.foldZeros`: the sign of zeros dropped.

## Main results

* `equivalence_of_equalAt`: equality by what a function gives is an equivalence.
* `Number.beq_iff`: which numbers are equal.
* `Json.equalAt_foldZeros`: equality of trees.
* `Json.canonical_foldZeros`: signs are dropped before or after members are collected.
-/

namespace ChargePoint

/-! ### Equality by what a function gives -/

section EqualAt

variable {α β : Type} [BEq α] {f : α → β}

/-- **The values equal to one** are those that a function takes to the same. -/
def EqualAt (f : α → β) (x : α) : Prop := ∀ y, (x == y) = true ↔ f x = f y

/-- An equality that is sameness of images is an equivalence. -/
theorem equivalence_of_equalAt (h : ∀ x, EqualAt f x) :
    Equivalence fun x y : α => (x == y) = true where
  refl x := (h x x).2 rfl
  symm {x y} same := (h y x).2 ((h x y).1 same).symm
  trans {x y z} first second := (h x z).2 (((h x y).1 first).trans ((h y z).1 second))

theorem equalAt_id [LawfulBEq α] (x : α) : EqualAt id x := fun _ => beq_iff_eq

theorem equalAt_list {xs : List α} (each : ∀ x ∈ xs, EqualAt f x) : EqualAt (List.map f) xs := by
  intro ys
  induction xs generalizing ys with
  | nil => cases ys <;> simp
  | cons x xs ih =>
    rw [List.forall_mem_cons] at each
    rcases ys with - | ⟨y, ys⟩
    · simp
    · rw [List.cons_beq_cons, Bool.and_eq_true, each.1 y, ih each.2 ys, List.map_cons,
        List.map_cons, List.cons.injEq]

theorem equalAt_option {x : Option α} (each : ∀ value ∈ x, EqualAt f value) :
    EqualAt (Option.map f) x := by
  intro y
  rcases x with - | x
  · cases y <;> simp
  · rcases y with - | y
    · simp
    · exact (each x rfl y).trans (by simp)

/-- Members are equal that have one name and equal values. -/
theorem equalAt_members {members : List (String × α)}
    (each : ∀ entry ∈ members, EqualAt f entry.2) : EqualAt (Keyed.mapValues f) members := by
  apply equalAt_list
  rintro ⟨name, value⟩ member ⟨other, value'⟩
  have values := each _ member value'
  show (name == other && value == value') = true ↔ (name, f value) = (other, f value')
  rw [Bool.and_eq_true, beq_iff_eq, values, Prod.mk.injEq]

end EqualAt

/-! ### Numbers -/

namespace Number

/-- A number without the sign of a zero. -/
def foldZeros : Number → Number
  | whole n => whole n
  | float x => float (if x.isZero then .zero false else x)

/-- A zero becomes a zero without its sign, and nothing else becomes a zero. -/
theorem isZero_foldZeros {x y : Binary64}
    (h : (if x.isZero then Binary64.zero false else x) = y) : y.isZero = x.isZero := by
  split at h
  · rename_i zero
    rw [← h, zero]
    rfl
  · rw [h]

/-- Numbers are equal when they are the same but for the sign of a zero. -/
theorem equalAt_foldZeros (n : Number) : EqualAt foldZeros n := by
  intro m
  rcases n with n | x <;> rcases m with m | y
  · show (n == m) = true ↔ _
    simp [foldZeros]
  · exact iff_of_false nofun nofun
  · exact iff_of_false nofun nofun
  · show (x == y || (x.isZero && y.isZero)) = true ↔ _
    simp only [foldZeros, float.injEq, Bool.or_eq_true, beq_iff_eq, Bool.and_eq_true]
    constructor
    · rintro (rfl | ⟨first, second⟩)
      · rfl
      · rw [if_pos first, if_pos second]
    · intro same
      have both : y.isZero = x.isZero := (isZero_foldZeros rfl).symm.trans (isZero_foldZeros same)
      by_cases zero : x.isZero = true
      · exact .inr ⟨zero, both.trans zero⟩
      · rw [if_neg zero, if_neg (both ▸ zero)] at same
        exact .inl same

/-- **Which numbers are equal**: those that are the same, and the two zeros of the floats. -/
theorem beq_iff {n m : Number} :
    (n == m) = true ↔
      n = m ∨ ∃ x y : Binary64, n = float x ∧ m = float y ∧ x.isZero = true ∧ y.isZero = true := by
  rcases n with n | x <;> rcases m with m | y
  · show (n == m) = true ↔ _
    simp
  · exact iff_of_false nofun (by simp)
  · exact iff_of_false nofun (by simp)
  · show (x == y || (x.isZero && y.isZero)) = true ↔ _
    simp

end Number

/-! ### Trees -/

namespace Json

mutual

/-- **A tree without the sign of zeros.** -/
def foldZeros : Json → Json
  | null => null
  | bool b => bool b
  | number n => number n.foldZeros
  | string s => string s
  | array items => array (foldItems items)
  | object members => object (foldMembers members)

/-- The items of an array without the sign of zeros. -/
def foldItems : List Json → List Json
  | [] => []
  | item :: rest => foldZeros item :: foldItems rest

/-- The members of an object without the sign of zeros. -/
def foldMembers : List (String × Json) → List (String × Json)
  | [] => []
  | (name, value) :: rest => (name, foldZeros value) :: foldMembers rest

end

theorem foldItems_eq_map (items : List Json) : foldItems items = items.map foldZeros := by
  induction items with
  | nil => rfl
  | cons item rest ih => rw [foldItems, ih, List.map_cons]

theorem foldMembers_eq_mapValues (members : List (String × Json)) :
    foldMembers members = Keyed.mapValues foldZeros members := by
  induction members with
  | nil => rfl
  | cons entry rest ih => rw [foldMembers, ih, Keyed.mapValues_cons]

theorem beqItems_eq (xs ys : List Json) : Json.beqItems xs ys = (xs == ys) := by
  induction xs generalizing ys with
  | nil => cases ys <;> rfl
  | cons x xs ih =>
    rcases ys with - | ⟨y, ys⟩
    · rfl
    · rw [Json.beqItems, ih, List.cons_beq_cons]
      rfl

theorem beqMembers_eq (xs ys : List (String × Json)) : Json.beqMembers xs ys = (xs == ys) := by
  induction xs generalizing ys with
  | nil => cases ys <;> rfl
  | cons x xs ih =>
    rcases ys with - | ⟨y, ys⟩
    · rfl
    · rw [Json.beqMembers, ih, List.cons_beq_cons]
      rfl

/-- **Trees are equal** that are the same without the sign of zeros. -/
theorem equalAt_foldZeros (v : Json) : EqualAt foldZeros v := by
  induction v using inductionOn with
  | null =>
    intro w
    cases w with
    | null => exact iff_of_true rfl rfl
    | _ => exact iff_of_false nofun nofun
  | bool b =>
    intro w
    cases w with
    | bool c =>
      show (b == c) = true ↔ _
      simp [foldZeros]
    | _ => exact iff_of_false nofun nofun
  | number n =>
    intro w
    cases w with
    | number m => exact (n.equalAt_foldZeros m).trans (by simp [foldZeros])
    | _ => exact iff_of_false nofun nofun
  | string s =>
    intro w
    cases w with
    | string t =>
      show (s == t) = true ↔ _
      simp [foldZeros]
    | _ => exact iff_of_false nofun nofun
  | array items ih =>
    intro w
    cases w with
    | array others =>
      show Json.beqItems items others = true ↔ _
      rw [beqItems_eq, equalAt_list ih others, foldZeros, foldZeros, foldItems_eq_map,
        foldItems_eq_map, array.injEq]
    | _ => exact iff_of_false nofun nofun
  | object members ih =>
    intro w
    cases w with
    | object others =>
      show Json.beqMembers members others = true ↔ _
      rw [beqMembers_eq, equalAt_members ih others, foldZeros, foldZeros,
        foldMembers_eq_mapValues, foldMembers_eq_mapValues, object.injEq]
    | _ => exact iff_of_false nofun nofun

/-- **Signs are dropped before or after members are collected.** -/
theorem canonical_foldZeros (v : Json) : v.foldZeros.canonical = v.canonical.foldZeros := by
  induction v using inductionOn with
  | null => rfl
  | bool b => rfl
  | number n => rfl
  | string s => rfl
  | array items ih =>
    rw [foldZeros, foldItems_eq_map, canonical_array, canonical_array, foldZeros, foldItems_eq_map,
      List.map_map, List.map_map]
    exact congrArg array (List.map_congr_left ih)
  | object members ih =>
    have same : Keyed.mapValues (fun value => value.foldZeros.canonical) members =
        Keyed.mapValues (fun value => value.canonical.foldZeros) members := Keyed.mapValues_congr ih
    rw [foldZeros, foldMembers_eq_mapValues, canonical_object, canonical_object, foldZeros,
      foldMembers_eq_mapValues, Keyed.mapValues_mapValues, same, ← Keyed.mapValues_mapValues,
      Keyed.ofList_mapValues]

end Json

end ChargePoint
