/-!
# Records

A record gives each index of a list a content of a type of its own.  A position in the list is a
slot, and a slot knows which index stands there, so looking a content up needs no cast and cannot
fail.

## Main definitions

* `Record`, `Slot`: records over a list of indices, and positions in the list.
* `Record.get`, `Record.set`: the content in a slot, and another in its place.
* `Record.map`, `Record.mapM`, `Record.pure`, `Record.toList`: slot by slot.
* `Slot.find?`: the first slot whose index satisfies a predicate.

## Main results

* `Record.get_set_self`, `Record.get_set_of_ne`: setting one slot leaves the others.
* `Record.ext`: a record is determined by its contents.
-/

namespace ChargePoint

variable {ι : Type}

/-- **A record**: a content for each index of a list. -/
inductive Record (α : ι → Type) : List ι → Type where
  | nil : Record α []
  | cons {i : ι} {is : List ι} (head : α i) (tail : Record α is) : Record α (i :: is)

/-- **A slot**: a position in a list, with the index that stands there. -/
inductive Slot : List ι → ι → Type where
  | first {i : ι} {is : List ι} : Slot (i :: is) i
  | next {i j : ι} {is : List ι} (slot : Slot is j) : Slot (i :: is) j

namespace Slot

/-- The position, counted from zero. -/
def position {is : List ι} {i : ι} : Slot is i → Nat
  | first => 0
  | next slot => slot.position + 1

/-- The first slot whose index satisfies a predicate. -/
def find? (p : ι → Bool) : (is : List ι) → Option ((i : ι) × Slot is i)
  | [] => none
  | i :: is =>
    if p i then some ⟨i, first⟩
    else (find? p is).map fun found => ⟨found.1, next found.2⟩

end Slot

namespace Record

variable {α β : ι → Type}

/-- The content in a slot. -/
def get {i : ι} : {is : List ι} → Record α is → Slot is i → α i
  | _, cons head _, .first => head
  | _, cons _ tail, .next slot => tail.get slot

/-- The record with another content in one slot. -/
def set {i : ι} : {is : List ι} → Record α is → Slot is i → α i → Record α is
  | _, cons _ tail, .first, content => cons content tail
  | _, cons head tail, .next slot, content => cons head (tail.set slot content)

/-- The record with a content computed from each index. -/
protected def pure (f : (i : ι) → α i) : (is : List ι) → Record α is
  | [] => nil
  | i :: is => cons (f i) (Record.pure f is)

/-- Change each content. -/
def map (f : (i : ι) → α i → β i) : {is : List ι} → Record α is → Record β is
  | _, nil => nil
  | _, cons (i := i) head tail => cons (f i head) (tail.map f)

/-- Change each content in turn, until one cannot be changed. -/
def mapM {ε : Type} (f : (i : ι) → α i → Except ε (β i)) :
    {is : List ι} → Record α is → Except ε (Record β is)
  | _, nil => .ok nil
  | _, cons (i := i) head tail => do return cons (← f i head) (← tail.mapM f)

/-- One value for each content, in order. -/
def toList {γ : Type} (f : (i : ι) → α i → γ) : {is : List ι} → Record α is → List γ
  | _, nil => []
  | _, cons (i := i) head tail => f i head :: tail.toList f

/-- Whether each content satisfies a predicate. -/
def all (p : (i : ι) → α i → Bool) : {is : List ι} → Record α is → Bool
  | _, nil => true
  | _, cons (i := i) head tail => p i head && tail.all p

/-- Whether two records have equal contents, by an equality for each index. -/
protected def beq (eq : (i : ι) → α i → α i → Bool) :
    {is : List ι} → Record α is → Record α is → Bool
  | _, nil, nil => true
  | _, cons (i := i) a as, cons b bs => eq i a b && as.beq eq bs

/-! ### Contents and slots -/

@[simp] theorem get_set_self {i : ι} {is : List ι} (r : Record α is) (slot : Slot is i)
    (content : α i) : (r.set slot content).get slot = content := by
  induction slot with
  | first => cases r; rfl
  | next slot ih => cases r with | cons head tail => exact ih tail content

theorem get_set_of_ne {i j : ι} {is : List ι} (r : Record α is) (slot : Slot is i)
    (other : Slot is j) (content : α i) (h : slot.position ≠ other.position) :
    (r.set slot content).get other = r.get other := by
  induction slot with
  | first =>
    cases other with
    | first => exact absurd rfl h
    | next other => cases r; rfl
  | next slot ih =>
    cases r with
    | cons head tail =>
      cases other with
      | first => rfl
      | next other => exact ih tail other content fun same => h (congrArg (· + 1) same)

@[simp] theorem get_map {i : ι} {is : List ι} (f : (i : ι) → α i → β i) (r : Record α is)
    (slot : Slot is i) : (r.map f).get slot = f i (r.get slot) := by
  induction slot with
  | first => cases r; rfl
  | next slot ih => cases r with | cons head tail => exact ih tail

@[simp] theorem get_pure {i : ι} {is : List ι} (f : (i : ι) → α i) (slot : Slot is i) :
    (Record.pure f is).get slot = f i := by
  induction slot with
  | first => rfl
  | next slot ih => exact ih

/-- A record is determined by its contents. -/
theorem ext {is : List ι} {r s : Record α is}
    (h : ∀ (i : ι) (slot : Slot is i), r.get slot = s.get slot) : r = s := by
  induction r with
  | nil => cases s; rfl
  | cons head tail ih =>
    cases s with
    | cons head' tail' =>
      have heads : head = head' := h _ .first
      have tails : tail = tail' := ih fun i slot => h i (.next slot)
      rw [heads, tails]

end Record

end ChargePoint
