/-!
# Outcomes

When a computation that may fail succeeds: each step of it does, and its result is that of the last
step.  When it fails, it does with the error of the first step that fails.  Every reading and every
check of the library is such a computation, and these rules take it apart without looking into its
steps.

## Main definitions

* `failure?`: the error of a computation that fails.
-/

namespace ChargePoint

variable {ε ε' α β : Type}

/-- Two computations in turn give what the second gives for what the first does. -/
@[simp] theorem bind_eq_ok_iff {x : Except ε α} {f : α → Except ε β} {b : β} :
    (x >>= f) = .ok b ↔ ∃ a, x = .ok a ∧ f a = .ok b := by
  cases x <;> simp [bind, Except.bind]

@[simp] theorem pure_eq_ok_iff {a b : α} : (pure a : Except ε α) = .ok b ↔ a = b := by
  simp [pure, Except.pure]

@[simp] theorem map_eq_ok_iff {x : Except ε α} {f : α → β} {b : β} :
    x.map f = .ok b ↔ ∃ a, x = .ok a ∧ f a = b := by
  cases x <;> simp [Except.map]

@[simp] theorem mapError_eq_ok_iff {x : Except ε α} {f : ε → ε'} {a : α} :
    x.mapError f = .ok a ↔ x = .ok a := by
  cases x with
  | error e => exact ⟨nofun, nofun⟩
  | ok b => exact ⟨fun h => congrArg Except.ok (Except.ok.inj h),
      fun h => congrArg Except.ok (Except.ok.inj h)⟩

@[simp] theorem toOption_eq_some_iff {x : Except ε α} {a : α} :
    x.toOption = some a ↔ x = .ok a := by
  cases x <;> simp [Except.toOption]

@[simp] theorem ok_bind (a : α) (f : α → Except ε β) : (Except.ok a >>= f) = f a := rfl

theorem bind_eq_of_eq_ok {x : Except ε α} {f : α → Except ε β} {a : α} (h : x = .ok a) :
    (x >>= f) = f a := by
  rw [h, ok_bind]

@[simp] theorem error_bind (e : ε) (f : α → Except ε β) : (Except.error e >>= f) = .error e := rfl

/-- A computation that a judgement lets through. -/
theorem dite_eq_ok_iff {b : Bool} {f : b = true → α} {e : ε} {a : α} :
    (if h : b = true then .ok (f h) else .error e) = Except.ok a ↔ ∃ h, f h = a := by
  cases b with
  | false => simp
  | true => simp

/-- A computation that a judgement stops. -/
theorem dite_eq_error_iff {b : Bool} {f : b = true → α} {e e' : ε} :
    (if h : b = true then .ok (f h) else .error e) = Except.error e' ↔ b = false ∧ e' = e := by
  cases b with
  | false => simp [eq_comm]
  | true => simp

/-! ### Failure -/

/-- The error of a computation, if it fails. -/
def failure? : Except ε α → Option ε
  | .ok _ => none
  | .error e => some e

theorem failure?_eq_some_iff {x : Except ε α} {e : ε} : failure? x = some e ↔ x = .error e := by
  cases x <;> simp [failure?]

/-- A step that nothing after it looks at fails first. -/
theorem failure?_bind_const (x : Except ε α) (y : Except ε β) :
    failure? (x >>= fun _ => y) = (failure? x).or (failure? y) := by
  cases x <;> rfl

theorem failure?_bind_pure (x : Except ε α) (f : α → β) :
    failure? (x >>= fun a => pure (f a)) = failure? x := by
  cases x <;> rfl

theorem failure?_map (x : Except ε α) (f : α → β) : failure? (x.map f) = failure? x := by
  cases x <;> rfl

theorem failure?_bind_congr {x : Except ε α} {f : α → Except ε β}
    {γ : Type} {g : α → Except ε γ} (h : ∀ a, failure? (f a) = failure? (g a)) :
    failure? (x >>= f) = failure? (x >>= g) := by
  cases x with
  | ok a => exact h a
  | error e => rfl

/-- The first of two computations in turn that fails is the failure of both. -/
theorem bind_eq_error_iff {x : Except ε α} {f : α → Except ε β} {e : ε} :
    (x >>= f) = .error e ↔ x = .error e ∨ ∃ a, x = .ok a ∧ f a = .error e := by
  cases x <;> simp [bind, Except.bind]

/-- What is made of a result plays no part in failure. -/
theorem bind_pure_eq_error_iff {x : Except ε α} {f : α → β} {e : ε} :
    (x >>= fun a => pure (f a)) = .error e ↔ x = .error e := by
  rw [← failure?_eq_some_iff, failure?_bind_pure, failure?_eq_some_iff]

@[inherit_doc bind_pure_eq_error_iff]
theorem map_eq_error_iff {x : Except ε α} {f : α → β} {e : ε} :
    x.map f = .error e ↔ x = .error e := by
  rw [← failure?_eq_some_iff, failure?_map, failure?_eq_some_iff]

theorem mapError_eq_error_iff {x : Except ε α} {f : ε → ε'} {e : ε'} :
    x.mapError f = .error e ↔ ∃ e', x = .error e' ∧ f e' = e := by
  constructor
  · intro h
    cases x with
    | ok a => cases h
    | error e' => exact ⟨e', rfl, Except.error.inj h⟩
  · rintro ⟨e', rfl, rfl⟩
    rfl

/-! ### Two optional values -/

theorem rel_congr {r r' : α → β → Prop} {o : Option α} {p : Option β}
    (h : ∀ a, o = some a → ∀ b, r a b ↔ r' a b) : Option.Rel r o p ↔ Option.Rel r' o p := by
  cases o with
  | none => cases p <;> simp
  | some a => cases p <;> simp [h a rfl]

theorem rel_some_iff {r : α → β → Prop} {o : Option α} {b : β} :
    Option.Rel r o (some b) ↔ ∃ a, o = some a ∧ r a b := by
  cases o <;> simp

theorem rel_none_iff {r : α → β → Prop} {o : Option α} :
    Option.Rel r o (none : Option β) ↔ o = none := by
  cases o <;> simp

theorem rel_eq_map_iff {f : β → α} {o : Option α} {p : Option β} :
    Option.Rel (fun a b => a = f b) o p ↔ o = p.map f := by
  cases o <;> cases p <;> simp

theorem rel_map_left_iff {γ : Type} {r : γ → β → Prop} {o : Option α} {p : Option β} {f : α → γ} :
    Option.Rel r (o.map f) p ↔ Option.Rel (fun a b => r (f a) b) o p := by
  cases o <;> cases p <;> simp

theorem map_eq_map_of_rel {γ : Type} {r : α → β → Prop} {o : Option α} {p : Option β} {f : α → γ}
    {g : β → γ} (h : Option.Rel r o p) (same : ∀ a ∈ o, ∀ b, r a b → g b = f a) :
    p.map g = o.map f := by
  cases h with
  | none => rfl
  | some related => exact congrArg some (same _ rfl _ related)

theorem rel_map_of_rel {γ : Type} {r : α → β → Prop} {r' : α → γ → Prop} {o : Option α}
    {p : Option β} {g : β → γ} (h : Option.Rel r o p) (map : ∀ a ∈ o, ∀ b, r a b → r' a (g b)) :
    Option.Rel r' o (p.map g) := by
  cases h with
  | none => exact .none
  | some related => exact .some (map _ rfl _ related)

/-- What is there can be related as long as each of it can. -/
theorem exists_rel_iff {r : α → β → Prop} {o : Option α} :
    (∃ p, Option.Rel r o p) ↔ ∀ a ∈ o, ∃ b, r a b := by
  cases o with
  | none => exact ⟨fun _ => nofun, fun _ => ⟨none, .none⟩⟩
  | some a =>
    constructor
    · rintro ⟨_, h⟩ _ there
      cases there
      cases h with
      | some related => exact ⟨_, related⟩
    · intro h
      obtain ⟨b, related⟩ := h a rfl
      exact ⟨some b, .some related⟩

theorem rel_and_iff {r : α → β → Prop} {p : β → Prop} {o : Option α} {q : Option β} :
    Option.Rel (fun a b => r a b ∧ p b) o q ↔ Option.Rel r o q ∧ ∀ b ∈ q, p b := by
  cases o <;> cases q <;> simp

end ChargePoint
