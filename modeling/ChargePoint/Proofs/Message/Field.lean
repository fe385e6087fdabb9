import ChargePoint.Message.Field
import ChargePoint.Proofs.Data.StatusInfo

/-!
# What fields are read from, and when they are accepted

For every kind of content there are the values that it is read from, without regard to limits, and
the contents that are valid.  A check accepts exactly the valid contents and leaves them as they
are, except that data that are `null` become absent data.  Reading a field and committing what was
read therefore succeeds exactly when the value has the form of the kind and the content is valid.

## Main definitions

* `Kind.ReadFrom`: what a content is read from.
* `Kind.widen`: a content as it is read.
* `Field.settle`: what a check makes of a content.

## Main results

* `Kind.ofJson_eq_ok_iff`, `Kind.narrow_eq_ok_iff`: reading, kind by kind.
* `Field.accept_eq_ok_iff`, `Field.commit_eq_ok_iff`: what a check accepts, and what it makes of it.
* `Field.commit_read_iff`: reading a field and committing it.
-/

namespace ChargePoint

namespace Status

variable {v : Vocabulary}

theorem ofSpelling?_eq_some_iff {spelling : String} {s : Status v} :
    ofSpelling? v spelling = some s ↔ spelling = s.spelling := by
  constructor
  · intro h
    unfold ofSpelling? at h
    split at h
    · cases h
      rfl
    · cases h
  · rintro rfl
    exact dif_pos s.2

/-- A status is read from its own spelling alone. -/
theorem variant_eq_ok_iff {spelling : String} {s : Status v} :
    variant v spelling = .ok s ↔ spelling = s.spelling := by
  rw [← ofSpelling?_eq_some_iff, variant]
  cases ofSpelling? v spelling <;> simp

theorem unit_eq_ok_iff {found : Outline} {u : Unit} : unit found = .ok u ↔ found = .null := by
  unfold unit
  split <;> simp [*]

/-- **What a status is read from**: its spelling, or an object with nothing but that. -/
theorem ofJson_eq_ok_iff {w : Json} {s : Status v} :
    ofJson v w = .ok s ↔ w = .string s.spelling ∨ w = .object [(s.spelling, .null)] := by
  match w with
  | .string spelling => simp [ofJson, variant_eq_ok_iff]
  | .object [(spelling, content)] =>
    have isNull : content.outline = .null ↔ content = .null := by
      cases content <;> simp [Json.outline]
    simp only [ofJson, bind_eq_ok_iff, pure_eq_ok_iff, variant_eq_ok_iff, unit_eq_ok_iff, isNull]
    grind
  | .object [] => simp [ofJson]
  | .object (_ :: _ :: _) => simp [ofJson]
  | .null => simp [ofJson]
  | .bool _ => simp [ofJson]
  | .number _ => simp [ofJson]
  | .array _ => simp [ofJson]

end Status

namespace Kind

/-- **What a content is read from**, with no regard to its limits. -/
def ReadFrom : (k : Kind) → Json → k.Value → Prop
  | text _ => fun w s => w = .string s
  | status _ => fun w s => w = .string s.spelling ∨ w = .object [(s.spelling, .null)]
  | integer => fun w n => ∃ whole : Whole, w = .number (.whole whole) ∧ whole.value = n.toInt
  | instant => fun w t => ∃ text, w = .string text ∧ Instant.read text = .ok t
  | customData => CustomData.ReadFrom
  | statusInfo => StatusInfo.ReadFrom
  | data => fun w d => d = VendorValue.ofJson w

/-- A content as it is read: an integer as wide as it may have been. -/
def widen : (k : Kind) → k.Value → k.Raw
  | integer => Int32.toInt
  | text _ => id
  | status _ => id
  | instant => id
  | customData => id
  | statusInfo => id
  | data => id

/-- Whether a content counts as absent: data that are `null` do. -/
def isNull : (k : Kind) → k.Value → Bool
  | data => VendorValue.isNull
  | _ => fun _ => false

theorem widen_injective {k : Kind} {x y : k.Value} (h : k.widen x = k.widen y) : x = y := by
  cases k with
  | integer => exact Int32.toInt_inj.1 h
  | _ => exact h

/-! ### Reading -/

/-- **Reading a content** succeeds exactly on what it is read from. -/
theorem ofJson_eq_ok_iff {k : Kind} {w : Json} (canonical : w.Canonical) {x : k.Value} :
    k.ofJson w = .ok (k.widen x) ↔ k.ReadFrom w x := by
  cases k with
  | text limit => exact toText_eq_ok_iff
  | status v => exact Status.ofJson_eq_ok_iff
  | integer =>
    have small := x.toInt_lt
    refine toInteger_eq_ok_iff.trans (exists_congr fun whole => and_congr_right fun _ => ?_)
    exact and_iff_left (show x.toInt < 2 ^ (63 : Nat) by omega)
  | instant => exact toInstant_eq_ok_iff
  | customData => exact CustomData.ofJson_eq_ok_iff canonical
  | statusInfo => exact StatusInfo.ofJson_eq_ok_iff canonical
  | data =>
    show VendorValue.read w = .ok x ↔ x = VendorValue.ofJson w
    rw [VendorValue.read_eq, Except.ok.injEq, eq_comm]

theorem isNull_of_ne_data {k : Kind} (h : k ≠ data) {x : k.Value} : k.isNull x = false := by
  cases k with
  | data => exact absurd rfl h
  | _ => rfl

/-- Only a `null` is read as `null` data. -/
theorem isNull_of_readFrom {k : Kind} {w : Json} {x : k.Value} (h : k.ReadFrom w x) :
    k.isNull x = true → w.isNull = true := by
  cases k with
  | data =>
    obtain rfl : x = VendorValue.ofJson w := h
    show (VendorValue.ofJson w).isNull = true → _
    rw [VendorValue.isNull_ofJson]
    exact id
  | _ => exact nofun

/-! ### Acceptance -/

/-- Narrowing undoes widening, and accepts nothing else. -/
theorem narrow_eq_ok_iff {k : Kind} {label : String} {raw : k.Raw} {x : k.Value} :
    k.narrow label raw = .ok x ↔ raw = k.widen x := by
  cases k with
  | integer => exact acceptInteger_eq_ok_iff
  | _ => exact ⟨Except.ok.inj, congrArg Except.ok⟩

/-- **A content is accepted** as it is, if it is valid. -/
theorem accept_eq_ok_iff {k : Kind} {label : String} {x y : k.Value} :
    k.accept label x = .ok y ↔ x = y ∧ k.valid y = true := by
  cases k with
  | text limit => exact acceptText_eq_ok_iff
  | customData =>
    rw [accept]
    exact ChargePoint.accept_eq_ok_iff
  | statusInfo =>
    rw [accept]
    exact ChargePoint.accept_eq_ok_iff
  | _ => exact ⟨fun h => ⟨Except.ok.inj h, rfl⟩, fun h => congrArg Except.ok h.1⟩

/-- What of a content counts as being there. -/
def present (k : Kind) (x : Option k.Value) : Option k.Value :=
  x.filter fun value => !k.isNull value

theorem present_eq_self {k : Kind} {x : Option k.Value} (h : ∀ value ∈ x, k.isNull value = false) :
    k.present x = x := by
  cases x with
  | none => rfl
  | some value => exact Option.filter_some_pos (by rw [h value rfl]; rfl)

/-- **A content that may be absent is accepted** if it is absent or valid; data that are `null`
become absent. -/
theorem acceptOptional_eq_ok_iff {k : Kind} {label : String} {x y : Option k.Value} :
    k.acceptOptional label x = .ok y ↔ k.present x = y ∧ y.all k.valid = true := by
  cases k with
  | text limit =>
    rw [present_eq_self fun _ _ => rfl]
    exact ifPresent_eq_ok_iff fun x y => acceptText_eq_ok_iff
  | customData =>
    rw [present_eq_self fun _ _ => rfl]
    exact acceptPart_eq_ok_iff
  | statusInfo =>
    rw [present_eq_self fun _ _ => rfl]
    exact acceptPart_eq_ok_iff
  | data =>
    have admitted : y.all (valid data) = true := by cases y <;> rfl
    rw [and_iff_left admitted]
    exact ⟨Except.ok.inj, congrArg Except.ok⟩
  | _ =>
    have admitted : y.all (valid _) = true := by cases y <;> rfl
    rw [present_eq_self fun _ _ => rfl, and_iff_left admitted]
    exact ⟨Except.ok.inj, congrArg Except.ok⟩

end Kind

namespace Field

/-- What a check makes of a content that it accepts. -/
def settle : (f : Field) → f.Content → f.Content
  | ⟨_, _, .required⟩ => id
  | ⟨_, kind, .optional⟩ => kind.present

/-- **A check accepts** the contents that are valid. -/
theorem accept_eq_ok_iff {f : Field} {x y : f.Content} :
    f.accept x = .ok y ↔ f.settle x = y ∧ f.valid y = true := by
  match f with
  | ⟨_, _, .required⟩ => exact Kind.accept_eq_ok_iff
  | ⟨_, kind, .optional⟩ =>
    have valid : Field.valid ⟨_, kind, .optional⟩ y = Option.all kind.valid y := by
      cases y <;> rfl
    rw [valid]
    exact Kind.acceptOptional_eq_ok_iff

/-- Committing what was read accepts the content that it is, if a message can hold it. -/
theorem commit_eq_ok_iff {f : Field} {raw : Option f.kind.Raw} {y : f.Content} :
    f.commit raw = .ok y ↔
      ∃ x : f.Content, raw = (f.value? x).map f.kind.widen ∧ f.accept x = .ok y := by
  match f with
  | ⟨label, kind, .required⟩ =>
    simp only [commit, bind_eq_ok_iff, demand_eq_ok_iff, Kind.narrow_eq_ok_iff]
    constructor
    · rintro ⟨_, rfl, x, rfl, h⟩
      exact ⟨x, rfl, h⟩
    · rintro ⟨x, rfl, h⟩
      exact ⟨_, rfl, x, rfl, h⟩
  | ⟨label, kind, .optional⟩ =>
    cases raw with
    | none =>
      constructor
      · intro h
        exact ⟨none, rfl, h⟩
      · rintro ⟨x, absent, h⟩
        obtain rfl : x = none := Option.map_eq_none_iff.1 absent.symm
        exact h
    | some raw =>
      simp only [commit, bind_eq_ok_iff, Kind.narrow_eq_ok_iff]
      constructor
      · rintro ⟨x, rfl, h⟩
        exact ⟨some x, rfl, h⟩
      · rintro ⟨x, there, h⟩
        obtain ⟨x, rfl, rfl⟩ := Option.map_eq_some_iff.1 there.symm
        exact ⟨x, rfl, h⟩

theorem value?_injective {f : Field} {x y : f.Content} (h : f.value? x = f.value? y) : x = y := by
  match f with
  | ⟨_, _, .required⟩ => exact Option.some.inj h
  | ⟨_, _, .optional⟩ => exact h

/-- **Committing a content that a message holds** is accepting it. -/
theorem commit_widen_iff {f : Field} {x y : f.Content} :
    f.commit ((f.value? x).map f.kind.widen) = .ok y ↔ f.settle x = y ∧ f.valid y = true := by
  rw [commit_eq_ok_iff, ← accept_eq_ok_iff]
  constructor
  · rintro ⟨z, same, h⟩
    obtain rfl : x = z :=
      value?_injective (Option.map_injective (fun _ _ => Kind.widen_injective) same)
    exact h
  · intro h
    exact ⟨x, rfl, h⟩

/-- What a check would drop, it drops at once. -/
theorem settle_settle {f : Field} (x : f.Content) : f.settle (f.settle x) = f.settle x := by
  match f with
  | ⟨_, _, .required⟩ => rfl
  | ⟨_, kind, .optional⟩ => exact Option.filter_filter.trans (by simp [settle, Kind.present])

theorem settle_eq_self {f : Field} {x : f.Content}
    (h : ∀ value ∈ f.value? x, f.kind.isNull value = false) : f.settle x = x := by
  match f with
  | ⟨_, _, .required⟩ => rfl
  | ⟨_, kind, .optional⟩ => exact Kind.present_eq_self h

/-- **Reading a field and committing it**, from what a value gives for it: the content has to be
valid, and be read from what was given, if anything was. -/
theorem commit_read_iff {f : Field} {given : Option Json}
    (values : ∀ w ∈ given, w.Canonical ∧ w.isNull = false) {y : f.Content} :
    (∃ raw, Option.Rel (fun w raw => f.kind.ofJson w = .ok raw) given raw ∧ f.commit raw = .ok y) ↔
      Option.Rel f.kind.ReadFrom given (f.value? y) ∧ f.valid y = true := by
  have read (x : f.Content) :
      Option.Rel (fun w raw => f.kind.ofJson w = .ok raw) given ((f.value? x).map f.kind.widen) ↔
        Option.Rel f.kind.ReadFrom given (f.value? x) := by
    cases given with
    | none => cases f.value? x <;> simp
    | some w =>
      cases f.value? x with
      | none => simp
      | some value => simp [Kind.ofJson_eq_ok_iff (values w rfl).1]
  -- what was given is not `null`, so no data that were read from it are dropped
  have kept (x : f.Content) (h : Option.Rel f.kind.ReadFrom given (f.value? x)) :
      f.settle x = x := by
    refine settle_eq_self fun value there => ?_
    rw [Option.mem_def.1 there, rel_some_iff] at h
    obtain ⟨w, hw, hr⟩ := h
    rw [Bool.eq_false_iff]
    intro null
    have present := (values w hw).2
    rw [Kind.isNull_of_readFrom hr null] at present
    cases present
  simp only [commit_eq_ok_iff, accept_eq_ok_iff]
  constructor
  · rintro ⟨_, hr, x, rfl, rfl, valid⟩
    rw [read] at hr
    rw [kept x hr] at valid ⊢
    exact ⟨hr, valid⟩
  · rintro ⟨hr, valid⟩
    exact ⟨_, (read y).2 hr, y, rfl, kept y hr, valid⟩

end Field

end ChargePoint
