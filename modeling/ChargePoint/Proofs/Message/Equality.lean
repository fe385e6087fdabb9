import ChargePoint.Proofs.Data.Equality
import ChargePoint.Proofs.Message.RoundTrip

/-!
# Equality of messages

Messages are equal when their contents are, and so when they are the same once the sign of zeros has
been dropped.  Whatever does not see that sign is the same for equal messages: what they give to a
hash, and whether they are valid.  A payload sees it as little as a message does, so two messages
that a run can arrive at are equal exactly when their payloads are.

## Main definitions

* `Kind.foldZeros`, `Field.foldZeros`, `Message.foldZeros`: the sign of zeros dropped.
* `Coherent`: an equality that a hash respects.

## Main results

* `Message.equalAt_foldZeros`: equality of messages.
* `Message.beq_canonical_write_iff`: payloads are equal when messages are.
* `equality_coherent`: equality, hashes, validity and payloads.
-/

namespace ChargePoint

/-! ### Contents -/

namespace Kind

/-- A content without the sign of zeros. -/
def foldZeros : (k : Kind) → k.Value → k.Value
  | customData => CustomData.foldZeros
  | statusInfo => StatusInfo.foldZeros
  | data => VendorValue.foldZeros
  | text _ => id
  | status _ => id
  | integer => id
  | instant => id

variable {k : Kind}

/-- Contents are equal when they are the same but for the signs of zeros. -/
theorem equalAt_foldZeros (x : k.Value) : EqualAt k.foldZeros x := by
  cases k with
  | text limit => exact equalAt_id (α := String) x
  | status v => exact equalAt_id (α := Status v) x
  | integer => exact equalAt_id (α := Int32) x
  | instant => exact equalAt_id (α := Instant) x
  | customData => exact CustomData.equalAt_foldZeros x
  | statusInfo => exact StatusInfo.equalAt_foldZeros x
  | data => exact VendorValue.equalAt_foldZeros x

theorem isNull_foldZeros (x : k.Value) : k.isNull (k.foldZeros x) = k.isNull x := by
  cases k with
  | data => exact VendorValue.isNull_foldZeros x
  | _ => rfl

theorem valid_foldZeros (x : k.Value) : k.valid (k.foldZeros x) = k.valid x := by
  cases k with
  | customData => exact CustomData.valid_foldZeros x
  | statusInfo => exact StatusInfo.valid_foldZeros x
  | _ => rfl

theorem ordered_foldZeros {x : k.Value} (h : k.Ordered x) : k.Ordered (k.foldZeros x) := by
  cases k with
  | customData => exact CustomData.ordered_foldZeros h
  | statusInfo => exact StatusInfo.ordered_foldZeros h
  | data => exact VendorValue.ordered_foldZeros h
  | _ => trivial

theorem fingerprint_foldZeros (x : k.Value) :
    Fingerprint.items (k.foldZeros x) = Fingerprint.items x := by
  cases k with
  | customData => exact CustomData.fingerprint_foldZeros x
  | statusInfo => exact StatusInfo.fingerprint_foldZeros x
  | data => exact VendorValue.fingerprint_foldZeros x
  | _ => rfl

theorem write_foldZeros (x : k.Value) : k.write (k.foldZeros x) = (k.write x).foldZeros := by
  cases k with
  | customData => exact CustomData.write_foldZeros x
  | statusInfo => exact StatusInfo.write_foldZeros x
  | data => exact VendorValue.write_foldZeros x
  | _ => rfl

end Kind

namespace Field

/-- What a message holds for a field, without the sign of zeros. -/
def foldZeros : (f : Field) → f.Content → f.Content
  | ⟨_, kind, .required⟩ => kind.foldZeros
  | ⟨_, kind, .optional⟩ => Option.map kind.foldZeros

theorem value?_foldZeros (f : Field) (x : f.Content) :
    f.value? (f.foldZeros x) = (f.value? x).map f.kind.foldZeros := by
  match f with
  | ⟨_, _, .required⟩ => rfl
  | ⟨_, _, .optional⟩ => rfl

theorem beq_iff {f : Field} {x y : f.Content} :
    f.beq x y = true ↔ f.foldZeros x = f.foldZeros y := by
  have values := equalAt_option (fun value _ => f.kind.equalAt_foldZeros value)
    (x := f.value? x) (f.value? y)
  rw [beq, values, ← value?_foldZeros, ← value?_foldZeros]
  exact ⟨value?_injective, congrArg _⟩

theorem valid_foldZeros (f : Field) (x : f.Content) : f.valid (f.foldZeros x) = f.valid x := by
  rw [valid, valid, value?_foldZeros]
  cases f.value? x with
  | none => rfl
  | some value => exact f.kind.valid_foldZeros value

/-- A check drops the same with and without the signs of zeros. -/
theorem settle_foldZeros (f : Field) (x : f.Content) :
    f.settle (f.foldZeros x) = f.foldZeros (f.settle x) := by
  match f with
  | ⟨_, _, .required⟩ => rfl
  | ⟨_, kind, .optional⟩ =>
    have seen : (fun value => !kind.isNull value) ∘ kind.foldZeros =
        fun value => !kind.isNull value := by
      funext value
      rw [Function.comp, kind.isNull_foldZeros]
    show (Option.map kind.foldZeros x).filter _ = (Option.filter _ x).map kind.foldZeros
    rw [Option.filter_map, seen]

theorem sound_foldZeros {f : Field} {x : f.Content} (h : f.Sound x) : f.Sound (f.foldZeros x) := by
  refine ⟨?_, ?_⟩
  · rw [settle_foldZeros, h.1]
  · rw [valid_foldZeros, h.2]

theorem ordered_foldZeros {f : Field} {x : f.Content} (h : f.Ordered x) :
    f.Ordered (f.foldZeros x) := by
  intro value there
  rw [value?_foldZeros] at there
  rcases Option.map_eq_some_iff.1 there with ⟨old, before, rfl⟩
  exact f.kind.ordered_foldZeros (h old before)

theorem fingerprint_foldZeros (f : Field) (x : f.Content) :
    f.fingerprint (f.foldZeros x) = f.fingerprint x := by
  match f with
  | ⟨_, kind, .required⟩ => exact kind.fingerprint_foldZeros x
  | ⟨_, kind, .optional⟩ =>
    cases x with
    | none => rfl
    | some value => exact congrArg (.alternative 1 :: ·) (kind.fingerprint_foldZeros value)

theorem write_foldZeros (f : Field) (x : f.Content) :
    f.write (f.foldZeros x) = (f.write x).map fun entry => (entry.1, entry.2.foldZeros) := by
  rw [write, write, value?_foldZeros]
  cases f.value? x with
  | none => rfl
  | some value => exact congrArg (fun v => some (f.label, v)) (f.kind.write_foldZeros value)

end Field

/-! ### Messages -/

namespace Message

variable {t : MessageType}

/-- **A message without the sign of zeros.** -/
def foldZeros (m : Message t) : Message t := ⟨m.contents.map Field.foldZeros⟩

theorem get_foldZeros (m : Message t) {f : Field} (slot : Slot t.fields f) :
    m.foldZeros.get slot = f.foldZeros (m.get slot) := Record.get_map ..

theorem beq_iff {m n : Message t} :
    (m == n) = true ↔ ∀ f (slot : Slot t.fields f),
      (f.value? (m.get slot) == f.value? (n.get slot)) = true := Record.beq_iff

/-- **Messages are equal when they are the same but for the signs of zeros.** -/
theorem equalAt_foldZeros (m : Message t) : EqualAt foldZeros m := by
  intro n
  have each f (slot : Slot t.fields f) :
      (f.value? (m.get slot) == f.value? (n.get slot)) = true ↔
        m.foldZeros.get slot = n.foldZeros.get slot := by
    rw [get_foldZeros, get_foldZeros]
    exact Field.beq_iff
  simp only [beq_iff, each]
  constructor
  · intro same
    exact congrArg mk (Record.ext same)
  · intro same f slot
    rw [same]

theorem valid_foldZeros (m : Message t) : Validated.valid m.foldZeros = Validated.valid m := by
  rw [Bool.eq_iff_iff, valid_iff, valid_iff]
  simp only [get_foldZeros, Field.valid_foldZeros]

theorem sound_foldZeros {m : Message t} (h : m.Sound) : m.foldZeros.Sound := by
  intro f slot
  rw [get_foldZeros]
  exact Field.sound_foldZeros (h f slot)

theorem ordered_foldZeros {m : Message t} (h : m.Ordered) : m.foldZeros.Ordered := by
  intro f slot
  rw [get_foldZeros]
  exact Field.ordered_foldZeros (h f slot)

/-- What is hashed of a message does not tell the signs of zeros. -/
theorem fingerprint_foldZeros (m : Message t) :
    Fingerprint.items m.foldZeros = Fingerprint.items m := by
  show ((m.contents.map Field.foldZeros).toList Field.fingerprint).flatten = _
  simp only [Record.toList_map, Field.fingerprint_foldZeros]
  rfl

theorem written_map_foldZeros {fields : List Field} (contents : Record Field.Content fields) :
    written (contents.map Field.foldZeros) = Keyed.mapValues Json.foldZeros (written contents) := by
  induction contents with
  | nil => rfl
  | @cons f fields head tail ih =>
    rw [Record.map, written_cons, written_cons, ih, Field.write_foldZeros]
    cases f.write head <;> rfl

/-- A message without the signs of zeros is written without them. -/
theorem write_foldZeros (m : Message t) : m.foldZeros.write = m.write.foldZeros := by
  show Json.object (written (m.contents.map Field.foldZeros)) = (Json.object _).foldZeros
  rw [written_map_foldZeros, Json.foldZeros, Json.foldMembers_eq_mapValues]
  rfl

/-- **Payloads are equal when messages are**, as long as each is decoded to its message. -/
theorem beq_canonical_write_iff {m n : Message t} (soundM : m.Sound) (soundN : n.Sound)
    (orderedM : m.Ordered) (orderedN : n.Ordered) :
    (m.write.canonical == n.write.canonical) = true ↔ (m == n) = true := by
  rw [Json.equalAt_foldZeros, equalAt_foldZeros, ← Json.canonical_foldZeros,
    ← Json.canonical_foldZeros, ← write_foldZeros, ← write_foldZeros]
  constructor
  · intro same
    -- without the sign of zeros they are still messages of runs, and one payload is that of one
    have first := decode_canonical_write (sound_foldZeros soundM) (ordered_foldZeros orderedM)
    have second := decode_canonical_write (sound_foldZeros soundN) (ordered_foldZeros orderedN)
    rw [same, second] at first
    exact (Except.ok.inj first).symm
  · intro same
    rw [same]

end Message

/-! ### Coherence -/

/-- **An equality that a hash respects**: an equivalence, and equal values give the same to a
hash. -/
structure Coherent (α : Type) [BEq α] [Fingerprint α] : Prop where
  equivalence : Equivalence fun x y : α => (x == y) = true
  fingerprint {x y : α} (same : (x == y) = true) : Fingerprint.items x = Fingerprint.items y

section Respect

variable {α β : Type} [BEq α] {f : α → α}

/-- What a function does not change anything about is the same for equal values. -/
theorem eq_of_equalAt (equal : ∀ x, EqualAt f x) {g : α → β} (blind : ∀ x, g (f x) = g x) {x y : α}
    (same : (x == y) = true) : g x = g y := by
  rw [← blind x, (equal x y).1 same, blind y]

/-- An equality that is sameness of images is coherent with a fingerprint that the images share. -/
theorem coherent_of_equalAt [Fingerprint α] (equal : ∀ x, EqualAt f x)
    (blind : ∀ x, Fingerprint.items (f x) = Fingerprint.items x) : Coherent α where
  equivalence := equivalence_of_equalAt equal
  fingerprint := eq_of_equalAt equal blind

end Respect

/-- **Equality, hashes, validity and payloads go together.**

* Numbers are equal if they are the same or both zeros of the floats; an integer is no float.
  Vendor values are equal if they are the same but for such zeros, and everything else if its parts
  are.  None of this asks whether a value is valid.
* Equality is an equivalence, and equal values give the same to a hash.
* Of equal values both are valid or neither is.
* Messages of one type that runs arrive at have payloads, which are equal exactly when the messages
  are. -/
theorem equality_coherent :
    ((∀ n m : Number, (n == m) = true ↔
        n = m ∨ ∃ x y : Binary64, n = .float x ∧ m = .float y ∧ x.isZero = true ∧ y.isZero = true) ∧
      (∀ a b : VendorValue, (a == b) = true ↔ a.foldZeros = b.foldZeros) ∧
      (∀ c d : CustomData, (c == d) = true ↔ c.vendorId = d.vendorId ∧
        (VendorValue.object c.properties == .object d.properties) = true) ∧
      (∀ i j : StatusInfo, (i == j) = true ↔ (i.customData == j.customData) = true ∧
        i.reasonCode = j.reasonCode ∧ i.additionalInfo = j.additionalInfo) ∧
      ∀ (t : MessageType) (m n : Message t), (m == n) = true ↔
        ∀ f (slot : Slot t.fields f), (f.value? (m.get slot) == f.value? (n.get slot)) = true) ∧
    (Coherent VendorValue ∧ Coherent CustomData ∧ Coherent StatusInfo ∧
      ∀ t : MessageType, Coherent (Message t)) ∧
    ((∀ c d : CustomData, (c == d) = true → Validated.valid c = Validated.valid d) ∧
      (∀ i j : StatusInfo, (i == j) = true → Validated.valid i = Validated.valid j) ∧
      ∀ (t : MessageType) (m n : Message t), (m == n) = true →
        Validated.valid m = Validated.valid n) ∧
    ∀ operations others : List Operation, (∀ operation ∈ operations, operation.Ordered) →
      (∀ operation ∈ others, operation.Ordered) → ∀ (t : MessageType) (m n : Message t),
        ⟨t, m⟩ ∈ run operations → ⟨t, n⟩ ∈ run others →
          ∃ p q, encode m = .ok p ∧ encode n = .ok q ∧ ((m == n) = true ↔ (p == q) = true) := by
  refine ⟨⟨?_, ?_, ?_, ?_, ?_⟩, ⟨?_, ?_, ?_, ?_⟩, ⟨?_, ?_, ?_⟩, ?_⟩
  · intro n m
    exact Number.beq_iff
  · intro a b
    exact VendorValue.equalAt_foldZeros a b
  · intro c d
    exact CustomData.beq_iff
  · intro i j
    exact StatusInfo.beq_iff
  · intro t m n
    exact Message.beq_iff
  · exact coherent_of_equalAt VendorValue.equalAt_foldZeros VendorValue.fingerprint_foldZeros
  · exact coherent_of_equalAt CustomData.equalAt_foldZeros CustomData.fingerprint_foldZeros
  · exact coherent_of_equalAt StatusInfo.equalAt_foldZeros StatusInfo.fingerprint_foldZeros
  · intro t
    exact coherent_of_equalAt Message.equalAt_foldZeros Message.fingerprint_foldZeros
  · intro c d
    exact eq_of_equalAt CustomData.equalAt_foldZeros CustomData.valid_foldZeros
  · intro i j
    exact eq_of_equalAt StatusInfo.equalAt_foldZeros StatusInfo.valid_foldZeros
  · intro t m n
    exact eq_of_equalAt Message.equalAt_foldZeros Message.valid_foldZeros
  · intro operations others ordered ordered' t m n memberM memberN
    have soundM : m.Sound := sound_of_mem_run memberM
    have soundN : n.Sound := sound_of_mem_run memberN
    refine ⟨_, _, encode_eq_ok soundM.valid, encode_eq_ok soundN.valid, ?_⟩
    exact (Message.beq_canonical_write_iff soundM soundN (ordered_of_mem_run ordered memberM)
      (ordered_of_mem_run ordered' memberN)).symm

/-- Requests that transfer `0.0` and `-0.0` are equal and so are their payloads, and those that
transfer `1` and `1.0` are not. -/
theorem equality_coherent_numbers :
    let transfer (n : Number) : Message ⟨.dataTransfer, .request⟩ :=
      ⟨.cons none (.cons none (.cons (some (.array [.number n])) (.cons "acme" .nil)))⟩
    let one : Binary64 := ⟨false, 2 ^ (52 : Nat), -52, by decide⟩
    (∃ p q, encode (transfer (.float (.zero false))) = .ok p ∧
      encode (transfer (.float (.zero true))) = .ok q ∧ (p == q) = true) ∧
    ∃ p q, encode (transfer (.whole ⟨1, by decide⟩)) = .ok p ∧
      encode (transfer (.float one)) = .ok q ∧ ¬(p == q) = true := by
  intro transfer one
  let operations (n : Number) : List Operation :=
    [.build (.new ⟨.dataTransfer, .request⟩ (.cons "acme" .nil)),
      .change 0 ⟨⟨.dataTransfer, .request⟩, _, .next (.next .first), some (.array [.number n])⟩]
  have ordered (n : Number) : ∀ operation ∈ operations n, operation.Ordered := by
    intro operation member
    rcases List.mem_cons.1 member with rfl | member
    · exact Slot.forall_cons_iff.2 ⟨trivial, nofun⟩
    · obtain rfl := List.mem_singleton.1 member
      intro value there
      cases there
      exact ⟨trivial, trivial⟩
  have member (n : Number) : ⟨⟨.dataTransfer, .request⟩, transfer n⟩ ∈ run (operations n) := by
    have all : run (operations n) = [⟨⟨.dataTransfer, .request⟩, transfer n⟩] := rfl
    rw [all]
    exact List.mem_singleton_self _
  obtain ⟨-, -, -, payloads⟩ := equality_coherent
  refine ⟨?_, ?_⟩
  · obtain ⟨p, q, hp, hq, same⟩ := payloads _ _ (ordered _) (ordered _) _ _ _ (member _) (member _)
    exact ⟨p, q, hp, hq, same.1 rfl⟩
  · obtain ⟨p, q, hp, hq, same⟩ := payloads _ _ (ordered _) (ordered _) _ _ _ (member _) (member _)
    refine ⟨p, q, hp, hq, fun equal => ?_⟩
    have messages := same.2 equal
    cases messages

end ChargePoint
