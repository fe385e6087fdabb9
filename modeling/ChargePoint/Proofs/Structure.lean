import ChargePoint.Proofs.Json.Tree
import ChargePoint.Proofs.Record
import ChargePoint.Shape.Structure

/-!
# What a structure is read from

A value has the form of a structure when it is an object without members that are no fields, or an
array with one item for each field.  Such a value gives each field something or nothing, and reading
the structure succeeds exactly when each thing given can be read for its field.  The order in which
members are met does not count once their names are distinct.

## Main definitions

* `Structure.Fits`: the form.
* `Structure.given`, `Structure.part`: what a value gives for a field, and that unless it is `null`.
* `Structure.Draft.All`: a predicate of everything that has been read.

## Main results

* `Structure.ofJson_eq_ok_iff`: what is read, field by field.
* `Structure.names_of_ofJson`: the names in an object that was read.
* `Structure.all_of_ofJson`, `Structure.all_of_ofDoc`: what the readings of the fields establish
  holds of everything that was read.
-/

namespace ChargePoint

namespace Structure

variable {ι : Type} {s : Structure ι} {read : (i : ι) → Json → Except ShapeFault (s.Value i)}

/-- **The form of a structure**: an object whose members are all fields, or an array with one item
for each field. -/
def Fits (s : Structure ι) : Json → Prop
  | .object members => ∀ name ∈ members.map Prod.fst, name ∈ s.labels
  | .array items => items.length = s.fields.length
  | _ => False

/-- What a value gives for a field: the member of its name, or the item in its place. -/
def given (s : Structure ι) (v : Json) {i : ι} (slot : Slot s.fields i) : Option Json :=
  match v with
  | .object members => members.lookup (s.label i)
  | .array items => items[slot.position]?
  | _ => none

/-- What a value gives for a field, unless it is `null`. -/
def part (s : Structure ι) (v : Json) {i : ι} (slot : Slot s.fields i) : Option Json :=
  (s.given v slot).filter fun w => !w.isNull

/-- What a canonical value gives for a field is canonical. -/
theorem canonical_given {v w : Json} (canonical : v.Canonical) {i : ι} {slot : Slot s.fields i}
    (h : s.given v slot = some w) : w.Canonical := by
  cases v with
  | object members => exact canonical.of_lookup h
  | array items => exact Json.canonical_array_iff.1 canonical w (List.mem_of_getElem? h)
  | null => cases h
  | bool b => cases h
  | number n => cases h
  | string s => cases h

theorem part_eq_some_iff {v w : Json} {i : ι} {slot : Slot s.fields i} :
    s.part v slot = some w ↔ s.given v slot = some w ∧ w.isNull = false := by
  rw [part, Option.filter_eq_some_iff, Bool.not_eq_true']

/-! ### Written objects -/

theorem fits_canonical_object {entries : List (String × Json)}
    (known : ∀ name ∈ entries.map Prod.fst, name ∈ s.labels) :
    s.Fits (Json.canonical (.object entries)) := by
  rw [Json.canonical_object]
  intro name member
  obtain ⟨entry, he, rfl⟩ := List.mem_map.1 member
  obtain ⟨old, ho, rfl⟩ := Keyed.mem_mapValues_iff.1 (Keyed.mem_of_mem_ofList he)
  exact known _ (List.mem_map.2 ⟨old, ho, rfl⟩)

theorem given_canonical_object {entries : List (String × Json)}
    (distinct : (entries.map Prod.fst).Nodup) {i : ι} (slot : Slot s.fields i) :
    s.given (Json.canonical (.object entries)) slot =
      (entries.lookup (s.label i)).map Json.canonical := by
  rw [← Keyed.map_fst_mapValues Json.canonical] at distinct
  rw [Json.canonical_object, given, Keyed.lookup_ofList distinct, Keyed.lookup_mapValues]

/-! ### Objects -/

/-- A field after a member for it may have been read: as it was before where there is none, else it
was blank and now holds what is read from the member. -/
def Filled {α : Type} (read : Json → Except ShapeFault α) (before after : Option α) :
    Option Json → Prop
  | none => after = before
  | some w => before = none ∧ ∃ x, read w = .ok x ∧ after = some x

/-- A member is placed in the slot that bears its name, once. -/
theorem place_eq_ok_iff (distinct : s.labels.Nodup) {draft : s.Draft} {name : String} {i : ι}
    {slot : Slot s.fields i} :
    s.place draft name = .ok ⟨i, slot⟩ ↔ s.label i = name ∧ draft.get slot = none := by
  constructor
  · intro h
    rw [place] at h
    cases found : Slot.find? (fun i => s.label i == name) s.fields with
    | none => simp [found] at h
    | some at' =>
      obtain ⟨j, other⟩ := at'
      have named := Slot.holds_of_find? found
      cases blank : draft.get other with
      | none =>
        simp only [found, blank, Except.ok.injEq] at h
        cases h
        exact ⟨beq_iff_eq.1 named, blank⟩
      | some x => simp [found, blank] at h
  · rintro ⟨rfl, blank⟩
    rw [place, Slot.find?_label distinct slot]
    simp [blank]

/-- Reading one member fills its field, and leaves the others to the members after it. -/
theorem filled_set_iff (distinct : s.labels.Nodup) {rest : List (String × Json)} {value : Json}
    {i : ι} {slot : Slot s.fields i} {x : s.Value i} {draft final : s.Draft}
    (absent : rest.lookup (s.label i) = none) (blank : draft.get slot = none)
    (hr : read i value = .ok x) :
    (∀ j (other : Slot s.fields j), Filled (read j) ((draft.set slot (some x)).get other)
        (final.get other) (rest.lookup (s.label j))) ↔
      ∀ j (other : Slot s.fields j), Filled (read j) (draft.get other) (final.get other)
        (((s.label i, value) :: rest).lookup (s.label j)) := by
  refine forall_congr' fun j => forall_congr' fun other => ?_
  rw [Keyed.lookup_cons]
  by_cases same : s.label j = s.label i
  · cases Slot.eq_of_label distinct other slot same
    rw [if_pos rfl, absent, Record.get_set_self]
    simp [Filled, blank, hr]
  · have apart : slot.position ≠ other.position :=
      slot.position_ne other fun h => same (h ▸ rfl)
    rw [if_neg same, Record.get_set_of_ne _ _ _ _ apart]

/-- **Members fill the fields of their names**, whatever their order: each field goes by the one
member that bears its name. -/
theorem ofMembers_eq_ok_iff (distinct : s.labels.Nodup) {members : List (String × Json)}
    (names : (members.map Prod.fst).Nodup) {draft final : s.Draft} :
    s.ofMembers read members draft = .ok final ↔
      (∀ name ∈ members.map Prod.fst, name ∈ s.labels) ∧
        ∀ i (slot : Slot s.fields i),
          Filled (read i) (draft.get slot) (final.get slot) (members.lookup (s.label i)) := by
  induction members generalizing draft with
  | nil =>
    rw [ofMembers, Except.ok.injEq]
    constructor
    · rintro rfl
      exact ⟨nofun, fun _ _ => rfl⟩
    · rintro ⟨-, h⟩
      exact (Record.ext h).symm
  | cons entry rest ih =>
    obtain ⟨name, value⟩ := entry
    obtain ⟨fresh, others⟩ := List.nodup_cons.1 names
    have absent : rest.lookup name = none := Keyed.lookup_eq_none_iff_notMem.2 fresh
    rw [ofMembers, List.map_cons, List.forall_mem_cons]
    simp only [bind_eq_ok_iff]
    constructor
    · rintro ⟨⟨i, slot⟩, placed, x, hr, h⟩
      obtain ⟨rfl, blank⟩ := (place_eq_ok_iff distinct).1 placed
      obtain ⟨known, filled⟩ := (ih others).1 h
      exact ⟨⟨List.mem_map_of_mem slot.mem, known⟩,
        (filled_set_iff distinct absent blank hr).1 filled⟩
    · rintro ⟨⟨labelled, known⟩, filled⟩
      obtain ⟨i, hi, rfl⟩ := List.mem_map.1 labelled
      obtain ⟨slot⟩ := Slot.nonempty_of_mem hi
      have own := filled i slot
      rw [Keyed.lookup_cons, if_pos rfl] at own
      obtain ⟨blank, x, hr, -⟩ := own
      exact ⟨⟨i, slot⟩, (place_eq_ok_iff distinct).2 ⟨rfl, blank⟩, x, hr,
        (ih others).2 ⟨known, (filled_set_iff distinct absent blank hr).2 filled⟩⟩

/-- **An object that repeats a name is not read**: the second member of the name would be placed in
a field that has been given. -/
theorem nodup_of_ofMembers (distinct : s.labels.Nodup) {members : List (String × Json)}
    {draft final : s.Draft} (h : s.ofMembers read members draft = .ok final) :
    (members.map Prod.fst).Nodup ∧ ∀ i (slot : Slot s.fields i), (draft.get slot).isSome = true →
      s.label i ∉ members.map Prod.fst := by
  -- on the members, with the fields that have been given: none of the rest may give them again
  induction members generalizing draft with
  | nil => exact ⟨List.nodup_nil, fun _ _ _ => List.not_mem_nil⟩
  | cons entry rest ih =>
    obtain ⟨name, value⟩ := entry
    obtain ⟨⟨i, slot⟩, placed, step⟩ := bind_eq_ok_iff.1 h
    obtain ⟨x, -, step⟩ := bind_eq_ok_iff.1 step
    obtain ⟨named, blank⟩ := (place_eq_ok_iff distinct).1 placed
    obtain ⟨others, given⟩ := ih step
    have fresh : name ∉ rest.map Prod.fst := by
      rw [← named]
      exact given i slot (by rw [Record.get_set_self]; rfl)
    refine ⟨List.nodup_cons.2 ⟨fresh, others⟩, fun j other there => ?_⟩
    rw [List.map_cons, List.mem_cons]
    rintro (same | later)
    · cases Slot.eq_of_label distinct other slot (same.trans named.symm)
      rw [blank] at there
      cases there
    · have apart : slot.position ≠ other.position := by
        refine slot.position_ne other fun same => fresh ?_
        rw [← named, same]
        exact later
      exact given j other (by rwa [Record.get_set_of_ne _ _ _ _ apart]) later

/-! ### Arrays -/

/-- **Items fill the fields in their places**: each field takes one, and none of either is left
over. -/
theorem ofItems_eq_ok_iff {all : List Json} {fields : List ι} {items : List Json}
    {final : Record (fun i => Option (s.Value i)) fields} :
    s.ofItems read all fields items = .ok final ↔
      items.length = fields.length ∧ ∀ i (slot : Slot fields i),
        Option.Rel (fun w x => read i w = .ok x) items[slot.position]? (final.get slot) := by
  induction fields generalizing items with
  | nil =>
    cases final
    cases items with
    | nil => exact ⟨fun _ => ⟨rfl, nofun⟩, fun _ => rfl⟩
    | cons item rest => simp [ofItems]
  | cons i fields ih =>
    cases items with
    | nil => simp [ofItems]
    | cons item rest =>
      cases final with
      | cons head tail =>
        rw [ofItems, Slot.forall_cons_iff]
        simp only [bind_eq_ok_iff, pure_eq_ok_iff, Record.cons.injEq, ih, List.length_cons,
          Nat.add_right_cancel_iff, Slot.position, List.getElem?_cons_zero,
          List.getElem?_cons_succ, Record.get]
        constructor
        · rintro ⟨x, hr, later, ⟨size, h⟩, rfl, rfl⟩
          exact ⟨size, .some hr, h⟩
        · rintro ⟨size, first, h⟩
          cases first with
          | some hr => exact ⟨_, hr, _, ⟨size, h⟩, rfl, rfl⟩

/-! ### Values -/

/-- What a structure is read from, in the order in which it is written: names have to be distinct,
but need not be in order. -/
theorem ofJson_eq_ok_iff_of_nodup (distinct : s.labels.Nodup) {v : Json}
    (names : ∀ members, v = .object members → (members.map Prod.fst).Nodup) {draft : s.Draft} :
    s.ofJson read v = .ok draft ↔
      s.Fits v ∧ ∀ i (slot : Slot s.fields i),
        Option.Rel (fun w x => read i w = .ok x) (s.given v slot) (draft.get slot) := by
  cases v with
  | object members =>
    rw [ofJson, ofMembers_eq_ok_iff distinct (names members rfl)]
    refine and_congr_right fun _ => forall_congr' fun i => forall_congr' fun slot => ?_
    rw [blank, Record.get_pure, given]
    cases members.lookup (s.label i) with
    | none => cases draft.get slot <;> simp [Filled]
    | some w => cases draft.get slot <;> simp [Filled]
  | array items =>
    rw [ofJson, ofItems_eq_ok_iff]
    rfl
  | null => simp [ofJson, Fits]
  | bool b => simp [ofJson, Fits]
  | number n => simp [ofJson, Fits]
  | string text => simp [ofJson, Fits]

/-- **What a structure is read from**: a value of its form whose parts can be read. -/
theorem ofJson_eq_ok_iff (distinct : s.labels.Nodup) {v : Json} (canonical : v.Canonical)
    {draft : s.Draft} :
    s.ofJson read v = .ok draft ↔
      s.Fits v ∧ ∀ i (slot : Slot s.fields i),
        Option.Rel (fun w x => read i w = .ok x) (s.given v slot) (draft.get slot) := by
  refine ofJson_eq_ok_iff_of_nodup distinct ?_
  rintro members rfl
  exact canonical.nodup

/-- **The names in an object that was read**: all are those of fields, and every field that holds
something is among them. -/
theorem names_of_ofJson (distinct : s.labels.Nodup) {members : List (String × Json)}
    {draft : s.Draft} (h : s.ofJson read (.object members) = .ok draft) :
    (∀ name ∈ members.map Prod.fst, name ∈ s.labels) ∧
      ∀ i (slot : Slot s.fields i), (draft.get slot).isSome = true →
        s.label i ∈ members.map Prod.fst := by
  have names : ∀ others, Json.object members = .object others → (others.map Prod.fst).Nodup := by
    intro others same
    cases same
    exact (nodup_of_ofMembers distinct h).1
  obtain ⟨fits, given⟩ := (ofJson_eq_ok_iff_of_nodup distinct names).1 h
  refine ⟨fits, fun i slot there => ?_⟩
  obtain ⟨x, hx⟩ := Option.isSome_iff_exists.1 there
  have found := given i slot
  rw [hx, rel_some_iff] at found
  obtain ⟨w, hw, -⟩ := found
  exact List.mem_map_of_mem (Keyed.mem_of_lookup hw)

/-! ### What readings establish -/

variable {p : (i : ι) → s.Value i → Prop}

/-- Everything in a draft satisfies a predicate. -/
def Draft.All (p : (i : ι) → s.Value i → Prop) {fields : List ι}
    (draft : Record (fun i => Option (s.Value i)) fields) : Prop :=
  ∀ i (slot : Slot fields i), ∀ x ∈ draft.get slot, p i x

theorem Draft.all_blank : Draft.All p s.blank := by
  intro i slot x there
  rw [blank, Record.get_pure] at there
  cases there

theorem Draft.All.set {draft : s.Draft} (h : Draft.All p draft) {i : ι} (slot : Slot s.fields i)
    {x : s.Value i} (hx : p i x) : Draft.All p (draft.set slot (some x)) := by
  intro j other
  refine Record.forall_get_set (p := fun i content => ∀ x ∈ content, p i x) h slot ?_ other
  intro y there
  cases there
  exact hx

theorem Draft.All.cons {i : ι} {fields : List ι} {x : s.Value i}
    {rest : Record (fun i => Option (s.Value i)) fields} (hx : p i x) (h : Draft.All p rest) :
    Draft.All p (.cons (some x) rest : Record (fun i => Option (s.Value i)) (i :: fields)) := by
  refine Slot.forall_cons_iff.2 ⟨?_, h⟩
  intro y there
  cases there
  exact hx

/-- What the reading of each member establishes holds of all fields, whichever were read before. -/
theorem all_of_ofMembers (each : ∀ i w x, read i w = .ok x → p i x)
    {members : List (String × Json)} {draft final : s.Draft} (before : Draft.All p draft)
    (h : s.ofMembers read members draft = .ok final) : Draft.All p final := by
  induction members generalizing draft with
  | nil =>
    cases h
    exact before
  | cons entry rest ih =>
    obtain ⟨⟨i, slot⟩, -, h⟩ := bind_eq_ok_iff.1 h
    obtain ⟨x, hx, h⟩ := bind_eq_ok_iff.1 h
    exact ih (before.set slot (each i _ x hx)) h

theorem all_of_ofItems (each : ∀ i w x, read i w = .ok x → p i x) {all : List Json}
    {fields : List ι} {items : List Json} {final : Record (fun i => Option (s.Value i)) fields}
    (h : s.ofItems read all fields items = .ok final) : Draft.All p final := by
  induction fields generalizing items with
  | nil => exact nofun
  | cons i fields ih =>
    cases items with
    | nil => cases h
    | cons item rest =>
      obtain ⟨x, hx, h⟩ := bind_eq_ok_iff.1 h
      obtain ⟨others, ho, h⟩ := bind_eq_ok_iff.1 h
      cases h
      exact Draft.All.cons (each i _ x hx) (ih ho)

/-- **What is read of a structure** satisfies what the readings of its fields establish. -/
theorem all_of_ofJson (each : ∀ i w x, read i w = .ok x → p i x) {v : Json} {draft : s.Draft}
    (h : s.ofJson read v = .ok draft) : Draft.All p draft := by
  unfold ofJson at h
  split at h
  · exact all_of_ofMembers each Draft.all_blank h
  · exact all_of_ofItems each h
  · cases h

section Doc

variable {read : (i : ι) → Doc → Except ReadFault (s.Value i)}

theorem all_of_ofDocMembers (each : ∀ i doc x, read i doc = .ok x → p i x) :
    {members : Doc.Members} → {draft final : s.Draft} → Draft.All p draft →
      s.ofDocMembers read members draft = .ok final → Draft.All p final
  | .close, draft, final, before, h => by
    cases h
    exact before
  | .cut fault, draft, final, before, h => nomatch h
  | .stray key, draft, final, before, h => nomatch h
  | .member name value rest, draft, final, before, h => by
    obtain ⟨⟨i, slot⟩, -, h⟩ := bind_eq_ok_iff.1 h
    obtain ⟨x, hx, h⟩ := bind_eq_ok_iff.1 h
    exact all_of_ofDocMembers each (before.set slot (each i _ x hx)) h

theorem all_of_ofDocItems (each : ∀ i doc x, read i doc = .ok x → p i x) {count : Nat}
    {fields : List ι} {items : Doc.Items} {final : Record (fun i => Option (s.Value i)) fields}
    (h : s.ofDocItems read count fields items = .ok final) : Draft.All p final := by
  induction fields generalizing count items with
  | nil => exact nofun
  | cons i fields ih =>
    cases items with
    | close => cases h
    | cut fault => cases h
    | item item rest =>
      obtain ⟨x, hx, h⟩ := bind_eq_ok_iff.1 h
      obtain ⟨others, ho, h⟩ := bind_eq_ok_iff.1 h
      cases h
      exact Draft.All.cons (each i _ x hx) (ih ho)

@[inherit_doc all_of_ofJson]
theorem all_of_ofDoc (each : ∀ i doc x, read i doc = .ok x → p i x) {doc : Doc} {draft : s.Draft}
    (h : s.ofDoc read doc = .ok draft) : Draft.All p draft := by
  unfold ofDoc at h
  split at h
  · exact all_of_ofDocMembers each Draft.all_blank h
  · exact all_of_ofDocItems each h
  · obtain ⟨found, -, h⟩ := bind_eq_ok_iff.1 h
    cases h

end Doc

end Structure

end ChargePoint
