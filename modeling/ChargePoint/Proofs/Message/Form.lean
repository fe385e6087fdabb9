import ChargePoint.Proofs.Message.Grammar

/-!
# The forms of payloads

The schemas of the protocol know one form of a message and of status information, an object, and one
of a status, a string.  Decoding knows one more of each: an array of all parts in their places, and
an object of a spelling over a `null`.  It knows no others, and makes no difference between the two:
whatever it accepts in one form, it accepts in the other, as the same message.

To cast a value into a form is to change its parts and to list what comes out by name or in place.
What is read of a value is read part by part, so it is read from every cast of it whose changes keep
what is read of each part.

## Main definitions

* `Structure.inPlace`, `Structure.underNames`: the parts of a value as an array and as an object.
* `Structure.Casts`: a value with the parts of another, each changed.
* `Json.otherForm`, `Json.schemaForm`: a payload in the form that the schemas do not know, and in
  the form that they do, with those of its parts.
* `Json.InForm`, `Json.InSchema`: the forms that decoding knows, and those that the schemas know.

## Main results

* `Structure.casts_inPlace`, `Structure.casts_underNames`: arrays and objects of parts give the
  parts.
* `Message.readFrom_iff_of_casts`: what is read of a message is read from its casts.
* `decode_forms`: the forms that are decoded.
* `decode_not_only_objects`: they are not only those of the schemas.
-/

namespace ChargePoint

/-- A value that lists no other names lists nothing under them. -/
theorem Grammar.mem_of_part {names : List String} {v w : Json} {name : String}
    (lists : Grammar.Lists names v) (h : Grammar.part names v name = some w) : name ∈ names := by
  have found := (Option.filter_eq_some_iff.1 h).1
  cases v with
  | object members => exact lists name (List.mem_map.2 ⟨_, Keyed.mem_of_lookup found, rfl⟩)
  | array items =>
    -- the place of a name that is not listed is past the end of the array
    obtain ⟨inside, -⟩ := List.getElem?_eq_some_iff.1 found
    have size : items.length = names.length := lists
    rw [size] at inside
    exact List.idxOf_lt_length_iff.1 inside
  | _ => cases found

/-! ### Casts -/

namespace Structure

variable {ι : Type} {s : Structure ι} {change : String → Json → Json} {v w x : Json}

/-- **A value casts another**: it has the form of the structure, and its parts are those of the
other, each changed in the light of its name. -/
structure Casts (s : Structure ι) (change : String → Json → Json) (v w : Json) : Prop where
  fits : s.Fits w
  part : ∀ i (slot : Slot s.fields i), s.part w slot = (s.part v slot).map (change (s.label i))

/-- What a cast lists under a name is what the other value lists there, changed. -/
theorem Casts.exists_part (distinct : s.labels.Nodup) (casts : s.Casts change v w) {name : String}
    (h : Grammar.part s.labels w name = some x) :
    ∃ u, Grammar.part s.labels v name = some u ∧ x = change name u := by
  obtain ⟨i, hi, rfl⟩ :=
    List.mem_map.1 (Grammar.mem_of_part ((Grammar.lists_iff s w).2 casts.fits) h)
  obtain ⟨slot⟩ := Slot.nonempty_of_mem hi
  have part := casts.part i slot
  rw [Grammar.part_eq distinct, Grammar.part_eq distinct, h] at part
  obtain ⟨u, hu, same⟩ := Option.map_eq_some_iff.1 part.symm
  exact ⟨u, hu, same.symm⟩

/-- **The parts of a value in their places**, each changed in the light of its name, and `null`
where there is none. -/
def inPlace (s : Structure ι) (change : String → Json → Json) (v : Json) : Json :=
  .array (s.labels.map fun name => change name ((Grammar.part s.labels v name).getD .null))

/-- **The parts of a value under their names**, each changed in the light of its name, and nothing
where there is none. -/
def underNames (s : Structure ι) (change : String → Json → Json) (v : Json) : Json :=
  .object (Keyed.ofList (s.labels.filterMap fun name =>
    ((Grammar.part s.labels v name).map (change name)).map fun w => (name, w)))

/-- A value in the form of a structure is an object or an array. -/
theorem forms_of_fits (fits : s.Fits v) :
    (∃ members, v = .object members) ∨
      ∃ items, v = .array items ∧ items.length = s.fields.length := by
  cases v with
  | object members => exact .inl ⟨members, rfl⟩
  | array items => exact .inr ⟨items, rfl, fits⟩
  | _ => exact fits.elim

/-- **An array of parts gives the parts**, as long as a change keeps what is `null` and what is
not. -/
theorem casts_inPlace (distinct : s.labels.Nodup)
    (keeps : ∀ name w, (change name w).isNull = w.isNull) (v : Json) :
    s.Casts change v (s.inPlace change v) := by
  refine ⟨?_, fun i slot => ?_⟩
  · show (List.map _ (s.fields.map s.label)).length = _
    rw [List.length_map, List.length_map]
  have named : s.labels[slot.position]? = some (s.label i) := by
    rw [labels, List.getElem?_map, slot.getElem?_position]
    rfl
  have listed : s.part v slot = Grammar.part s.labels v (s.label i) :=
    Grammar.part_eq distinct v slot
  have given : s.given (s.inPlace change v) slot =
      some (change (s.label i) ((s.part v slot).getD .null)) := by
    show (List.map _ s.labels)[slot.position]? = _
    rw [List.getElem?_map, named, listed]
    rfl
  rw [Structure.part, given]
  cases there : s.part v slot with
  | none =>
    refine Option.filter_some_neg ?_
    rw [Option.getD_none, keeps]
    rfl
  | some w =>
    refine Option.filter_some_pos ?_
    rw [Option.getD_some, keeps, (part_eq_some_iff.1 there).2]
    rfl

/-- **An object of parts gives the parts**, as long as no change makes one `null`. -/
theorem casts_underNames (distinct : s.labels.Nodup)
    (keeps : ∀ name w, w.isNull = false → (change name w).isNull = false) (v : Json) :
    s.Casts change v (s.underNames change v) := by
  have names := Keyed.sublist_filterMap_named
    (fun name => (Grammar.part s.labels v name).map (change name)) s.labels
  refine ⟨fun name member => ?_, fun i slot => ?_⟩
  · obtain ⟨entry, he, rfl⟩ := List.mem_map.1 member
    exact names.subset (List.mem_map_of_mem (Keyed.mem_of_mem_ofList he))
  have given : s.given (s.underNames change v) slot = (s.part v slot).map (change (s.label i)) := by
    show List.lookup _ (Keyed.ofList _) = _
    have listed : s.label i ∈ s.labels := List.mem_map_of_mem slot.mem
    rw [Keyed.lookup_ofList (distinct.sublist names), Keyed.lookup_filterMap_named, if_pos listed,
      Grammar.part_eq distinct v slot]
  rw [Structure.part, given]
  cases there : s.part v slot with
  | none => rfl
  | some w =>
    refine Option.filter_some_pos ?_
    rw [keeps _ _ (part_eq_some_iff.1 there).2]
    rfl

theorem canonical_of_part {name : String} (canonical : v.Canonical)
    (h : Grammar.part s.labels v name = some w) : w.Canonical := by
  have found := (Option.filter_eq_some_iff.1 h).1
  cases v with
  | object members => exact canonical.of_lookup found
  | array items => exact Json.canonical_array_iff.1 canonical w (List.mem_of_getElem? found)
  | _ => cases found

theorem canonical_inPlace (keeps : ∀ name w, w.Canonical → (change name w).Canonical)
    (canonical : v.Canonical) : (s.inPlace change v).Canonical := by
  rw [inPlace, Json.canonical_array_iff]
  intro w member
  obtain ⟨name, -, rfl⟩ := List.mem_map.1 member
  refine keeps _ _ ?_
  cases there : Grammar.part s.labels v name with
  | none => trivial
  | some w => exact canonical_of_part canonical there

theorem canonical_underNames (keeps : ∀ name w, w.Canonical → (change name w).Canonical)
    (canonical : v.Canonical) : (s.underNames change v).Canonical := by
  rw [underNames, Json.canonical_object_iff]
  refine ⟨Keyed.ascending_ofList _, fun entry member => ?_⟩
  obtain ⟨name, -, there⟩ := List.mem_filterMap.1 (Keyed.mem_of_mem_ofList member)
  obtain ⟨x, hx, rfl⟩ := Option.map_eq_some_iff.1 there
  obtain ⟨w, hw, rfl⟩ := Option.map_eq_some_iff.1 hx
  exact keeps _ _ (canonical_of_part canonical hw)

end Structure

namespace StatusInfo

variable {v w : Json} {i : StatusInfo}

/-- **Status information is read from its casts**, as long as they leave its parts as they were. -/
theorem readFrom_iff_of_casts (casts : form.Casts (fun _ => id) v w) (fits : form.Fits v) :
    i.ReadFrom w ↔ i.ReadFrom v := by
  have same {part : Part} (slot : Slot form.fields part) : form.part w slot = form.part v slot :=
    (casts.part part slot).trans Option.map_id'
  rw [readFrom_iff_part, readFrom_iff_part, and_iff_right casts.fits, and_iff_right fits]
  rw [same, same, same]

/-- Status information as an array. -/
def inPlace (w : Json) : Json := if w.isNull then .null else form.inPlace (fun _ => id) w

/-- Status information as an object. -/
def underNames (w : Json) : Json := form.underNames (fun _ => id) w

theorem isNull_inPlace (w : Json) : (inPlace w).isNull = w.isNull := by
  rw [inPlace]
  split
  · rename_i null
    exact null.symm
  · rename_i present
    exact (Bool.eq_false_iff.2 present).symm

theorem canonical_inPlace (canonical : w.Canonical) : (inPlace w).Canonical := by
  unfold inPlace
  split
  · trivial
  · exact Structure.canonical_inPlace (fun _ _ => id) canonical

theorem readFrom_inPlace_iff (fits : form.Fits w) : i.ReadFrom (inPlace w) ↔ i.ReadFrom w := by
  have present : w.isNull = false := by
    cases w with
    | null => exact fits.elim
    | _ => rfl
  rw [inPlace, present, if_neg Bool.false_ne_true]
  exact readFrom_iff_of_casts (Structure.casts_inPlace labels_nodup (fun _ _ => rfl) w) fits

theorem readFrom_underNames_iff (fits : form.Fits w) : i.ReadFrom (underNames w) ↔ i.ReadFrom w :=
  readFrom_iff_of_casts (Structure.casts_underNames labels_nodup (fun _ _ => id) w) fits

end StatusInfo

/-! ### The two forms -/

namespace Json

/-- A status in an object, over a `null`. -/
def spelledInObject : Json → Json
  | string s => object [(s, null)]
  | w => w

/-- A status as a string. -/
def spelled : Json → Json
  | object [(s, null)] => string s
  | w => w

/-- What stands under a name in a payload, changed if it is a status or status information. -/
def changePart (status statusInfo : Json → Json) (name : String) (w : Json) : Json :=
  if name = "status" then status w else if name = "statusInfo" then statusInfo w else w

/-- **A payload in its other form**: an array of its parts, a status in an object and status
information as an array among them. -/
def otherForm (t : MessageType) (v : Json) : Json :=
  t.form.inPlace (changePart spelledInObject StatusInfo.inPlace) v

/-- **A payload in the form of the schemas**: an object of its parts, a status as a string and
status information as an object among them. -/
def schemaForm (t : MessageType) (v : Json) : Json :=
  t.form.underNames (changePart spelled StatusInfo.underNames) v

/-- **The forms that decoding knows**: the parts of a type by name or in place, among them a status
as a string or as an object of a spelling over a `null`, and status information as its own parts by
name or in place. -/
structure InForm (t : MessageType) (v : Json) : Prop where
  lists : Grammar.Lists t.form.labels v
  status : ∀ w, Grammar.part t.form.labels v "status" = some w →
    (∃ s, w = .string s) ∨ ∃ s, w = .object [(s, .null)]
  statusInfo : ∀ w, Grammar.part t.form.labels v "statusInfo" = some w →
    Grammar.Lists ["customData", "reasonCode", "additionalInfo"] w

/-- **The forms that the schemas know**: an object, in it a status as a string, and status
information as an object. -/
structure InSchema (t : MessageType) (v : Json) : Prop where
  object : ∃ members, v = .object members
  status : ∀ w, Grammar.part t.form.labels v "status" = some w → ∃ s, w = .string s
  statusInfo : ∀ w, Grammar.part t.form.labels v "statusInfo" = some w →
    ∃ members, w = .object members

/-- What holds of a part, however it was changed, holds of what stands there. -/
theorem changePart_cases {p : Json → Prop} {status statusInfo : Json → Json} {name : String}
    {w : Json} (asStatus : p (status w)) (asInfo : p (statusInfo w)) (same : p w) :
    p (changePart status statusInfo name w) := by
  unfold changePart
  split
  · exact asStatus
  · split
    · exact asInfo
    · exact same

theorem isNull_spelled {w : Json} (present : w.isNull = false) : w.spelled.isNull = false := by
  unfold spelled
  split
  · rfl
  · exact present

theorem casts_otherForm (t : MessageType) (v : Json) :
    t.form.Casts (changePart spelledInObject StatusInfo.inPlace) v (v.otherForm t) := by
  refine Structure.casts_inPlace t.labels_nodup (fun _ w => ?_) v
  exact changePart_cases (p := fun x => x.isNull = w.isNull) (by cases w <;> rfl)
    (StatusInfo.isNull_inPlace w) rfl

theorem casts_schemaForm (t : MessageType) (v : Json) :
    t.form.Casts (changePart spelled StatusInfo.underNames) v (v.schemaForm t) := by
  refine Structure.casts_underNames t.labels_nodup (fun _ w present => ?_) v
  exact changePart_cases (p := fun x => x.isNull = false) (isNull_spelled present) rfl present

theorem canonical_otherForm {v : Json} (t : MessageType) (canonical : v.Canonical) :
    (v.otherForm t).Canonical := by
  refine Structure.canonical_inPlace (fun _ w canonical => ?_) canonical
  refine changePart_cases ?_ (StatusInfo.canonical_inPlace canonical) canonical
  cases w with
  | string s => exact ⟨List.pairwise_singleton _ _, trivial, trivial⟩
  | _ => exact canonical

theorem canonical_schemaForm {v : Json} (t : MessageType) (canonical : v.Canonical) :
    (v.schemaForm t).Canonical := by
  refine Structure.canonical_underNames (fun _ w canonical => ?_) canonical
  refine changePart_cases ?_ (Structure.canonical_underNames (fun _ _ => id) canonical) canonical
  unfold spelled
  split
  · trivial
  · exact canonical

/-- **The form of the schemas is one that they know.** -/
theorem InForm.inSchema {t : MessageType} {v : Json} (known : v.InForm t) :
    (v.schemaForm t).InSchema t := by
  refine ⟨⟨_, rfl⟩, fun w listed => ?_, fun w listed => ?_⟩
  · obtain ⟨u, hu, rfl⟩ := (casts_schemaForm t v).exists_part t.labels_nodup listed
    rcases known.status u hu with ⟨s, rfl⟩ | ⟨s, rfl⟩
    · exact ⟨s, rfl⟩
    · exact ⟨s, rfl⟩
  · obtain ⟨u, hu, rfl⟩ := (casts_schemaForm t v).exists_part t.labels_nodup listed
    exact ⟨_, rfl⟩

end Json

namespace MessageType

/-- In the catalog what has the name of a status is one, and so is status information; nothing else
is either. -/
theorem label_iff {t : MessageType} {f : Field} (member : f ∈ t.fields) :
    (f.label = "status" ↔ ∃ v, f.kind = .status v) ∧
      (f.label = "statusInfo" ↔ f.kind = .statusInfo) := by
  have all : ∀ f ∈ t.fields, (f.label = "status" ↔ ∃ v, f.kind = .status v) ∧
      (f.label = "statusInfo" ↔ f.kind = .statusInfo) := by
    obtain ⟨action, direction⟩ := t
    cases action <;> cases direction <;>
      simp [fields, customData, status, statusInfo, data]
  exact all f member

end MessageType

namespace Kind

variable {vocabulary : Vocabulary} {w : Json} {x : Status vocabulary}

/-- A status is read from an object of its spelling as from the spelling. -/
theorem readFrom_spelledInObject_iff :
    (status vocabulary).ReadFrom w.spelledInObject x ↔ (status vocabulary).ReadFrom w x := by
  cases w with
  | string s => simp [ReadFrom, Json.spelledInObject]
  | _ => exact Iff.rfl

theorem readFrom_spelled_iff :
    (status vocabulary).ReadFrom w.spelled x ↔ (status vocabulary).ReadFrom w x := by
  unfold Json.spelled
  split
  · simp [ReadFrom]
  · exact Iff.rfl

end Kind

namespace Message

variable {t : MessageType} {v w : Json} {m : Message t}

/-- **A message is read from a cast** of what it is read from, and the other way round, as long as
its changes keep what is read of a status and of status information. -/
theorem readFrom_iff_of_casts {status statusInfo : Json → Json} (known : v.InForm t)
    (casts : t.form.Casts (Json.changePart status statusInfo) v w)
    (asStatus : ∀ (vocabulary : Vocabulary) u x,
      (Kind.status vocabulary).ReadFrom (status u) x ↔ (Kind.status vocabulary).ReadFrom u x)
    (asInfo : ∀ u, StatusInfo.form.Fits u → ∀ i : StatusInfo,
      i.ReadFrom (statusInfo u) ↔ i.ReadFrom u) :
    m.ReadFrom w ↔ m.ReadFrom v := by
  have fits : t.form.Fits v := (Grammar.lists_iff t.form v).1 known.lists
  rw [ReadFrom, ReadFrom, and_iff_right casts.fits, and_iff_right fits]
  refine forall_congr' fun f => forall_congr' fun slot => ?_
  rw [casts.part f slot, rel_map_left_iff]
  refine rel_congr fun u there x => ?_
  have listed : Grammar.part t.form.labels v f.label = some u :=
    (Grammar.part_eq t.labels_nodup v slot).symm.trans there
  obtain ⟨named, namedInfo⟩ := MessageType.label_iff slot.mem
  show f.kind.ReadFrom (Json.changePart status statusInfo f.label u) x ↔ _
  unfold Json.changePart
  split
  · obtain ⟨vocabulary, kind⟩ := named.1 ‹_›
    obtain ⟨label, k, presence⟩ := f
    obtain rfl : k = .status vocabulary := kind
    exact asStatus vocabulary u x
  · split
    · rename_i same
      rw [same] at listed
      have kind := namedInfo.1 same
      obtain ⟨label, k, presence⟩ := f
      obtain rfl : k = .statusInfo := kind
      exact asInfo u ((Grammar.lists_iff StatusInfo.form u).1 (known.statusInfo u listed)) x
    · exact Iff.rfl

/-- **What is read of a payload is read of its other form.** -/
theorem readFrom_otherForm_iff (known : v.InForm t) : m.ReadFrom (v.otherForm t) ↔ m.ReadFrom v :=
  readFrom_iff_of_casts known (Json.casts_otherForm t v)
    (fun _ _ _ => Kind.readFrom_spelledInObject_iff)
    fun _ fits _ => StatusInfo.readFrom_inPlace_iff fits

/-- **What is read of a payload is read of its form for the schemas.** -/
theorem readFrom_schemaForm_iff (known : v.InForm t) :
    m.ReadFrom (v.schemaForm t) ↔ m.ReadFrom v :=
  readFrom_iff_of_casts known (Json.casts_schemaForm t v) (fun _ _ _ => Kind.readFrom_spelled_iff)
    fun _ fits _ => StatusInfo.readFrom_underNames_iff fits

/-- What a message was read from in the place of a field is what the content was read from. -/
theorem ReadFrom.exists_content (read : m.ReadFrom v) {name : String} {w : Json}
    (listed : Grammar.part t.form.labels v name = some w) :
    ∃ f ∈ t.fields, f.label = name ∧ ∃ x, f.kind.ReadFrom w x := by
  have member : name ∈ t.form.labels :=
    Grammar.mem_of_part ((Grammar.lists_iff t.form v).2 read.1) listed
  obtain ⟨f, hf, rfl⟩ := List.mem_map.1 member
  obtain ⟨slot⟩ := Slot.nonempty_of_mem hf
  have known := read.2 f slot
  rw [show t.form.part v slot = _ from Grammar.part_eq t.labels_nodup v slot,
    show Grammar.part t.form.labels v (t.form.label f) = some w from listed] at known
  generalize f.value? (m.get slot) = content at known
  cases known with
  | some known => exact ⟨f, hf, rfl, _, known⟩

/-- **A message is read from no other forms.** -/
theorem ReadFrom.inForm (read : m.ReadFrom v) : v.InForm t := by
  refine ⟨(Grammar.lists_iff t.form v).2 read.1, fun w listed => ?_, fun w listed => ?_⟩
  · obtain ⟨f, member, named, x, known⟩ := read.exists_content listed
    obtain ⟨vocabulary, kind⟩ := (MessageType.label_iff member).1.1 named
    obtain ⟨label, k, presence⟩ := f
    obtain rfl : k = .status vocabulary := kind
    exact known.imp (fun h => ⟨_, h⟩) fun h => ⟨_, h⟩
  · obtain ⟨f, member, named, x, known⟩ := read.exists_content listed
    have kind := (MessageType.label_iff member).2.1 named
    obtain ⟨label, k, presence⟩ := f
    obtain rfl : k = .statusInfo := kind
    exact (Grammar.lists_iff StatusInfo.form w).2 known.1

end Message

namespace TypedMessage

variable {action : Action} {direction : Direction} {v w : Json} {m : TypedMessage}

/-- Two values of which the same messages are read are decoded to the same ones. -/
theorem decode_eq_ok_congr (canonical : v.Canonical) (canonical' : w.Canonical)
    (same : ∀ m : Message ⟨action, direction⟩, m.ReadFrom v ↔ m.ReadFrom w) :
    decode action direction v = .ok m ↔ decode action direction w = .ok m := by
  simp only [decode, bind_eq_ok_iff, pure_eq_ok_iff, Message.decode_iff canonical,
    Message.decode_iff canonical', same]

theorem inForm_of_decode (canonical : v.Canonical) (h : decode action direction v = .ok m) :
    v.InForm ⟨action, direction⟩ := by
  obtain ⟨m, hm, rfl⟩ := map_eq_ok_iff.1 h
  exact ((Message.decode_iff canonical).1 hm).1.inForm

end TypedMessage

/-! ### Decoding -/

/-- **The forms that are decoded.**

* A payload that is decoded is an object, or an array with one item for each field.  Its status, if
  it has one, is a string, or an object of a spelling over a `null`.  Its status information, if it
  has any, is an object, or an array of three.  Its other form, an array with none but other forms
  in it, is decoded to the same message.
* A payload in any of these forms is decoded to a message exactly when the object of its parts, with
  a status as a string and status information as an object, is decoded to that message; and nothing
  else is decoded.
* That object is in the form of the schemas, and for a payload in any of these forms it makes no
  difference whether it or its other form is decoded. -/
theorem decode_forms {action : Action} {direction : Direction} {v : Json} (canonical : v.Canonical)
    (m : TypedMessage) :
    let t : MessageType := ⟨action, direction⟩
    (TypedMessage.decode action direction v = .ok m →
      ((∃ members, v = .object members) ∨
          ∃ items, v = .array items ∧ items.length = t.fields.length) ∧
        (∀ w, Grammar.part t.form.labels v "status" = some w →
          (∃ s, w = .string s) ∨ ∃ s, w = .object [(s, .null)]) ∧
        (∀ w, Grammar.part t.form.labels v "statusInfo" = some w →
          (∃ members, w = .object members) ∨ ∃ items, w = .array items ∧ items.length = 3) ∧
        TypedMessage.decode action direction (v.otherForm t) = .ok m) ∧
      (TypedMessage.decode action direction v = .ok m ↔
        v.InForm t ∧ TypedMessage.decode action direction (v.schemaForm t) = .ok m) ∧
      (v.InForm t → (v.schemaForm t).InSchema t ∧
        (TypedMessage.decode action direction (v.otherForm t) = .ok m ↔
          TypedMessage.decode action direction v = .ok m)) := by
  intro t
  have other (known : v.InForm t) :
      TypedMessage.decode action direction (v.otherForm t) = .ok m ↔
        TypedMessage.decode action direction v = .ok m :=
    TypedMessage.decode_eq_ok_congr (Json.canonical_otherForm t canonical) canonical fun _ =>
      Message.readFrom_otherForm_iff known
  have schema (known : v.InForm t) :
      TypedMessage.decode action direction (v.schemaForm t) = .ok m ↔
        TypedMessage.decode action direction v = .ok m :=
    TypedMessage.decode_eq_ok_congr (Json.canonical_schemaForm t canonical) canonical fun _ =>
      Message.readFrom_schemaForm_iff known
  refine ⟨fun decoded => ?_, ⟨fun decoded => ?_, fun ⟨known, decoded⟩ => (schema known).1 decoded⟩,
    fun known => ⟨known.inSchema, other known⟩⟩
  · have known := TypedMessage.inForm_of_decode canonical decoded
    refine ⟨Structure.forms_of_fits ((Grammar.lists_iff t.form v).1 known.lists), known.status,
      fun w listed => ?_, (other known).2 decoded⟩
    exact Structure.forms_of_fits ((Grammar.lists_iff StatusInfo.form w).1
      (known.statusInfo w listed))
  · have known := TypedMessage.inForm_of_decode canonical decoded
    exact ⟨known, (schema known).2 decoded⟩

/-- A response with status information, its other form, and what that has for the schemas. -/
theorem decode_forms_response :
    let v : Json := .object [("status", .string "Accepted"),
      ("statusInfo", .object [("reasonCode", .string "Busy")])]
    let w : Json := .array [.null, .object [("Accepted", .null)],
      .array [.null, .string "Busy", .null]]
    let m : TypedMessage := ⟨⟨.cancelReservation, .response⟩,
      ⟨.cons none (.cons ⟨"Accepted", by decide⟩ (.cons (some ⟨none, "Busy", none⟩) .nil))⟩⟩
    v.Canonical ∧ TypedMessage.decode .cancelReservation .response v = .ok m ∧
      v.otherForm ⟨.cancelReservation, .response⟩ = w ∧
      TypedMessage.decode .cancelReservation .response w = .ok m ∧
      w.schemaForm ⟨.cancelReservation, .response⟩ = v := by
  intro v w m
  have canonical : v.Canonical := ⟨by decide, trivial, ⟨by decide, trivial, trivial⟩, trivial⟩
  have decoded : TypedMessage.decode .cancelReservation .response v = .ok m := rfl
  have other : v.otherForm ⟨.cancelReservation, .response⟩ = w := rfl
  obtain ⟨-, -, -, again⟩ := (decode_forms canonical m).1 decoded
  rw [other] at again
  exact ⟨canonical, decoded, other, again, rfl⟩

/-- The schemas know none of the other forms, and decoding accepts each of them: an array for a
message, an object for a status, and an array for status information. -/
theorem decode_not_only_objects :
    (¬ ∀ action direction (v : Json), v.Canonical →
        (∃ m, TypedMessage.decode action direction v = .ok m) → ∃ members, v = .object members) ∧
      (¬ ∀ action direction members w, (Json.object members).Canonical →
        (∃ m, TypedMessage.decode action direction (.object members) = .ok m) →
          members.lookup "status" = some w → ∃ s, w = .string s) ∧
      ¬ ∀ action direction members w, (Json.object members).Canonical →
        (∃ m, TypedMessage.decode action direction (.object members) = .ok m) →
          members.lookup "statusInfo" = some w → w.isNull = false →
            ∃ inner, w = .object inner := by
  refine ⟨fun h => ?_, fun h => ?_, fun h => ?_⟩
  · obtain ⟨members, same⟩ := h .unpublishFirmware .request (.array [.null, .string "d41d8cd9"])
      ⟨trivial, trivial, trivial⟩ ⟨_, rfl⟩
    cases same
  · obtain ⟨s, same⟩ := h .cancelReservation .response [("status", .object [("Accepted", .null)])] _
      ⟨by decide, ⟨by decide, trivial, trivial⟩, trivial⟩ ⟨_, rfl⟩ rfl
    cases same
  · obtain ⟨inner, same⟩ := h .cancelReservation .response
      [("status", .string "Accepted"), ("statusInfo", .array [.null, .string "Busy", .null])] _
      ⟨by decide, trivial, ⟨trivial, trivial, trivial, trivial⟩, trivial⟩ ⟨_, rfl⟩ rfl rfl
    cases same

end ChargePoint
