import ChargePoint.Proofs.Data.Scalar
import ChargePoint.Proofs.Json.Distinct
import ChargePoint.Proofs.Structure
import ChargePoint.Proofs.VendorValue
import ChargePoint.Shape.Text

/-!
# The two ways from a text

A reading of documents goes through the text from left to right and may stop at any fault, of the
notation or of shape.  It succeeds, nevertheless, exactly when the whole document has a tree and the
reading of values succeeds on that tree: what was skipped on the way to a failure never matters to a
success.  A reading of values, in turn, does not look at the order of members once no name is
repeated.  Together this makes the two ways from a text agree, and the result the same in whatever
order the members are written.

Both properties are passed on from the readings of parts to those of a whole, so a reading that is
put together of such readings is one.

## Main definitions

* `Doc.Follows`: a reading of documents that succeeds when a reading of trees does.
* `Json.Orderless`: a reading of values that does not look at the order of members.
* `Writes`: a text that writes a tree.

## Main results

* `Structure.follows`, `Structure.orderless`: readings of structures, from those of their fields.
* `readText_eq_ok_iff`, `readValue_eq_ok_iff`: the two ways, in terms of the tree that is written.
* `readText_iff_readValue`: where no name is repeated the two ways agree.
* `readText_iff_of_reorders`: and so do two texts that differ in the order of members.
-/

namespace ChargePoint

variable {α : Type}

/-- **A reading of documents that follows the tree**: it succeeds when all of the document has a
tree from which the same can be read. -/
def Doc.Follows (readDoc : Doc → Except ReadFault α) (read : Json → Except ShapeFault α) : Prop :=
  ∀ doc x, readDoc doc = .ok x ↔ ∃ tree, doc.toTree = .ok tree ∧ read tree = .ok x

/-- **A reading of values that does not look at the order** of members, where no name is
repeated. -/
def Json.Orderless (read : Json → Except ShapeFault α) : Prop :=
  ∀ v x, v.Distinct → (read v.canonical = .ok x ↔ read v = .ok x)

/-! ### Trees of documents -/

namespace Doc

theorem toTree_array_eq_ok_iff {items : Items} {tree : Json} :
    (array items).toTree = .ok tree ↔ ∃ trees, toTrees items = .ok trees ∧ .array trees = tree := by
  simp only [toTree, bind_eq_ok_iff, pure_eq_ok_iff]

theorem toTree_object_eq_ok_iff {members : Members} {tree : Json} :
    (object members).toTree = .ok tree ↔
      ∃ entries, toEntries members = .ok entries ∧ .object entries = tree := by
  simp only [toTree, bind_eq_ok_iff, pure_eq_ok_iff]

theorem toTrees_item_eq_ok_iff {head : Doc} {rest : Items} {trees : List Json} :
    toTrees (.item head rest) = .ok trees ↔
      ∃ tree, head.toTree = .ok tree ∧ ∃ others, toTrees rest = .ok others ∧
        tree :: others = trees := by
  simp only [toTrees, bind_eq_ok_iff, pure_eq_ok_iff]

theorem toEntries_member_eq_ok_iff {name : String} {value : Doc} {rest : Members}
    {entries : List (String × Json)} :
    toEntries (.member name value rest) = .ok entries ↔
      ∃ tree, value.toTree = .ok tree ∧ ∃ others, toEntries rest = .ok others ∧
        (name, tree) :: others = entries := by
  simp only [toEntries, bind_eq_ok_iff, pure_eq_ok_iff]

theorem eq_string_of_toTree {doc : Doc} {s : String} (h : doc.toTree = .ok (.string s)) :
    doc = .string s := by
  cases doc with
  | string s =>
    cases h
    rfl
  | array items =>
    obtain ⟨trees, -, same⟩ := toTree_array_eq_ok_iff.1 h
    cases same
  | object members =>
    obtain ⟨entries, -, same⟩ := toTree_object_eq_ok_iff.1 h
    cases same
  | _ => cases h

theorem eq_number_of_toTree {doc : Doc} {n : Number} (h : doc.toTree = .ok (.number n)) :
    doc = .number n := by
  cases doc with
  | number n =>
    cases h
    rfl
  | array items =>
    obtain ⟨trees, -, same⟩ := toTree_array_eq_ok_iff.1 h
    cases same
  | object members =>
    obtain ⟨entries, -, same⟩ := toTree_object_eq_ok_iff.1 h
    cases same
  | _ => cases h

/-- The tree of an object comes from an object, member by member. -/
theorem exists_members_of_toTree {doc : Doc} {entries : List (String × Json)}
    (h : doc.toTree = .ok (.object entries)) :
    ∃ members, doc = .object members ∧ toEntries members = .ok entries := by
  cases doc with
  | object members =>
    obtain ⟨entries, built, same⟩ := toTree_object_eq_ok_iff.1 h
    cases same
    exact ⟨members, rfl, built⟩
  | array items =>
    obtain ⟨trees, -, same⟩ := toTree_array_eq_ok_iff.1 h
    cases same
  | _ => cases h

theorem exists_member_of_toEntries {members : Members} {name : String} {tree : Json}
    {others : List (String × Json)} (h : toEntries members = .ok ((name, tree) :: others)) :
    ∃ value rest, members = .member name value rest ∧ value.toTree = .ok tree ∧
      toEntries rest = .ok others := by
  cases members with
  | member name value rest =>
    obtain ⟨tree, built, others, after, same⟩ := toEntries_member_eq_ok_iff.1 h
    cases same
    exact ⟨value, rest, rfl, built, after⟩
  | _ => cases h

/-- The outline of a document that has a tree is that of the tree. -/
theorem outline_of_toTree {doc : Doc} {tree : Json} (h : doc.toTree = .ok tree) :
    doc.outline = .ok tree.outline := by
  cases doc with
  | array items =>
    obtain ⟨trees, -, rfl⟩ := toTree_array_eq_ok_iff.1 h
    rfl
  | object members =>
    obtain ⟨entries, -, rfl⟩ := toTree_object_eq_ok_iff.1 h
    rfl
  | broken opening fault => cases h
  | _ =>
    cases h
    rfl

end Doc

/-! ### Scalars, and what may be absent -/

/-- A reading of outlines that takes neither an array nor an object. -/
def Outline.Scalar (read : Outline → Except ShapeFault α) : Prop :=
  ∀ x, read .sequence ≠ .ok x ∧ read .map ≠ .ok x

theorem Outline.scalar_toText : Scalar toText := by
  simp [Scalar, toText]

theorem Outline.scalar_toInteger : Scalar toInteger := by
  simp [Scalar, toInteger]

theorem Outline.scalar_toInstant : Scalar toInstant := by
  simp [Scalar, toInstant]

/-- What is no array and no object is all there in its outline, so reading it from a document
follows reading it from the tree. -/
theorem Doc.follows_scalar {read : Outline → Except ShapeFault α} (scalar : Outline.Scalar read) :
    Follows (Doc.scalar read) fun v => read v.outline := by
  intro doc x
  simp only [Doc.scalar, bind_eq_ok_iff, mapError_eq_ok_iff]
  constructor
  · rintro ⟨found, outlined, h⟩
    cases doc with
    | array items =>
      cases outlined
      exact absurd h (scalar x).1
    | object members =>
      cases outlined
      exact absurd h (scalar x).2
    | broken opening fault => cases outlined
    | _ =>
      cases outlined
      exact ⟨_, rfl, h⟩
  · rintro ⟨tree, built, h⟩
    exact ⟨_, outline_of_toTree built, h⟩

/-- A document that is no `null` begins otherwise, so that it is none is met before its content is
read. -/
theorem Doc.Follows.orNull {readDoc : Doc → Except ReadFault α} {read : Json → Except ShapeFault α}
    (follows : Follows readDoc read) : Follows (Doc.orNull readDoc) (Json.orNull read) := by
  intro doc x
  have present (doc : Doc) (h : ∀ tree, doc.toTree = .ok tree → tree.isNull = false) :
      (readDoc doc).map some = .ok x ↔
        ∃ tree, doc.toTree = .ok tree ∧ Json.orNull read tree = .ok x := by
    have each {x : α} : readDoc doc = .ok x ↔ _ := follows _ _
    simp only [map_eq_ok_iff, each]
    constructor
    · rintro ⟨y, ⟨tree, built, hy⟩, rfl⟩
      refine ⟨tree, built, orNull_eq_ok_iff.2 ?_⟩
      rw [h tree built, if_neg Bool.false_ne_true]
      exact ⟨y, hy, rfl⟩
    · rintro ⟨tree, built, hx⟩
      rw [orNull_eq_ok_iff, h tree built, if_neg Bool.false_ne_true] at hx
      obtain ⟨y, hy, rfl⟩ := hx
      exact ⟨y, ⟨tree, built, hy⟩, rfl⟩
  have scalar (doc : Doc) {tree : Json} (one : doc.toTree = .ok tree) (h : tree.isNull = false) :
      ∀ tree, doc.toTree = .ok tree → tree.isNull = false := by
    intro other built
    rw [one] at built
    cases built
    exact h
  cases doc with
  | null =>
    have absent : Json.orNull read .null = .ok none := if_pos rfl
    constructor
    · intro h
      obtain rfl : none = x := Except.ok.inj h
      exact ⟨.null, rfl, absent⟩
    · rintro ⟨_, built, h⟩
      cases built
      rw [absent] at h
      exact congrArg Except.ok (Except.ok.inj h)
  | broken opening fault =>
    have treeless (tree : Json) : (Doc.broken opening fault).toTree ≠ .ok tree := by
      intro built
      cases built
    cases opening with
    | letterN =>
      refine iff_of_false ?_ fun h => ?_
      · intro h
        cases h
      · obtain ⟨tree, built, -⟩ := h
        exact treeless tree built
    | _ => exact present _ fun tree built => absurd built (treeless tree)
  | array items =>
    refine present _ fun tree built => ?_
    obtain ⟨trees, -, rfl⟩ := toTree_array_eq_ok_iff.1 built
    rfl
  | object members =>
    refine present _ fun tree built => ?_
    obtain ⟨entries, -, rfl⟩ := toTree_object_eq_ok_iff.1 built
    rfl
  | _ => exact present _ (scalar _ rfl rfl)

/-- What is made of what was read does not change the way. -/
theorem Doc.Follows.bind {β : Type} {readDoc : Doc → Except ReadFault α}
    {read : Json → Except ShapeFault α} (follows : Follows readDoc read)
    {makeDoc : α → Except ReadFault β} {make : α → Except ShapeFault β}
    (same : ∀ a b, makeDoc a = .ok b ↔ make a = .ok b) :
    Follows (fun doc => readDoc doc >>= makeDoc) fun v => read v >>= make := by
  intro doc b
  have each {a : α} : readDoc doc = .ok a ↔ _ := follows _ _
  simp only [bind_eq_ok_iff, each, same]
  constructor
  · rintro ⟨a, ⟨tree, built, ha⟩, hb⟩
    exact ⟨tree, built, a, ha, hb⟩
  · rintro ⟨tree, built, a, ha, hb⟩
    exact ⟨a, ⟨tree, built, ha⟩, hb⟩

namespace Json

/-- Collecting members by name leaves the outline of a tree as it is. -/
theorem outline_canonical (v : Json) : v.canonical.outline = v.outline := by
  cases v <;> rfl

theorem orderless_outline (read : Outline → Except ShapeFault α) :
    Orderless fun v => read v.outline := by
  intro v x _
  simp only [outline_canonical]

theorem Orderless.orNull {read : Json → Except ShapeFault α} (orderless : Orderless read) :
    Orderless (Json.orNull read) := by
  intro v x distinct
  simp only [orNull_eq_ok_iff, Json.isNull_canonical, orderless _ _ distinct]

theorem Orderless.bind {β : Type} {read : Json → Except ShapeFault α} (orderless : Orderless read)
    (make : α → Except ShapeFault β) : Orderless fun v => read v >>= make := by
  intro v b distinct
  simp only [bind_eq_ok_iff, orderless _ _ distinct]

end Json

/-! ### Structures -/

namespace Structure

variable {ι : Type} {s : Structure ι} {readDoc : (i : ι) → Doc → Except ReadFault (s.Value i)}
  {read : (i : ι) → Json → Except ShapeFault (s.Value i)}

/-- Reading the members of a document takes the same steps as reading those of its tree: a place,
the content, and the members after it. -/
theorem ofDocMembers_eq_ok_iff (follows : ∀ i, Doc.Follows (readDoc i) (read i)) :
    {members : Doc.Members} → {draft final : s.Draft} →
      (s.ofDocMembers readDoc members draft = .ok final ↔
        ∃ entries, Doc.toEntries members = .ok entries ∧
          s.ofMembers read entries draft = .ok final)
  | .close, draft, final => by simp [ofDocMembers, Doc.toEntries, ofMembers]
  | .cut fault, draft, final => by simp [ofDocMembers, Doc.toEntries]
  | .stray key, draft, final => by simp [ofDocMembers, Doc.toEntries]
  | .member name value rest, draft, final => by
    simp only [ofDocMembers, bind_eq_ok_iff, mapError_eq_ok_iff, follows _ _ _,
      ofDocMembers_eq_ok_iff follows, Doc.toEntries_member_eq_ok_iff]
    constructor
    · rintro ⟨⟨i, slot⟩, placed, x, ⟨tree, built, hx⟩, others, ho, h⟩
      refine ⟨_, ⟨tree, built, others, ho, rfl⟩, ?_⟩
      exact bind_eq_ok_iff.2 ⟨⟨i, slot⟩, placed, bind_eq_ok_iff.2 ⟨x, hx, h⟩⟩
    · rintro ⟨_, ⟨tree, built, others, ho, rfl⟩, h⟩
      obtain ⟨⟨i, slot⟩, placed, h⟩ := bind_eq_ok_iff.1 h
      obtain ⟨x, hx, h⟩ := bind_eq_ok_iff.1 h
      exact ⟨⟨i, slot⟩, placed, x, ⟨tree, built, hx⟩, others, ho, h⟩

theorem ofDocItems_eq_ok_iff (follows : ∀ i, Doc.Follows (readDoc i) (read i)) {count : Nat}
    {fields : List ι} {items : Doc.Items} (all : List Json)
    {final : Record (fun i => Option (s.Value i)) fields} :
    s.ofDocItems readDoc count fields items = .ok final ↔
      ∃ trees, Doc.toTrees items = .ok trees ∧ s.ofItems read all fields trees = .ok final := by
  induction fields generalizing count items with
  | nil =>
    cases items with
    | close => simp [ofDocItems, Doc.toTrees, ofItems]
    | cut fault => simp [ofDocItems, Doc.toTrees]
    | item head rest =>
      constructor
      · intro h
        cases h
      · rintro ⟨_, built, h⟩
        obtain ⟨tree, -, others, -, rfl⟩ := Doc.toTrees_item_eq_ok_iff.1 built
        cases h
  | cons i fields ih =>
    cases items with
    | close => simp [ofDocItems, Doc.toTrees, ofItems]
    | cut fault => simp [ofDocItems, Doc.toTrees]
    | item head rest =>
      simp only [ofDocItems, bind_eq_ok_iff, pure_eq_ok_iff, follows _ _ _, ih,
        Doc.toTrees_item_eq_ok_iff]
      constructor
      · rintro ⟨x, ⟨tree, built, hx⟩, later, ⟨others, ho, h⟩, rfl⟩
        refine ⟨_, ⟨tree, built, others, ho, rfl⟩, ?_⟩
        exact bind_eq_ok_iff.2 ⟨x, hx, bind_eq_ok_iff.2 ⟨later, h, rfl⟩⟩
      · rintro ⟨_, ⟨tree, built, others, ho, rfl⟩, h⟩
        obtain ⟨x, hx, h⟩ := bind_eq_ok_iff.1 h
        obtain ⟨later, hl, h⟩ := bind_eq_ok_iff.1 h
        exact ⟨x, ⟨tree, built, hx⟩, later, ⟨others, ho, hl⟩, Except.ok.inj h⟩

/-- **A structure is read from a document** as from its tree, where its fields are. -/
theorem follows (follows : ∀ i, Doc.Follows (readDoc i) (read i)) :
    Doc.Follows (s.ofDoc readDoc) (s.ofJson read) := by
  intro doc x
  cases doc with
  | object members =>
    rw [ofDoc, ofDocMembers_eq_ok_iff follows]
    simp only [Doc.toTree_object_eq_ok_iff]
    constructor
    · rintro ⟨entries, built, h⟩
      exact ⟨_, ⟨entries, built, rfl⟩, h⟩
    · rintro ⟨_, ⟨entries, built, rfl⟩, h⟩
      exact ⟨entries, built, h⟩
  | array items =>
    constructor
    · intro h
      obtain ⟨trees, built, -⟩ := (ofDocItems_eq_ok_iff follows []).1 h
      obtain ⟨_, same, h⟩ := (ofDocItems_eq_ok_iff follows trees).1 h
      rw [built] at same
      cases same
      exact ⟨_, Doc.toTree_array_eq_ok_iff.2 ⟨trees, built, rfl⟩, h⟩
    · rintro ⟨_, whole, h⟩
      obtain ⟨trees, built, rfl⟩ := Doc.toTree_array_eq_ok_iff.1 whole
      exact (ofDocItems_eq_ok_iff follows trees).2 ⟨trees, built, h⟩
  | _ => simp [ofDoc, Doc.outline, Doc.toTree, ofJson]

/-! ### Structures and the order of members -/

/-- A value fits whether or not its members are in order. -/
theorem fits_canonical_iff {v : Json} (distinct : v.Distinct) : s.Fits v.canonical ↔ s.Fits v := by
  cases v with
  | object members =>
    have same (name : String) :
        name ∈ (Keyed.ofList (Keyed.mapValues Json.canonical members)).map Prod.fst ↔
          name ∈ members.map Prod.fst := by
      have absent := distinct.lookup_canonical name
      rw [← Decidable.not_iff_not, ← Keyed.lookup_eq_none_iff_notMem,
        ← Keyed.lookup_eq_none_iff_notMem, absent, Option.map_eq_none_iff]
    rw [Json.canonical_object]
    exact forall_congr' fun name => imp_congr_left (same name)
  | array items =>
    rw [Json.canonical_array]
    show (items.map _).length = _ ↔ _
    rw [List.length_map]
    rfl
  | _ => exact Iff.rfl

theorem given_canonical {v : Json} (distinct : v.Distinct) {i : ι} (slot : Slot s.fields i) :
    s.given v.canonical slot = (s.given v slot).map Json.canonical := by
  cases v with
  | object members =>
    rw [Json.canonical_object]
    exact distinct.lookup_canonical _
  | array items =>
    rw [Json.canonical_array]
    exact List.getElem?_map ..
  | _ => rfl

theorem distinct_given {v w : Json} (distinct : v.Distinct) {i : ι} {slot : Slot s.fields i}
    (h : s.given v slot = some w) : w.Distinct := by
  cases v with
  | object members => exact distinct.of_lookup h
  | array items => exact Json.distinct_array_iff.1 distinct w (List.mem_of_getElem? h)
  | null => cases h
  | bool b => cases h
  | number n => cases h
  | string s => cases h

/-- **The reading of a structure does not look at the order** of members, where those of its fields
do not. -/
theorem orderless (labels : s.labels.Nodup) (orderless : ∀ i, Json.Orderless (read i)) :
    Json.Orderless (s.ofJson read) := by
  intro v x distinct
  have names (members : List (String × Json)) (h : v = .object members) :
      (members.map Prod.fst).Nodup := by
    subst h
    exact distinct.nodup
  rw [ofJson_eq_ok_iff labels (Json.canonical_canonical v), ofJson_eq_ok_iff_of_nodup labels names,
    fits_canonical_iff distinct]
  refine and_congr_right fun _ => forall_congr' fun i => forall_congr' fun slot => ?_
  rw [given_canonical distinct]
  cases given : s.given v slot with
  | none => exact Iff.rfl
  | some w =>
    have part : w.Distinct := distinct_given distinct given
    cases x.get slot with
    | none => simp
    | some y => simp [orderless i _ _ part]

end Structure

/-! ### Texts -/

/-- **A text writes a tree**: it holds a document with that tree, and nothing after it. -/
def Writes (text : String) (tree : Json) : Prop :=
  (Reading.ofString text).ended = true ∧ (Reading.ofString text).doc.toTree = .ok tree

variable {readDoc : Doc → Except ReadFault α} {read : Json → Except ShapeFault α}
  {text text' : String} {tree tree' : Json} {x : α}

theorem Writes.unique (h : Writes text tree) (h' : Writes text tree') : tree = tree' :=
  Except.ok.inj (h.2.symm.trans h'.2)

/-- A text is read as the tree that it writes. -/
theorem readText_eq_ok_iff (follows : Doc.Follows readDoc read) :
    readText readDoc text = .ok x ↔ ∃ tree, Writes text tree ∧ read tree = .ok x := by
  have each {doc} {x : α} : readDoc doc = .ok x ↔ _ := follows _ _
  simp only [readText, bind_eq_ok_iff, each]
  constructor
  · rintro ⟨a, ⟨tree, built, ha⟩, h⟩
    split at h
    · rename_i ended
      cases h
      exact ⟨tree, ⟨ended, built⟩, ha⟩
    · cases h
  · rintro ⟨tree, ⟨ended, built⟩, hx⟩
    exact ⟨x, ⟨tree, built, hx⟩, by rw [if_pos ended]; rfl⟩

/-- The value of a text is that of the tree that the text writes. -/
theorem parse_eq_ok_iff {v : Json} :
    Json.parse text = .ok v ↔ ∃ tree, Writes text tree ∧ tree.canonical = v := by
  simp only [Json.parse, Doc.toJson, bind_eq_ok_iff, map_eq_ok_iff]
  constructor
  · rintro ⟨w, ⟨tree, built, hw⟩, h⟩
    split at h
    · rename_i ended
      cases h
      exact ⟨tree, ⟨ended, built⟩, hw⟩
    · cases h
  · rintro ⟨tree, ⟨ended, built⟩, hv⟩
    exact ⟨v, ⟨tree, built, hv⟩, by rw [if_pos ended]; rfl⟩

/-- The value of a text is read as that of the tree that it writes. -/
theorem readValue_eq_ok_iff :
    readValue read text = .ok x ↔ ∃ tree, Writes text tree ∧ read tree.canonical = .ok x := by
  simp only [readValue, bind_eq_ok_iff, mapError_eq_ok_iff, parse_eq_ok_iff]
  constructor
  · rintro ⟨_, ⟨tree, written, rfl⟩, h⟩
    exact ⟨tree, written, h⟩
  · rintro ⟨tree, written, h⟩
    exact ⟨_, ⟨tree, written, rfl⟩, h⟩

/-- **The two ways from a text agree** where no name is repeated. -/
theorem readText_iff_readValue (follows : Doc.Follows readDoc read)
    (orderless : Json.Orderless read) (distinct : ∀ tree, Writes text tree → tree.Distinct) :
    readText readDoc text = .ok x ↔ readValue read text = .ok x := by
  rw [readText_eq_ok_iff follows, readValue_eq_ok_iff]
  refine exists_congr fun tree => and_congr_right fun written => ?_
  exact (orderless _ _ (distinct tree written)).symm

/-- **Two texts that differ in the order of members** are read alike, where no name is repeated. -/
theorem readText_iff_of_reorders (follows : Doc.Follows readDoc read)
    (orderless : Json.Orderless read) (written : Writes text tree) (written' : Writes text' tree')
    (distinct : tree.Distinct) (reorders : tree.Reorders tree') :
    readText readDoc text = .ok x ↔ readText readDoc text' = .ok x := by
  have tree_iff {text : String} {tree : Json} (written : Writes text tree) :
      readText readDoc text = .ok x ↔ read tree = .ok x := by
    rw [readText_eq_ok_iff follows]
    constructor
    · rintro ⟨_, other, h⟩
      rwa [written.unique other]
    · exact fun h => ⟨tree, written, h⟩
  rw [tree_iff written, tree_iff written', ← orderless _ _ distinct,
    ← orderless _ _ (reorders.distinct distinct), reorders.canonical_eq distinct]

end ChargePoint
