import ChargePoint.Proofs.Document
import ChargePoint.Proofs.Json.Reader

/-!
# How deep trees are

Arrays and objects stand one inside another, and a text may not put more of them inside one another
than a limit allows.  So whatever is read from a text is no deeper than that, and to collect members
by name only makes a tree less deep.

## Main definitions

* `Json.depth`: how many arrays and objects stand one inside another.
* `Doc.Shallow`: documents whose trees are not too deep.

## Main results

* `Json.depth_canonical_le`: a value is no deeper than the tree it is the value of.
* `Doc.shallow_value`: what is read keeps to the depth that it is read with.
* `Json.depth_le_of_parse`: the value of a text keeps to the limit.
-/

namespace ChargePoint

namespace Json

mutual

/-- **The depth of a tree**: how many arrays and objects stand one inside another. -/
def depth : Json → Nat
  | array items => depthItems items + 1
  | object members => depthMembers members + 1
  | _ => 0

/-- The depth of the deepest item. -/
def depthItems : List Json → Nat
  | [] => 0
  | item :: rest => max (depth item) (depthItems rest)

/-- The depth of the deepest value. -/
def depthMembers : List (String × Json) → Nat
  | [] => 0
  | (_, value) :: rest => max (depth value) (depthMembers rest)

end

variable {limit : Nat}

theorem depthItems_le_iff {items : List Json} :
    depthItems items ≤ limit ↔ ∀ item ∈ items, item.depth ≤ limit := by
  induction items with
  | nil => simp [depthItems]
  | cons item rest ih => rw [depthItems, Nat.max_le, ih, List.forall_mem_cons]

theorem depthMembers_le_iff {members : List (String × Json)} :
    depthMembers members ≤ limit ↔ ∀ entry ∈ members, entry.2.depth ≤ limit := by
  induction members with
  | nil => simp [depthMembers]
  | cons entry rest ih =>
    obtain ⟨name, value⟩ := entry
    rw [depthMembers, Nat.max_le, ih, List.forall_mem_cons]

/-- An array is one level deeper than its deepest item. -/
theorem depth_array_le_iff {items : List Json} :
    (array items).depth ≤ limit + 1 ↔ ∀ item ∈ items, item.depth ≤ limit := by
  rw [depth, Nat.add_le_add_iff_right, depthItems_le_iff]

theorem depth_object_le_iff {members : List (String × Json)} :
    (object members).depth ≤ limit + 1 ↔ ∀ entry ∈ members, entry.2.depth ≤ limit := by
  rw [depth, Nat.add_le_add_iff_right, depthMembers_le_iff]

/-- **A value is no deeper** than the tree it is the value of. -/
theorem depth_canonical_le (v : Json) : v.canonical.depth ≤ v.depth := by
  induction v using inductionOn with
  | null => exact Nat.le_refl _
  | bool b => exact Nat.le_refl _
  | number n => exact Nat.le_refl _
  | string s => exact Nat.le_refl _
  | array items ih =>
    have inner : ∀ item ∈ items, item.depth ≤ depthItems items :=
      depthItems_le_iff.1 (Nat.le_refl _)
    rw [canonical_array]
    refine depth_array_le_iff.2 (List.forall_mem_map.2 fun item member => ?_)
    exact Nat.le_trans (ih item member) (inner item member)
  | object members ih =>
    have inner : ∀ entry ∈ members, entry.2.depth ≤ depthMembers members :=
      depthMembers_le_iff.1 (Nat.le_refl _)
    rw [canonical_object]
    refine depth_object_le_iff.2 fun entry member => ?_
    obtain ⟨old, ho, rfl⟩ := Keyed.mem_mapValues_iff.1 (Keyed.mem_of_mem_ofList member)
    exact Nat.le_trans (ih old ho) (inner old ho)

end Json

namespace Doc

variable {limit : Nat}

/-- **Documents whose trees are not too deep.** -/
def Shallow (limit : Nat) (doc : Doc) : Prop := ∀ tree, doc.toTree = .ok tree → tree.depth ≤ limit

/-- The content of an array whose items are not too deep. -/
def ShallowItems (limit : Nat) (items : Items) : Prop :=
  ∀ trees, toTrees items = .ok trees → Json.depthItems trees ≤ limit

/-- The content of an object whose values are not too deep. -/
def ShallowMembers (limit : Nat) (members : Members) : Prop :=
  ∀ entries, toEntries members = .ok entries → Json.depthMembers entries ≤ limit

/-! ### Documents -/

/-- A document is no deeper than its tree. -/
theorem Shallow.of_tree {doc : Doc} {tree : Json} (h : doc.toTree = .ok tree)
    (shallow : tree.depth ≤ limit) : Shallow limit doc := by
  intro found built
  cases built.symm.trans h
  exact shallow

theorem shallow_broken (opening : Opening) (fault : TextFault) :
    Shallow limit (broken opening fault) := nofun

theorem shallow_array {items : Items} (h : ShallowItems limit items) :
    Shallow (limit + 1) (array items) := by
  intro tree built
  obtain ⟨trees, parts, rfl⟩ := toTree_array_eq_ok_iff.1 built
  exact Nat.succ_le_succ (h trees parts)

theorem shallow_object {members : Members} (h : ShallowMembers limit members) :
    Shallow (limit + 1) (object members) := by
  intro tree built
  obtain ⟨entries, parts, rfl⟩ := toTree_object_eq_ok_iff.1 built
  exact Nat.succ_le_succ (h entries parts)

theorem shallow_close : ShallowItems limit .close := by
  rintro trees ⟨⟩
  exact Nat.zero_le _

theorem shallow_cut (fault : TextFault) : ShallowItems limit (.cut fault) := nofun

/-- Items keep to a limit when the first does and the others do. -/
theorem shallow_item {head : Doc} {rest : Items} (first : Shallow limit head)
    (others : ShallowItems limit rest) : ShallowItems limit (.item head rest) := by
  intro trees built
  obtain ⟨tree, found, trees, later, rfl⟩ := toTrees_item_eq_ok_iff.1 built
  exact Nat.max_le.2 ⟨first tree found, others trees later⟩

theorem shallowMembers_close : ShallowMembers limit .close := by
  rintro entries ⟨⟩
  exact Nat.zero_le _

theorem shallowMembers_cut (fault : TextFault) : ShallowMembers limit (.cut fault) := nofun

theorem shallow_stray (key : Doc) : ShallowMembers limit (.stray key) := nofun

theorem shallow_member {name : String} {value : Doc} {rest : Members}
    (first : Shallow limit value) (others : ShallowMembers limit rest) :
    ShallowMembers limit (.member name value rest) := by
  intro entries built
  obtain ⟨tree, found, entries, later, rfl⟩ := toEntries_member_eq_ok_iff.1 built
  exact Nat.max_le.2 ⟨first tree found, others entries later⟩

/-! ### Reading -/

theorem shallow_of_word {letters text : List Char} {doc found : Doc} {opening : Opening}
    {after : Option { rest : List Char // rest.length ≤ text.length }}
    (read : word letters text doc opening = (found, after)) (h : Shallow limit doc) :
    Shallow limit found := by
  rcases word_cases read with rfl | ⟨fault, rfl⟩
  · exact h
  · exact shallow_broken _ _

theorem shallow_of_numeral {text : List Char} {found : Doc} {after : Option (Rest text)}
    (read : numeral text = (found, after)) : Shallow limit found := by
  rw [numeral] at read
  split at read
  · cases read
    exact shallow_broken _ _
  · split at read
    · cases read
      exact .of_tree rfl (Nat.zero_le _)
    · cases read
      exact shallow_broken _ _

mutual

/-- **What is read keeps to the depth that it is read with.** -/
theorem shallow_value {depth : Nat} {text : List Char} {found : Doc} {after : Option (Rest text)}
    (read : value depth text = (found, after)) : Shallow depth found := by
  obtain rfl : (value depth text).1 = found := congrArg Prod.fst read
  clear read
  fun_cases value depth text with
  | case1 => exact shallow_broken _ _
  | case2 => exact shallow_broken _ _
  | case3 => exact .of_tree rfl (Nat.zero_le _)
  -- one level too deep a bracket begins nothing that has a tree
  | case4 => exact nofun
  | case5 rest depth items after inner => exact shallow_array (shallow_items inner)
  | case6 => exact nofun
  | case7 rest depth members after inner => exact shallow_object (shallow_members inner)
  | case8 _ rest found after inner => exact shallow_of_word inner (.of_tree rfl (Nat.zero_le _))
  | case9 _ rest found after inner => exact shallow_of_word inner (.of_tree rfl (Nat.zero_le _))
  | case10 _ rest found after inner => exact shallow_of_word inner (.of_tree rfl (Nat.zero_le _))
  | case11 => exact shallow_of_numeral (by assumption)
  | case12 => exact shallow_broken _ _
termination_by (text.length, 0)

theorem shallow_items {depth : Nat} {text : List Char} {found : Items} {after : Option (Rest text)}
    (read : items depth text = (found, after)) : ShallowItems depth found := by
  obtain rfl : (items depth text).1 = found := congrArg Prod.fst read
  clear read
  fun_cases items depth text with
  | case1 => exact shallow_cut _
  | case2 => exact shallow_close
  | case3 => exact shallow_nextItem rfl
termination_by (text.length, 2)

theorem shallow_nextItem {depth : Nat} {text : List Char} {found : Items}
    {after : Option (Rest text)} (read : nextItem depth text = (found, after)) :
    ShallowItems depth found := by
  obtain rfl : (nextItem depth text).1 = found := congrArg Prod.fst read
  clear read
  fun_cases nextItem depth text with
  | case1 head first => exact shallow_item (shallow_value first) shallow_close
  | case2 head after first => exact shallow_item (shallow_value first) (shallow_cut _)
  | case3 head after first => exact shallow_item (shallow_value first) shallow_close
  | case4 head after first rest items final later =>
    exact shallow_item (shallow_value first) (shallow_nextItem later)
  | case5 head after first => exact shallow_item (shallow_value first) (shallow_cut _)
termination_by (text.length, 1)

theorem shallow_members {depth : Nat} {text : List Char} {found : Members}
    {after : Option (Rest text)} (read : members depth text = (found, after)) :
    ShallowMembers depth found := by
  obtain rfl : (members depth text).1 = found := congrArg Prod.fst read
  clear read
  fun_cases members depth text with
  | case1 => exact shallowMembers_cut _
  | case2 => exact shallowMembers_close
  | case3 => exact shallow_nextMember rfl
termination_by (text.length, 2)

theorem shallow_nextMember {depth : Nat} {text : List Char} {found : Members}
    {after : Option (Rest text)} (read : nextMember depth text = (found, after)) :
    ShallowMembers depth found := by
  obtain rfl : (nextMember depth text).1 = found := congrArg Prod.fst read
  clear read
  fun_cases nextMember depth text with
  | case1 => exact shallow_member (shallow_broken _ _) shallowMembers_close
  | case2 name after key rest content first =>
    exact shallow_member (shallow_value first) shallowMembers_close
  | case3 name after key rest content afterContent first =>
    exact shallow_member (shallow_value first) (shallowMembers_cut _)
  | case4 name after key rest content afterContent first =>
    exact shallow_member (shallow_value first) shallowMembers_close
  | case5 name after key rest content afterContent first rest' members final later =>
    exact shallow_member (shallow_value first) (shallow_nextMember later)
  | case6 name after key rest content afterContent first =>
    exact shallow_member (shallow_value first) (shallowMembers_cut _)
  | case7 => exact shallow_member (shallow_broken _ _) shallowMembers_close
  | case8 => exact shallow_stray _
termination_by (text.length, 1)

end

end Doc

/-- **The tree that a text writes keeps to the limit.** -/
theorem Writes.depth_le {text : String} {tree : Json} (h : Writes text tree) :
    tree.depth ≤ Reading.depthLimit := by
  obtain ⟨-, built⟩ := h
  exact Doc.shallow_value rfl tree built

/-- **The value of a text keeps to the limit** of brackets inside brackets. -/
theorem Json.depth_le_of_parse {text : String} {v : Json} (h : parse text = .ok v) :
    v.depth ≤ Reading.depthLimit := by
  obtain ⟨tree, written, rfl⟩ := parse_eq_ok_iff.1 h
  exact Nat.le_trans (depth_canonical_le tree) written.depth_le

end ChargePoint
