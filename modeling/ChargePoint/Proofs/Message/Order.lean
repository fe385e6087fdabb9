import ChargePoint.Proofs.Message.Run

/-!
# Names in order

The properties of custom data and the members of data are kept by name, so their names ascend at
every level.  Whatever is read has its names in order, from a value and from a text; a message has
them in order as long as everything that was set in it had.

## Main definitions

* `Kind.Ordered`, `Field.Ordered`, `Message.Ordered`: the names in a content, and in a message.
* `Source.Ordered`, `Operation.Ordered`: the names in what an operation is given.

## Main results

* `Message.ordered_of_readDraft`, `Message.ordered_of_ofDoc`: what is read is in order.
* `ordered_of_mem_run`: every message of a run on ordered arguments is in order.
-/

namespace ChargePoint

/-! ### What messages hold -/

namespace Kind

/-- The names in a content are in order. -/
def Ordered : (k : Kind) → k.Value → Prop
  | customData => CustomData.Ordered
  | statusInfo => StatusInfo.Ordered
  | data => VendorValue.Ordered
  | _ => fun _ => True

theorem ordered_of_ofJson {k : Kind} {w : Json} {x : k.Value} (h : k.ofJson w = .ok (k.widen x)) :
    k.Ordered x := by
  cases k with
  | customData => exact CustomData.ordered_of_ofJson h
  | statusInfo => exact StatusInfo.ordered_of_ofJson h
  | data => exact VendorValue.ordered_of_read (v := w) h
  | _ => trivial

theorem ordered_of_ofDoc {k : Kind} {doc : Doc} {x : k.Value}
    (h : k.ofDoc doc = .ok (k.widen x)) : k.Ordered x := by
  cases k with
  | customData => exact CustomData.ordered_of_ofDoc h
  | statusInfo => exact StatusInfo.ordered_of_ofDoc h
  | data =>
    obtain ⟨tree, -, h⟩ := bind_eq_ok_iff.1 h
    exact VendorValue.ordered_of_read (mapError_eq_ok_iff.1 h)
  | _ => trivial

end Kind

/-- The names in what a message holds for a field are in order. -/
def Field.Ordered (f : Field) (content : f.Content) : Prop :=
  ∀ x ∈ f.value? content, f.kind.Ordered x

/-- A check may drop what a field holds, and puts nothing in its place. -/
theorem Field.ordered_settle {f : Field} {content : f.Content} (h : f.Ordered content) :
    f.Ordered (f.settle content) := by
  match f with
  | ⟨_, _, .required⟩ => exact h
  | ⟨_, kind, .optional⟩ =>
    intro x there
    exact h x (Option.filter_eq_some_iff.1 there).1

theorem Field.ordered_of_accept {f : Field} {x y : f.Content} (ordered : f.Ordered x)
    (h : f.accept x = .ok y) : f.Ordered y := by
  obtain ⟨rfl, -⟩ := Field.accept_eq_ok_iff.1 h
  exact Field.ordered_settle ordered

/-- The names in what was read for a field are in order. -/
def Field.ReadOrdered (f : Field) (raw : Option f.kind.Raw) : Prop :=
  ∀ x, raw = some (f.kind.widen x) → f.kind.Ordered x

namespace Message

variable {t : MessageType}

/-- **The names in a message are in order.** -/
def Ordered (m : Message t) : Prop := ∀ f (slot : Slot t.fields f), f.Ordered (m.get slot)

/-- The names in what was read for the fields of a message are in order. -/
def Draft.Ordered (draft : Draft t) : Prop :=
  ∀ f (slot : Slot t.fields f), f.ReadOrdered (draft.get slot)

theorem Draft.ordered_join {read : t.form.Draft}
    (ordered : Structure.Draft.All Field.ReadOrdered read) :
    Draft.Ordered (read.map fun _ content => content.join) := by
  intro f slot x there
  have joined := (Record.get_map (fun _ content => content.join) read slot).symm.trans there
  exact ordered f slot _ (Option.join_eq_some_iff.1 joined) x rfl

/-- What a field holds was read for it, so it is as much in order. -/
theorem ordered_of_ofDraft {draft : Draft t} {m : Message t} (ordered : draft.Ordered)
    (h : ofDraft draft = .ok m) : m.Ordered := by
  intro f slot
  obtain ⟨x, read, accepted⟩ := Field.commit_eq_ok_iff.1 (ofDraft_eq_ok_iff.1 h f slot)
  refine Field.ordered_of_accept (fun value there => ordered f slot value ?_) accepted
  rw [read, Option.mem_def.1 there]
  rfl

/-- **What is read is in order**, from a value and from a document. -/
theorem ordered_of_readDraft {v : Json} {draft : Draft t} (h : readDraft t v = .ok draft) :
    draft.Ordered := by
  obtain ⟨read, hr, made⟩ := bind_eq_ok_iff.1 h
  cases made
  have all := Structure.all_of_ofJson (p := Field.ReadOrdered)
    (fun f w y hy x there => Kind.ordered_of_ofJson (read_of_orNull hy there)) hr
  exact Draft.ordered_join all

@[inherit_doc ordered_of_readDraft]
theorem ordered_of_ofDoc {doc : Doc} {m : Message t} (h : ofDoc t doc = .ok m) : m.Ordered := by
  obtain ⟨read, hr, made⟩ := bind_eq_ok_iff.1 h
  have all := Structure.all_of_ofDoc (p := Field.ReadOrdered)
    (fun f w y hy x there => Kind.ordered_of_ofDoc (read_of_orNull_doc hy there)) hr
  exact ordered_of_ofDraft (Draft.ordered_join all) (mapError_eq_ok_iff.1 made)

theorem ordered_of_ofJson {v : Json} {m : Message t} (h : ofJson t v = .ok m) : m.Ordered := by
  obtain ⟨draft, read, made⟩ := bind_eq_ok_iff.1 h
  exact ordered_of_ofDraft (ordered_of_readDraft read) (mapError_eq_ok_iff.1 made)

theorem ordered_of_decode {v : Json} {m : Message t} (h : decode (Message t) v = .ok m) :
    m.Ordered := by
  obtain ⟨draft, read, made⟩ := bind_eq_ok_iff.1 h
  exact ordered_of_ofDraft (ordered_of_readDraft (mapError_eq_ok_iff.1 read))
    (mapError_eq_ok_iff.1 made)

/-- Contents are accepted as they are, so they stay in order. -/
theorem ordered_new {contents : Record (fun f => f.kind.Value) (requiredFields t.fields)}
    {m : Message t}
    (ordered : ∀ f (slot : Slot (requiredFields t.fields) f), f.kind.Ordered (contents.get slot))
    (h : new t contents = .ok m) : m.Ordered := by
  obtain ⟨made, hm, rfl⟩ := map_eq_ok_iff.1 h
  refine forall_requiredContents (p := Field.Ordered) hm ?_ ?_
  · intro label kind slot y accepted x there
    obtain ⟨rfl, -⟩ := Kind.accept_eq_ok_iff.1 accepted
    cases there
    exact ordered _ slot
  · intro label kind x there
    cases there

theorem ordered_heartbeatAt (instant : Instant) : (heartbeatAt instant).Ordered := by
  refine Slot.forall_cons_iff.2 ⟨nofun, Slot.forall_cons_iff.2 ⟨?_, nofun⟩⟩
  intro x there
  trivial

theorem ordered_set {f : Field} {slot : Slot t.fields f} {content : f.Content} {m n : Message t}
    (before : m.Ordered) (ordered : f.Ordered content) (h : m.set slot content = .ok n) :
    n.Ordered := by
  rw [set_eq] at h
  obtain ⟨accepted, ha, rfl⟩ := map_eq_ok_iff.1 h
  exact fun g other => Record.forall_get_set before slot (Field.ordered_of_accept ordered ha) other

end Message

/-! ### Runs -/

/-- The names in what a message is built from are in order, where it is not read. -/
def Source.Ordered : Source → Prop
  | new t contents =>
    ∀ f (slot : Slot (requiredFields t.fields) f), f.kind.Ordered (contents.get slot)
  | fields _ draft => draft.Ordered
  | now _ => True
  | value _ _ => True
  | text _ _ => True
  | payload _ _ _ => True

/-- The names in what an operation is given are in order. -/
def Operation.Ordered : Operation → Prop
  | build source => source.Ordered
  | clone _ => True
  | change _ c => c.field.Ordered c.content
  | exchange _ c => c.field.Ordered c.content

/-- **Whatever is built from contents in order is in order**, and so is whatever is read. -/
theorem Source.ordered_build {source : Source} {m : TypedMessage} (ordered : source.Ordered)
    (h : source.build = some m) : m.message.Ordered := by
  cases source with
  | new t contents =>
    obtain ⟨n, hn, rfl⟩ := Option.map_eq_some_iff.1 h
    exact Message.ordered_new ordered (toOption_eq_some_iff.1 hn)
  | now instant =>
    cases h
    exact Message.ordered_heartbeatAt instant
  | fields t draft =>
    obtain ⟨n, hn, rfl⟩ := Option.map_eq_some_iff.1 h
    exact Message.ordered_of_ofDraft ordered (toOption_eq_some_iff.1 hn)
  | value t v =>
    obtain ⟨n, hn, rfl⟩ := Option.map_eq_some_iff.1 h
    exact Message.ordered_of_ofJson (toOption_eq_some_iff.1 hn)
  | text t s =>
    simp only [build] at h
    split at h
    · obtain ⟨n, hn, rfl⟩ := Option.map_eq_some_iff.1 h
      exact Message.ordered_of_ofDoc (toOption_eq_some_iff.1 hn)
    · cases h
  | payload action direction v =>
    obtain ⟨n, hn, made⟩ := bind_eq_ok_iff.1 (toOption_eq_some_iff.1 h)
    cases made
    exact Message.ordered_of_decode hn

/-- A change to a content in order leaves a message in order. -/
theorem TypedMessage.ordered_change {m n : TypedMessage} {c : Change} (before : m.message.Ordered)
    (ordered : c.field.Ordered c.content) (h : m.change c = .ok n) : n.message.Ordered := by
  rcases change_cases h with rfl | ⟨old, new, rfl, rfl, accepted⟩
  · exact before
  · exact Message.ordered_set before ordered accepted

/-- **Every message of a run on ordered arguments is in order.** -/
theorem ordered_of_mem_run {operations : List Operation}
    (ordered : ∀ operation ∈ operations, operation.Ordered) {m : TypedMessage}
    (h : m ∈ run operations) : m.message.Ordered := by
  refine forall_mem_run (p := fun m => m.message.Ordered) ?_ ?_ m h
  · intro source n member built
    exact Source.ordered_build (ordered _ member) built
  · intro index c n n' member before changed
    have arguments : c.field.Ordered c.content := member.elim (ordered _) (ordered _)
    exact TypedMessage.ordered_change before arguments changed

end ChargePoint
