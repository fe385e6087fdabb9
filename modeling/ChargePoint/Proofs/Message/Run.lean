import ChargePoint.Json.Reader
import ChargePoint.Proofs.Message.Validity

/-!
# Runs

Everything that a user of the library can do to messages: build one, from its required contents or
by reading, copy one, and change a field of one.  A run is any finite list of such operations, with
any arguments at all; it works on the messages that exist, and a rejected operation adds nothing to
them.

## Main definitions

* `Source`, `Source.build`: the ways to build a message.
* `Change`, `TypedMessage.put`, `TypedMessage.change`: a change of one field, in place and by giving
  the message away.
* `Operation`, `Operation.apply`, `run`: operations, what one does, and what a list of them does.

## Main results

* `forall_mem_run`: what building establishes and changing preserves holds of every message of a
  run.
* `valid_of_mem_run`: every message of a run is valid, holds no `null` data, and is never refused.
-/

namespace ChargePoint

/-! ### Operations -/

/-- **The ways to build a message**: from its required contents, as the answer of this instant, from
what was read for its fields, and by reading a value, a text or a payload. -/
inductive Source where
  | new (t : MessageType) (contents : Record (fun f => f.kind.Value) (requiredFields t.fields))
  | now (instant : Instant)
  | fields (t : MessageType) (draft : Message.Draft t)
  | value (t : MessageType) (v : Json)
  | text (t : MessageType) (text : String)
  | payload (action : Action) (direction : Direction) (v : Json)

/-- The message that is built, unless that fails. -/
def Source.build : Source → Option TypedMessage
  | new t contents => (Message.new t contents).toOption.map (TypedMessage.mk t)
  | now instant => some ⟨_, Message.heartbeatAt instant⟩
  | fields t draft => (Message.ofDraft draft).toOption.map (TypedMessage.mk t)
  | value t v => (Message.ofJson t v).toOption.map (TypedMessage.mk t)
  | text t s =>
    let reading := Reading.ofString s
    if reading.ended then (Message.ofDoc t reading.doc).toOption.map (TypedMessage.mk t) else none
  | payload action direction v => (TypedMessage.decode action direction v).toOption

/-- **A change of one field** of a message of a type: the content that is to be set. -/
structure Change where
  type : MessageType
  field : Field
  slot : Slot type.fields field
  content : field.Content

/-- The outcome of a change in place, and the message that it leaves.  A message of another type has
no such field, and stays as it is. -/
def TypedMessage.put (m : TypedMessage) (c : Change) : Except Rejection Unit × TypedMessage :=
  if h : m.type = c.type then
    let (outcome, after) := (h ▸ m.message).put c.slot c.content
    (outcome, ⟨c.type, after⟩)
  else (.ok (), m)

/-- The message that comes back from a change by giving it away, unless the check of the field
rejects the content. -/
def TypedMessage.change (m : TypedMessage) (c : Change) : Except Rejection TypedMessage :=
  let (outcome, after) := m.put c
  outcome.map fun _ => after

/-- **What a user can do**: build a message, copy one of those that exist, change one in place, and
change one by giving it away and getting it back. -/
inductive Operation where
  | build (source : Source)
  | clone (index : Nat)
  | change (index : Nat) (c : Change)
  | exchange (index : Nat) (c : Change)

/-- The messages after a change of the one in a place, from what is left of that one. -/
def changeAt (messages : List TypedMessage) (index : Nat)
    (left : TypedMessage → Option TypedMessage) : List TypedMessage :=
  match messages[index]? with
  | none => messages
  | some m =>
    match left m with
    | some n => messages.set index n
    | none => messages.eraseIdx index

/-- **What an operation does to the messages that exist.**  A change in place leaves a message in
either outcome; one that was given away does not come back if the change is rejected. -/
def Operation.apply (messages : List TypedMessage) : Operation → List TypedMessage
  | build source => messages ++ source.build.toList
  | clone index => messages ++ messages[index]?.toList
  | change index c => changeAt messages index fun m => some (m.put c).2
  | exchange index c => changeAt messages index fun m => (m.change c).toOption

/-- **The messages that exist after a run.** -/
def run (operations : List Operation) : List TypedMessage := operations.foldl Operation.apply []

/-! ### Invariants -/

/-- A change in place leaves the message as it was, or as it comes back from the change. -/
theorem TypedMessage.put_cases (m : TypedMessage) (c : Change) :
    (m.put c).2 = m ∨ m.change c = .ok (m.put c).2 := by
  obtain ⟨t, m⟩ := m
  obtain ⟨t', f, slot, content⟩ := c
  by_cases same : t = t'
  · subst same
    rw [change, put, dif_pos rfl, Message.put_eq]
    cases f.accept content with
    | ok accepted => exact .inr rfl
    | error r => exact .inl rfl
  · rw [put, dif_neg same]
    exact .inl rfl

/-- After a change there are the messages that were there, and what is left of one of them. -/
theorem mem_changeAt {messages : List TypedMessage} {index : Nat}
    {left : TypedMessage → Option TypedMessage} {m : TypedMessage}
    (h : m ∈ changeAt messages index left) :
    m ∈ messages ∨ ∃ old ∈ messages, left old = some m := by
  unfold changeAt at h
  split at h
  · exact .inl h
  · rename_i old found
    split at h
    · rename_i n kept
      rcases List.mem_or_eq_of_mem_set h with other | rfl
      · exact .inl other
      · exact .inr ⟨old, List.mem_of_getElem? found, kept⟩
    · exact .inl (List.mem_of_mem_eraseIdx h)

/-- One operation keeps what building establishes and changing preserves. -/
theorem forall_mem_apply {p : TypedMessage → Prop} {operation : Operation}
    {messages : List TypedMessage} (before : ∀ m ∈ messages, p m)
    (built : ∀ source m, operation = .build source → source.build = some m → p m)
    (changed : ∀ index c m n, operation = .change index c ∨ operation = .exchange index c →
      p m → m.change c = .ok n → p n) :
    ∀ m ∈ operation.apply messages, p m := by
  intro m member
  cases operation with
  | build source =>
    rcases List.mem_append.1 member with old | fresh
    · exact before m old
    · exact built source m rfl (Option.mem_toList.1 fresh)
  | clone index =>
    rcases List.mem_append.1 member with old | copy
    · exact before m old
    · exact before m (List.mem_of_getElem? (Option.mem_toList.1 copy))
  | change index c =>
    have member : m ∈ changeAt messages index fun m => some (m.put c).2 := member
    rcases mem_changeAt member with old | ⟨old, there, left⟩
    · exact before m old
    · obtain rfl := Option.some.inj left
      rcases old.put_cases c with same | accepted
      · rw [same]
        exact before old there
      · exact changed index c old _ (.inl rfl) (before old there) accepted
  | exchange index c =>
    have member : m ∈ changeAt messages index fun m => (m.change c).toOption := member
    rcases mem_changeAt member with old | ⟨old, there, accepted⟩
    · exact before m old
    · exact changed index c old m (.inr rfl) (before old there) (toOption_eq_some_iff.1 accepted)

/-- **What building establishes and changing preserves holds of every message of a run.** -/
theorem forall_mem_run {p : TypedMessage → Prop} {operations : List Operation}
    (built : ∀ source m, .build source ∈ operations → source.build = some m → p m)
    (changed : ∀ index c m n, .change index c ∈ operations ∨ .exchange index c ∈ operations →
      p m → m.change c = .ok n → p n) :
    ∀ m ∈ run operations, p m := by
  -- on the operations that are left, whatever messages those before them have made
  have step (done : List TypedMessage) (h : ∀ m ∈ done, p m) :
      ∀ m ∈ operations.foldl Operation.apply done, p m := by
    induction operations generalizing done with
    | nil => exact h
    | cons operation rest ih =>
      refine ih (fun source m member => built source m (List.mem_cons_of_mem _ member))
        (fun index c m n member => changed index c m n
          (member.imp (List.mem_cons_of_mem _) (List.mem_cons_of_mem _))) _ ?_
      refine forall_mem_apply h (fun source m same => built source m ?_)
        (fun index c m n same => changed index c m n ?_)
      · rw [same]
        exact List.mem_cons_self
      · rcases same with rfl | rfl
        · exact .inl List.mem_cons_self
        · exact .inr List.mem_cons_self
  exact step [] nofun

/-! ### Messages as the checks leave them -/

/-- **A content as a check leaves it**: valid, and nothing that the check would drop. -/
def Field.Sound (f : Field) (content : f.Content) : Prop :=
  f.settle content = content ∧ f.valid content = true

theorem Field.sound_of_accept {f : Field} {x y : f.Content} (h : f.accept x = .ok y) :
    f.Sound y := by
  obtain ⟨rfl, valid⟩ := Field.accept_eq_ok_iff.1 h
  exact ⟨Field.settle_settle x, valid⟩

theorem Field.sound_of_commit {f : Field} {raw : Option f.kind.Raw} {y : f.Content}
    (h : f.commit raw = .ok y) : f.Sound y := by
  obtain ⟨x, -, accepted⟩ := Field.commit_eq_ok_iff.1 h
  exact Field.sound_of_accept accepted

/-- **A message as the checks leave it.** -/
def Message.Sound {t : MessageType} (m : Message t) : Prop :=
  ∀ f (slot : Slot t.fields f), f.Sound (m.get slot)

namespace Message

variable {t : MessageType}

/-- A message as the checks leave it is valid. -/
theorem Sound.valid {m : Message t} (h : m.Sound) : Validated.valid m = true :=
  valid_iff.2 fun f slot => (h f slot).2

theorem Sound.settled {m : Message t} (h : m.Sound) : m.Settled := fun f slot => (h f slot).1

theorem Sound.isNull_eq_false {m : Message t} (h : m.Sound) {f : Field} {slot : Slot t.fields f}
    {value : f.kind.Value} (there : f.value? (m.get slot) = some value) :
    f.kind.isNull value = false :=
  Message.isNull_eq_false (settled_iff.1 h.settled) there

theorem Sound.kind_valid {m : Message t} (h : m.Sound) {f : Field} {slot : Slot t.fields f}
    {value : f.kind.Value} (there : f.value? (m.get slot) = some value) :
    f.kind.valid value = true := by
  have whole := (h f slot).2
  rwa [Field.valid, there] at whole

/-- **What a message made from its required contents holds**: each of them as it was accepted, and
nothing else. -/
theorem forall_requiredContents {p : (f : Field) → f.Content → Prop} {fields : List Field}
    {values : Record (fun f => f.kind.Value) (requiredFields fields)}
    {contents : Record Field.Content fields} (h : requiredContents fields values = .ok contents)
    (required : ∀ label kind (slot : Slot (requiredFields fields) ⟨label, kind, .required⟩)
      (y : kind.Value), kind.accept label (values.get slot) = .ok y → p ⟨label, kind, .required⟩ y)
    (optional : ∀ label kind, p ⟨label, kind, .optional⟩ none) :
    ∀ f (slot : Slot fields f), p f (contents.get slot) := by
  induction fields with
  | nil => exact nofun
  | cons f fields ih =>
    match f, values with
    | ⟨label, kind, .required⟩, .cons value rest =>
      obtain ⟨head, hh, made⟩ := bind_eq_ok_iff.1 h
      obtain ⟨tail, ht, made⟩ := bind_eq_ok_iff.1 made
      cases made
      refine Slot.forall_cons_iff.2 ⟨required label kind .first head hh, ?_⟩
      exact ih ht fun label kind slot => required label kind (.next slot)
    | ⟨label, kind, .optional⟩, rest =>
      obtain ⟨tail, ht, made⟩ := bind_eq_ok_iff.1 h
      cases made
      exact Slot.forall_cons_iff.2 ⟨optional label kind, ih ht required⟩

theorem sound_new {contents : Record (fun f => f.kind.Value) (requiredFields t.fields)}
    {m : Message t} (h : new t contents = .ok m) : m.Sound := by
  obtain ⟨made, hm, rfl⟩ := map_eq_ok_iff.1 h
  exact forall_requiredContents hm
    (fun label kind _ _ accepted => Field.sound_of_accept (f := ⟨label, kind, .required⟩) accepted)
    fun _ _ => ⟨rfl, rfl⟩

theorem sound_heartbeatAt (instant : Instant) : (heartbeatAt instant).Sound :=
  Slot.forall_cons_iff.2 ⟨⟨rfl, rfl⟩, Slot.forall_cons_iff.2 ⟨⟨rfl, rfl⟩, nofun⟩⟩

theorem sound_ofDraft {draft : Draft t} {m : Message t} (h : ofDraft draft = .ok m) : m.Sound :=
  fun f slot => Field.sound_of_commit (ofDraft_eq_ok_iff.1 h f slot)

/-- A change by giving the message away keeps it as the checks leave it. -/
theorem sound_set {f : Field} {slot : Slot t.fields f} {content : f.Content} {m n : Message t}
    (before : m.Sound) (h : m.set slot content = .ok n) : n.Sound := by
  rw [set_eq] at h
  obtain ⟨accepted, ha, rfl⟩ := map_eq_ok_iff.1 h
  exact fun g other => Record.forall_get_set before slot (Field.sound_of_accept ha) other

end Message

/-- **Every way to build a message** puts it together field by field. -/
theorem Source.sound_build {source : Source} {m : TypedMessage} (h : source.build = some m) :
    m.message.Sound := by
  cases source with
  | new t contents =>
    obtain ⟨n, hn, rfl⟩ := Option.map_eq_some_iff.1 h
    exact Message.sound_new (toOption_eq_some_iff.1 hn)
  | now instant =>
    cases h
    exact Message.sound_heartbeatAt instant
  | fields t draft =>
    obtain ⟨n, hn, rfl⟩ := Option.map_eq_some_iff.1 h
    exact Message.sound_ofDraft (toOption_eq_some_iff.1 hn)
  | value t v =>
    obtain ⟨n, hn, rfl⟩ := Option.map_eq_some_iff.1 h
    obtain ⟨draft, -, hn⟩ := bind_eq_ok_iff.1 (toOption_eq_some_iff.1 hn)
    exact Message.sound_ofDraft (mapError_eq_ok_iff.1 hn)
  | text t s =>
    simp only [build] at h
    split at h
    · obtain ⟨n, hn, rfl⟩ := Option.map_eq_some_iff.1 h
      obtain ⟨draft, -, hn⟩ := bind_eq_ok_iff.1 (toOption_eq_some_iff.1 hn)
      exact Message.sound_ofDraft (mapError_eq_ok_iff.1 hn)
    · cases h
  | payload action direction v =>
    obtain ⟨n, hn, made⟩ := bind_eq_ok_iff.1 (toOption_eq_some_iff.1 h)
    cases made
    obtain ⟨draft, -, hn⟩ := bind_eq_ok_iff.1 hn
    exact Message.sound_ofDraft (mapError_eq_ok_iff.1 hn)

/-- A change that is accepted leaves a message of another type, and else sets the field. -/
theorem TypedMessage.change_cases {m n : TypedMessage} {c : Change} (h : m.change c = .ok n) :
    n = m ∨ ∃ before after : Message c.type,
      m = ⟨c.type, before⟩ ∧ n = ⟨c.type, after⟩ ∧ before.set c.slot c.content = .ok after := by
  obtain ⟨t, m⟩ := m
  obtain ⟨t', f, slot, content⟩ := c
  by_cases same : t = t'
  · subst same
    rw [change, put, dif_pos rfl] at h
    obtain ⟨_, accepted, rfl⟩ := map_eq_ok_iff.1 h
    refine .inr ⟨m, _, rfl, rfl, ?_⟩
    exact map_eq_ok_iff.2 ⟨_, accepted, rfl⟩
  · rw [change, put, dif_neg same] at h
    cases h
    exact .inl rfl

/-- **A change keeps a message as the checks leave it.** -/
theorem TypedMessage.sound_change {m n : TypedMessage} {c : Change} (before : m.message.Sound)
    (h : m.change c = .ok n) : n.message.Sound := by
  rcases change_cases h with rfl | ⟨old, new, rfl, rfl, accepted⟩
  · exact before
  · exact Message.sound_set before accepted

/-- **Every message of a run is as the checks leave it.** -/
theorem sound_of_mem_run {operations : List Operation} {m : TypedMessage}
    (h : m ∈ run operations) : m.message.Sound :=
  forall_mem_run (p := fun m => m.message.Sound) (fun _ _ _ built => Source.sound_build built)
    (fun _ _ _ _ _ before changed => TypedMessage.sound_change before changed) m h

/-- A valid message has a payload. -/
theorem encode_eq_ok {t : MessageType} {m : Message t} (valid : Validated.valid m = true) :
    encode m = .ok m.write.canonical := by
  rw [encode, if_pos valid]
  rfl

/-- **Every message of a run is valid.**  It holds no data that are `null`, and is refused neither
as a payload, nor as a request under an id, nor as a response under one.  A run that is broken off
is a run as well, so this holds at every point of one. -/
theorem valid_of_mem_run {operations : List Operation} {m : TypedMessage}
    (h : m ∈ run operations) :
    Validated.valid m = true ∧
      (∀ slot : Slot m.type.fields MessageType.data, m.message.get slot ≠ some .null) ∧
      (∃ p, m.payload = .ok p) ∧
      ∀ id, (∃ call, Call.new id m.message = .ok call ∧
          call.messageId = id ∧ call.request = m.message) ∧
        ∃ result, CallResult.new id m.message = .ok result ∧
          result.messageId = id ∧ result.response = m.message := by
  have sound := sound_of_mem_run h
  have valid : Validated.valid m.message = true := sound.valid
  refine ⟨valid, Message.settled_iff.1 sound.settled, ⟨_, encode_eq_ok valid⟩, fun id => ⟨?_, ?_⟩⟩
  · refine ⟨⟨id, m.message, valid⟩, ?_, rfl, rfl⟩
    rw [Call.new, dif_pos valid]
  · refine ⟨⟨id, m.message, valid⟩, ?_, rfl, rfl⟩
    rw [CallResult.new, dif_pos valid]

/-- Status information with a forbidden property, built by hand, is rejected, and the message that
it was meant for goes on as it was. -/
theorem payload_after_rejection :
    let accepted : Status .cancelReservation := ⟨"Accepted", by decide⟩
    let info : StatusInfo := ⟨some ⟨"acme", [("vendorId", .bool true)]⟩, "Busy", none⟩
    let operations : List Operation :=
      [.build (.new ⟨.cancelReservation, .response⟩ (.cons accepted .nil)),
        .change 0 ⟨⟨.cancelReservation, .response⟩, _, .next (.next .first), some info⟩]
    let m : TypedMessage :=
      ⟨⟨.cancelReservation, .response⟩, ⟨.cons none (.cons accepted (.cons none .nil))⟩⟩
    m ∈ run operations ∧ ∃ p, m.payload = .ok p := by
  intro accepted info operations m
  have member : m ∈ run operations := by
    have all : run operations = [m] := rfl
    rw [all]
    exact List.mem_singleton_self m
  exact ⟨member, (valid_of_mem_run member).2.2.1⟩

end ChargePoint
