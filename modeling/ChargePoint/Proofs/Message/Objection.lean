import ChargePoint.Proofs.Message.Refusal

/-!
# True rejections

A rejection names a field, shows a value and gives a reason.  It is true of an argument if it names
the field that the argument was given for, and the argument breaks its predicate in the way that the
reason says: a string is longer than the field allows, by the count of its characters; an integer
lies outside 32 bits; a part is there and is not valid; a required argument is not there.  Every
call that can be rejected is rejected exactly when there is something true to object to one of its
arguments, and with that.

## Main definitions

* `Kind.Objection`, `Field.Objection`: the reasons that are true of an argument.
* `Field.Rejects`: the rejections that are true of an argument.
* `Truthful`: a call whose rejections are true, and that is rejected if it can truly be.

## Main results

* `Field.commit_eq_error_iff`, `Field.accept_eq_error_iff`: what is rejected for a field.
* `Message.truthful_new`, `Message.truthful_ofDraft`: messages put together.
* `rejections_truthful`: every constructor, every change of a part, and what was read.
-/

namespace ChargePoint

open Grammar (Plain plain_of_required failure?_accept)

/-! ### Objections -/

/-- **A reason that is true of a content**, as it was given or read. -/
inductive Kind.Objection : (k : Kind) → k.Raw → Reason → Prop
  /-- The string is longer than the limit, and has as many characters as it is said to have. -/
  | tooLong {limit : Nat} {s : String} (long : limit < s.length) :
    Objection (.text limit) s (.tooLong limit s.length)
  /-- The integer lies strictly outside the bounds, which are those of 32 bits. -/
  | outOfRange {n : Int} (outside : n < -(2 ^ (31 : Nat)) ∨ 2 ^ (31 : Nat) - 1 < n) :
    Objection .integer n (.outOfRange (-(2 ^ (31 : Nat))) (2 ^ (31 : Nat) - 1))
  /-- The custom data are there, and not valid. -/
  | customData {c : CustomData} (invalid : Validated.valid c = false) :
    Objection .customData c .invalidPart
  /-- The status information is there, and not valid. -/
  | statusInfo {i : StatusInfo} (invalid : Validated.valid i = false) :
    Objection .statusInfo i .invalidPart

/-- **A reason that is true of what was given for a field**, if anything was: a required field was
left out, or the content can be objected to. -/
inductive Field.Objection (f : Field) : Option f.kind.Raw → Reason → Prop
  | missing (required : f.presence = .required) : f.Objection none .missing
  | content {raw : f.kind.Raw} {reason : Reason} (objection : f.kind.Objection raw reason) :
    f.Objection (some raw) reason

/-- How a content is shown that can be objected to. -/
def Kind.shown : (k : Kind) → k.Raw → String
  | .text _ => fun s => Diagnostic.text s
  | .integer => fun n => Diagnostic.text n
  | .customData => fun c => Diagnostic.text (some c)
  | .statusInfo => fun i => Diagnostic.text (some i)
  | _ => fun _ => ""

/-- How what was given for a field is shown. -/
def Field.shown (f : Field) : Option f.kind.Raw → String
  | none => "null"
  | some raw => f.kind.shown raw

/-- **A rejection that is true of what was given for a field**: it names the field as payloads do,
shows what was given, and its reason is true of that. -/
structure Field.Rejects (f : Field) (raw : Option f.kind.Raw) (r : Rejection) : Prop where
  field : r.field = f.label
  value : r.value = f.shown raw
  reason : f.Objection raw r.reason

/-- **A call is rejected truthfully**: with a rejection that is true of an argument, and whenever
there is one. -/
structure Truthful {α : Type} (result : Except Rejection α) (true_of : Rejection → Prop) :
    Prop where
  true_of_error {r : Rejection} (h : result = .error r) : true_of r
  error_of_true {r : Rejection} (h : true_of r) : ∃ first, result = .error first

/-! ### Contents -/

namespace Kind

variable {k : Kind} {label : String} {r : Rejection}

/-- **A content that may be absent is rejected** for a reason that is true of it, and only so. -/
theorem acceptOptional_narrow_eq_error_iff {raw : k.Raw} :
    (do k.acceptOptional label (some (← k.narrow label raw))) = .error r ↔
      ∃ reason, k.Objection raw reason ∧
        r = { field := label, value := k.shown raw, reason } := by
  cases k with
  | text limit =>
    refine (map_eq_error_iff.trans acceptText_eq_error_iff).trans ⟨?_, ?_⟩
    · rintro ⟨long, rfl⟩
      exact ⟨_, .tooLong long, rfl⟩
    · rintro ⟨_, objection, rfl⟩
      cases objection with
      | tooLong long => exact ⟨long, rfl⟩
  | integer =>
    refine (bind_pure_eq_error_iff.trans acceptInteger_eq_error_iff).trans ⟨?_, ?_⟩
    · rintro ⟨outside, rfl⟩
      exact ⟨_, .outOfRange outside, rfl⟩
    · rintro ⟨_, objection, rfl⟩
      cases objection with
      | outOfRange outside => exact ⟨outside, rfl⟩
  | customData =>
    refine acceptPart_eq_error_iff.trans ⟨?_, ?_⟩
    · rintro ⟨c, there, invalid, rfl⟩
      cases there
      exact ⟨_, .customData invalid, rfl⟩
    · rintro ⟨_, objection, rfl⟩
      cases objection with
      | customData invalid => exact ⟨_, rfl, invalid, rfl⟩
  | statusInfo =>
    refine acceptPart_eq_error_iff.trans ⟨?_, ?_⟩
    · rintro ⟨i, there, invalid, rfl⟩
      cases there
      exact ⟨_, .statusInfo invalid, rfl⟩
    · rintro ⟨_, objection, rfl⟩
      cases objection with
      | statusInfo invalid => exact ⟨_, rfl, invalid, rfl⟩
  | status v => exact iff_of_false nofun fun | ⟨_, objection, _⟩ => nomatch objection
  | instant => exact iff_of_false nofun fun | ⟨_, objection, _⟩ => nomatch objection
  | data => exact iff_of_false nofun fun | ⟨_, objection, _⟩ => nomatch objection

theorem acceptOptional_none : k.acceptOptional label none = .ok none := by
  cases k <;> rfl

/-- What a message can hold is narrowed to itself. -/
theorem narrow_widen (x : k.Value) : k.narrow label (k.widen x) = .ok x := narrow_eq_ok_iff.2 rfl

/-- A content that has to be there is rejected for what one that may be absent is. -/
theorem accept_narrow_eq_error_iff (plain : Plain k) {raw : k.Raw} :
    (do k.accept label (← k.narrow label raw)) = .error r ↔
      ∃ reason, k.Objection raw reason ∧
        r = { field := label, value := k.shown raw, reason } := by
  have same : failure? (do k.accept label (← k.narrow label raw)) =
      failure? (do k.acceptOptional label (some (← k.narrow label raw))) :=
    failure?_bind_congr fun x => failure?_accept plain
  rw [← failure?_eq_some_iff, same, failure?_eq_some_iff, acceptOptional_narrow_eq_error_iff]

end Kind

/-! ### Fields -/

namespace Field

variable {f : Field} {r : Rejection}

/-- The rejections that are true where nothing was given. -/
theorem rejects_none_iff :
    f.Rejects none r ↔
      f.presence = .required ∧ r = { field := f.label, value := "null", reason := .missing } := by
  constructor
  · obtain ⟨field, value, reason⟩ := r
    rintro ⟨rfl, rfl, objection⟩
    cases objection with
    | missing required => exact ⟨required, rfl⟩
  · rintro ⟨required, rfl⟩
    exact ⟨rfl, rfl, .missing required⟩

/-- The rejections that are true of a content. -/
theorem rejects_some_iff {raw : f.kind.Raw} :
    f.Rejects (some raw) r ↔ ∃ reason, f.kind.Objection raw reason ∧
      r = { field := f.label, value := f.kind.shown raw, reason } := by
  constructor
  · obtain ⟨field, value, reason⟩ := r
    rintro ⟨rfl, rfl, objection⟩
    cases objection with
    | content objection => exact ⟨reason, objection, rfl⟩
  · rintro ⟨reason, objection, rfl⟩
    exact ⟨rfl, rfl, .content objection⟩

/-- **What was read for a field is rejected** with a rejection that is true of it, and only so. -/
theorem commit_eq_error_iff (plain : f.presence = .required → Plain f.kind)
    {raw : Option f.kind.Raw} : f.commit raw = .error r ↔ f.Rejects raw r := by
  match f, raw with
  | ⟨label, kind, .required⟩, none =>
    have first : commit ⟨label, kind, .required⟩ none = .error r ↔
        demand label (none : Option kind.Raw) = .error r :=
      bind_eq_error_iff.trans (or_iff_left fun ⟨_, there, _⟩ => nomatch there)
    rw [rejects_none_iff, first, demand_eq_error_iff, and_iff_right rfl, and_iff_right rfl]
  | ⟨label, kind, .required⟩, some raw =>
    rw [rejects_some_iff, ← Kind.accept_narrow_eq_error_iff (plain rfl)]
    rfl
  | ⟨label, kind, .optional⟩, none =>
    rw [rejects_none_iff]
    show kind.acceptOptional label none = .error r ↔ _
    rw [Kind.acceptOptional_none]
    exact iff_of_false nofun fun | ⟨required, _⟩ => nomatch required
  | ⟨label, kind, .optional⟩, some raw =>
    rw [rejects_some_iff, ← Kind.acceptOptional_narrow_eq_error_iff]
    rfl

/-- A content that is set is checked as if it had been read. -/
theorem commit_widen (x : f.Content) : f.commit ((f.value? x).map f.kind.widen) = f.accept x := by
  match f, x with
  | ⟨label, kind, .required⟩, x =>
    show (do kind.accept label (← kind.narrow label (kind.widen x))) = _
    rw [Kind.narrow_widen]
    rfl
  | ⟨label, kind, .optional⟩, none => rfl
  | ⟨label, kind, .optional⟩, some x =>
    show (do kind.acceptOptional label (some (← kind.narrow label (kind.widen x)))) = _
    rw [Kind.narrow_widen]
    rfl

/-- **A content that is set is rejected** with a rejection that is true of it, and only so. -/
theorem accept_eq_error_iff (plain : f.presence = .required → Plain f.kind) {x : f.Content} :
    f.accept x = .error r ↔ f.Rejects ((f.value? x).map f.kind.widen) r := by
  rw [← commit_widen, commit_eq_error_iff plain]

/-- A content that has to be there is rejected with a rejection that is true of it. -/
theorem kind_accept_eq_error_iff (plain : Plain f.kind) {x : f.kind.Value} :
    f.kind.accept f.label x = .error r ↔ f.Rejects (some (f.kind.widen x)) r := by
  rw [rejects_some_iff, ← Kind.accept_narrow_eq_error_iff plain, Kind.narrow_widen, ok_bind]

end Field

/-! ### Messages -/

theorem mem_requiredFields_iff {fields : List Field} {f : Field} :
    f ∈ requiredFields fields ↔ f ∈ fields ∧ f.presence = .required := by
  induction fields with
  | nil => simp [requiredFields]
  | cons g fields ih =>
    match g with
    | ⟨label, kind, .required⟩ => grind [requiredFields]
    | ⟨label, kind, .optional⟩ => grind [requiredFields]

namespace Message

variable {t : MessageType}

/-- Making contents from the required ones fails where accepting these one by one does. -/
theorem failure?_requiredContents {fields : List Field}
    (values : Record (fun f => f.kind.Value) (requiredFields fields)) :
    failure? (requiredContents fields values) =
      failure? (values.mapM (β := fun f => f.kind.Value) fun f => f.kind.accept f.label) := by
  induction fields with
  | nil =>
    cases values
    rfl
  | cons f fields ih =>
    match f, values with
    | ⟨label, kind, .required⟩, .cons value rest =>
      refine failure?_bind_congr fun _ => ?_
      exact (failure?_bind_pure _ _).trans ((ih rest).trans (failure?_bind_pure _ _).symm)
    | ⟨label, kind, .optional⟩, values =>
      exact (failure?_bind_pure _ _).trans (ih values)

/-- **A constructor is rejected truthfully.** -/
theorem truthful_new (contents : Record (fun f => f.kind.Value) (requiredFields t.fields)) :
    Truthful (new t contents) fun r => ∃ f, ∃ slot : Slot (requiredFields t.fields) f,
      f.Rejects (some (f.kind.widen (contents.get slot))) r := by
  have plain {f : Field} (slot : Slot (requiredFields t.fields) f) : Plain f.kind := by
    rcases mem_requiredFields_iff.1 slot.mem with ⟨there, required⟩
    exact plain_of_required there required
  have same : failure? (new t contents) =
      failure? (contents.mapM (β := fun f => f.kind.Value) fun f => f.kind.accept f.label) :=
    (failure?_bind_pure _ _).trans (failure?_requiredContents contents)
  constructor
  · intro r rejected
    rw [← failure?_eq_some_iff, same, failure?_eq_some_iff] at rejected
    rcases Record.exists_of_mapM_eq_error rejected with ⟨f, slot, there⟩
    exact ⟨f, slot, (Field.kind_accept_eq_error_iff (plain slot)).1 there⟩
  · rintro r ⟨f, slot, rejects⟩
    have rejected := (Field.kind_accept_eq_error_iff (plain slot)).2 rejects
    rcases Record.exists_mapM_eq_error (f := fun f : Field => f.kind.accept f.label) rejected with
      ⟨first, failed⟩
    refine ⟨first, failure?_eq_some_iff.1 ?_⟩
    rw [same, failed]
    rfl

theorem commit_of_commitRequired {f : Field} {raw : Option f.kind.Raw} {r : Rejection}
    (h : commitRequired f raw = .error r) : f.commit raw = .error r := by
  unfold commitRequired at h
  split at h
  · exact map_eq_error_iff.1 h
  · cases h

/-- **Putting a message together from what was read is rejected truthfully.** -/
theorem truthful_ofDraft (draft : Draft t) :
    Truthful (ofDraft draft) fun r => ∃ f, ∃ slot : Slot t.fields f,
      f.Rejects (draft.get slot) r := by
  have commit {f : Field} (slot : Slot t.fields f) {r : Rejection} :
      f.commit (draft.get slot) = .error r ↔ f.Rejects (draft.get slot) r :=
    Field.commit_eq_error_iff (plain_of_required slot.mem)
  constructor
  · intro r rejected
    -- in the first pass only the required fields are looked at, in the second all of them
    rcases bind_eq_error_iff.1 rejected with first | ⟨_, -, second⟩
    · rcases Record.exists_of_mapM_eq_error first with ⟨f, slot, there⟩
      exact ⟨f, slot, (commit slot).1 (commit_of_commitRequired there)⟩
    · rcases Record.exists_of_mapM_eq_error (bind_pure_eq_error_iff.1 second) with ⟨f, slot, there⟩
      exact ⟨f, slot, (commit slot).1 there⟩
  · rintro r ⟨f, slot, rejects⟩
    have rejected := (commit slot).2 rejects
    cases made : ofDraft draft with
    | error first => exact ⟨first, rfl⟩
    | ok m =>
      have here := ofDraft_eq_ok_iff.1 made f slot
      rw [rejected] at here
      cases here

/-- A change is rejected as its content would be. -/
theorem set_eq_error_iff {m : Message t} {f : Field} {slot : Slot t.fields f} {content : f.Content}
    {r : Rejection} :
    m.set slot content = .error r ↔ f.Rejects ((f.value? content).map f.kind.widen) r := by
  rw [set_eq, map_eq_error_iff, Field.accept_eq_error_iff (plain_of_required slot.mem)]

end Message

/-- The strings of messages, each with its limit. -/
def MessageType.textLimits : List (String × Nat) :=
  [("checksum", 32), ("transactionId", 36), ("messageId", 50), ("vendorId", 255)]

theorem MessageType.mem_textLimits {t : MessageType} {f : Field} (member : f ∈ t.fields)
    {limit : Nat} (h : f.kind = .text limit) : (f.label, limit) ∈ textLimits := by
  have all : (t.fields.all fun f => match f.kind with
      | .text limit => decide ((f.label, limit) ∈ textLimits)
      | _ => true) = true := by
    obtain ⟨action, direction⟩ := t
    cases action <;> cases direction <;> decide
  have here := List.all_eq_true.1 all f member
  rw [h] at here
  exact of_decide_eq_true here

/-- **Rejections are truthful.**

* Custom data and status information are rejected by their constructors exactly if the string is
  longer than the field allows: the rejection names the field, shows the string, and gives the limit
  and the number of characters.  Status information is rejected with other further text or custom
  data exactly if those are there and too long or not valid.
* A message is rejected with another content of a field exactly with a rejection that is true of the
  content: it names the field, shows the content, and gives a reason that is true.
* A constructor of messages, and putting one together from what was read, are rejected with a
  rejection that is true of one of the arguments, and whenever there is one.
* The limit of a string is that of its field. -/
theorem rejections_truthful :
    ((∀ s r, CustomData.new s = .error r ↔
        255 < s.length ∧ r.field = "vendorId" ∧ r.value = Diagnostic.text s ∧
          r.reason = .tooLong 255 s.length) ∧
      (∀ s r, StatusInfo.new s = .error r ↔
        20 < s.length ∧ r.field = "reasonCode" ∧ r.value = Diagnostic.text s ∧
          r.reason = .tooLong 20 s.length) ∧
      (∀ (i : StatusInfo) text r, i.setAdditionalInfo text = .error r ↔
        ∃ s, text = some s ∧ 512 < s.length ∧ r.field = "additionalInfo" ∧
          r.value = Diagnostic.text s ∧ r.reason = .tooLong 512 s.length) ∧
      ∀ (i : StatusInfo) customData r, i.setCustomData customData = .error r ↔
        ∃ c, customData = some c ∧ Validated.valid c = false ∧ r.field = "customData" ∧
          r.value = Diagnostic.text (some c) ∧ r.reason = .invalidPart) ∧
    (∀ (t : MessageType) (m : Message t) f (slot : Slot t.fields f) content r,
      m.set slot content = .error r ↔ f.Rejects ((f.value? content).map f.kind.widen) r) ∧
    (∀ (t : MessageType) contents,
      Truthful (Message.new t contents) fun r => ∃ f, ∃ slot : Slot (requiredFields t.fields) f,
        f.Rejects (some (f.kind.widen (contents.get slot))) r) ∧
    (∀ (t : MessageType) (draft : Message.Draft t),
      Truthful (Message.ofDraft draft) fun r => ∃ f, ∃ slot : Slot t.fields f,
        f.Rejects (draft.get slot) r) ∧
    ∀ (t : MessageType), ∀ f ∈ t.fields, ∀ limit, f.kind = .text limit →
      (f.label, limit) ∈ MessageType.textLimits := by
  refine ⟨⟨?_, ?_, ?_, ?_⟩, ?_, ?_, ?_, ?_⟩
  · intro s r
    rw [← Rejection.eq_iff]
    exact bind_pure_eq_error_iff.trans acceptText_eq_error_iff
  · intro s r
    rw [← Rejection.eq_iff]
    exact bind_pure_eq_error_iff.trans acceptText_eq_error_iff
  · intro i text r
    have rejected : i.setAdditionalInfo text = .error r ↔ _ := bind_pure_eq_error_iff
    simp only [rejected, ifPresent_eq_error_iff, acceptText_eq_error_iff, Rejection.eq_iff]
    rfl
  · intro i customData r
    have rejected : i.setCustomData customData = .error r ↔ _ := bind_pure_eq_error_iff
    simp only [rejected, acceptPart_eq_error_iff, Rejection.eq_iff]
  · intro t m f slot content r
    exact Message.set_eq_error_iff
  · intro t contents
    exact Message.truthful_new contents
  · intro t draft
    exact Message.truthful_ofDraft draft
  · intro t f member limit text
    exact MessageType.mem_textLimits member text

/-- Characters count, not octets, of which each takes two here.  Status information with a vendor id
that is too long is not valid as a whole.  An integer is past 32 bits when it is read.  Of two
objections to what was read one is raised. -/
theorem rejections_truthful_long :
    let s : String := .ofList (List.replicate 256 'ž')
    let info : StatusInfo := ⟨some ⟨s, []⟩, "Busy", none⟩
    let draft : Message.Draft ⟨.dataTransfer, .request⟩ :=
      .cons none (.cons (some s) (.cons none (.cons none .nil)))
    let past : Message.Draft ⟨.cancelReservation, .request⟩ :=
      .cons none (.cons (some (2 ^ (31 : Nat) : Int)) .nil)
    (∀ m : Message ⟨.dataTransfer, .request⟩, ∃ r, m.set (.next .first) (some s) = .error r ∧
      r.field = "messageId" ∧ r.reason = .tooLong 50 256) ∧
    (∀ m : Message ⟨.cancelReservation, .response⟩,
      ∃ r, m.set (.next (.next .first)) (some info) = .error r ∧
        r.field = "statusInfo" ∧ r.reason = .invalidPart) ∧
    (∃ r, Message.ofDraft past = .error r ∧ r.field = "reservationId" ∧
      r.reason = .outOfRange (-(2 ^ (31 : Nat))) (2 ^ (31 : Nat) - 1)) ∧
    ∃ r, Message.ofDraft draft = .error r ∧
      (r.field = "messageId" ∧ r.reason = .tooLong 50 256 ∨
        r.field = "vendorId" ∧ r.reason = .missing) := by
  intro s info draft past
  have length : s.length = 256 := by
    rw [String.length_ofList, List.length_replicate]
  have long : Kind.Objection (.text 50) s (.tooLong 50 256) := by
    rw [← length]
    exact .tooLong (by omega)
  have invalid : Validated.valid info = false := by
    refine Bool.eq_false_iff.2 fun valid => ?_
    have short : s.length ≤ 255 := ((StatusInfo.valid_iff_bounded.1 valid).1 _ rfl).1
    omega
  obtain ⟨-, changes, -, drafts, -⟩ := rejections_truthful
  refine ⟨?_, ?_, ?_, ?_⟩
  · intro m
    refine ⟨⟨"messageId", Diagnostic.text s, .tooLong 50 256⟩, ?_, rfl, rfl⟩
    exact (changes _ m _ (.next .first) (some s) _).2 ⟨rfl, rfl, .content long⟩
  · intro m
    refine ⟨⟨"statusInfo", Diagnostic.text (some info), .invalidPart⟩, ?_, rfl, rfl⟩
    exact (changes _ m _ (.next (.next .first)) (some info) _).2
      ⟨rfl, rfl, .content (.statusInfo invalid)⟩
  · have outside : Kind.Objection .integer (2 ^ (31 : Nat) : Int)
        (.outOfRange (-(2 ^ (31 : Nat))) (2 ^ (31 : Nat) - 1)) := .outOfRange (.inr (by decide))
    obtain ⟨r, rejected⟩ := (drafts _ past).error_of_true
      ⟨_, .next .first, Field.rejects_some_iff.2 ⟨_, outside, rfl⟩⟩
    refine ⟨r, rejected, ?_⟩
    obtain ⟨f, slot, rejects⟩ := (drafts _ past).true_of_error rejected
    revert f slot
    refine Slot.forall_cons_iff.2 ⟨?_, Slot.forall_cons_iff.2 ⟨?_, nofun⟩⟩
    · intro rejects
      cases (Field.rejects_none_iff.1 rejects).1
    · intro rejects
      obtain ⟨_, objection, rfl⟩ := Field.rejects_some_iff.1 rejects
      cases objection with
      | outOfRange => exact ⟨rfl, rfl⟩
  · have missing : Field.Rejects ⟨"vendorId", .text 255, .required⟩ none
        ⟨"vendorId", "null", .missing⟩ := Field.rejects_none_iff.2 ⟨rfl, rfl⟩
    obtain ⟨r, rejected⟩ :=
      (drafts _ draft).error_of_true ⟨_, .next (.next (.next .first)), missing⟩
    refine ⟨r, rejected, ?_⟩
    obtain ⟨f, slot, rejects⟩ := (drafts _ draft).true_of_error rejected
    revert f slot
    refine Slot.forall_cons_iff.2 ⟨?_, Slot.forall_cons_iff.2 ⟨?_, Slot.forall_cons_iff.2 ⟨?_,
      Slot.forall_cons_iff.2 ⟨?_, nofun⟩⟩⟩⟩
    · intro rejects
      cases (Field.rejects_none_iff.1 rejects).1
    · intro rejects
      obtain ⟨_, objection, rfl⟩ := Field.rejects_some_iff.1 rejects
      cases objection with
      | tooLong => exact .inl ⟨rfl, by rw [length]⟩
    · intro rejects
      cases (Field.rejects_none_iff.1 rejects).1
    · intro rejects
      obtain ⟨-, rfl⟩ := Field.rejects_none_iff.1 rejects
      exact .inr ⟨rfl, rfl⟩

end ChargePoint
