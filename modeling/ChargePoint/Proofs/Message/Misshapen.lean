import ChargePoint.Proofs.Message.Grammar

/-!
# Payloads of the wrong shape

What can be wrong with a payload before any limit is looked at, written down type by type beside the
grammar: a value that does not list the names of its type, or a part that is not of the form it has
to be of.  A payload has the wrong shape as soon as one thing about it is wrong, whatever else there
is; and then, and only then, nothing can be read from it.

## Main definitions

* `Grammar.Unlisted`: a value that does not list parts of given names.
* `Grammar.WrongText`, `WrongStatus`, `WrongInteger`, `WrongTime`, `WrongCustomData`,
  `WrongStatusInfo`: the parts of the wrong form.
* `Grammar.Misshapen`: the payloads of the wrong shape, of every type of messages.

## Main results

* `Grammar.wrong_iff`: a part is wrong when nothing can be read for it.
* `Grammar.exists_readDraft_iff`: a payload can be read unless its shape is wrong.
-/

namespace ChargePoint

namespace Grammar

/-! ### Parts of the wrong form -/

/-- **A value that does not list the names**: neither an object nor an array, an object with another
name, or an array that has not one item for each. -/
def Unlisted (names : List String) : Json → Prop
  | .object members => ∃ name ∈ members.map Prod.fst, name ∉ names
  | .array items => items.length ≠ names.length
  | _ => True

/-- Something is there, and it is wrong. -/
def Found (wrong : Json → Prop) (given : Option Json) : Prop := ∃ w ∈ given, wrong w

/-- Not a string. -/
def WrongText (w : Json) : Prop := ∀ s, w ≠ .string s

/-- Neither a spelling nor an object with a spelling over a `null` and nothing else. -/
def WrongStatus (v : Vocabulary) : Json → Prop
  | .string spelling => spelling ∉ v.spellings
  | .object [(spelling, content)] => spelling ∉ v.spellings ∨ content ≠ .null
  | _ => True

/-- Not an integer of 64 bits with a sign. -/
def WrongInteger : Json → Prop
  | .number (.whole n) => 2 ^ (63 : Nat) ≤ n.value
  | _ => True

/-- Not a string that writes an instant. -/
def WrongTime : Json → Prop
  | .string text => ∀ t, Instant.read text ≠ .ok t
  | _ => True

/-- Not an object with a string for the vendor id. -/
def WrongCustomData : Json → Prop
  | .object members => ∀ s, members.lookup "vendorId" ≠ some (.string s)
  | _ => True

/-- Not a list of the three parts of status information, with a string for the reason code; or one
of the other two parts is wrong. -/
def WrongStatusInfo (w : Json) : Prop :=
  let names := ["customData", "reasonCode", "additionalInfo"]
  Unlisted names w ∨ Found WrongCustomData (part names w "customData") ∨
    (∀ s, part names w "reasonCode" ≠ some (.string s)) ∨
    Found WrongText (part names w "additionalInfo")

/-- Data are never wrong. -/
def WrongData (_ : Json) : Prop := False

/-! ### Payloads of the wrong shape -/

/-- **The parts of every type of messages**, in order, and what would be wrong with each. -/
def faults : MessageType → List (String × (Json → Prop))
  | ⟨.heartbeat, .request⟩ => [("customData", WrongCustomData)]
  | ⟨.heartbeat, .response⟩ => [("customData", WrongCustomData), ("currentTime", WrongTime)]
  | ⟨.unpublishFirmware, .request⟩ => [("customData", WrongCustomData), ("checksum", WrongText)]
  | ⟨.unpublishFirmware, .response⟩ =>
    [("customData", WrongCustomData), ("status", WrongStatus .unpublishFirmware)]
  | ⟨.cancelReservation, .request⟩ =>
    [("customData", WrongCustomData), ("reservationId", WrongInteger)]
  | ⟨.cancelReservation, .response⟩ =>
    [("customData", WrongCustomData), ("status", WrongStatus .cancelReservation),
      ("statusInfo", WrongStatusInfo)]
  | ⟨.requestStopTransaction, .request⟩ =>
    [("customData", WrongCustomData), ("transactionId", WrongText)]
  | ⟨.requestStopTransaction, .response⟩ =>
    [("customData", WrongCustomData), ("status", WrongStatus .requestStartStop),
      ("statusInfo", WrongStatusInfo)]
  | ⟨.dataTransfer, .request⟩ =>
    [("customData", WrongCustomData), ("messageId", WrongText), ("data", WrongData),
      ("vendorId", WrongText)]
  | ⟨.dataTransfer, .response⟩ =>
    [("customData", WrongCustomData), ("status", WrongStatus .dataTransfer),
      ("statusInfo", WrongStatusInfo), ("data", WrongData)]

/-- The names of the parts of a type. -/
def names (t : MessageType) : List String := (faults t).map Prod.fst

/-- **A payload of the wrong shape**: it does not list the parts of its type, or one of those that
it lists is wrong. -/
def Misshapen (t : MessageType) (v : Json) : Prop :=
  Unlisted (names t) v ∨ ∃ entry ∈ faults t, Found entry.2 (part (names t) v entry.1)

/-! ### Wrong forms and readings -/

/-- What is said to list other names is what does not list these alone. -/
theorem unlisted_iff {names : List String} {v : Json} : Unlisted names v ↔ ¬ Lists names v := by
  cases v with
  | object members => simp [Unlisted, Lists]
  | array items => exact Iff.rfl
  | null => exact ⟨fun _ => id, fun _ => trivial⟩
  | bool b => exact ⟨fun _ => id, fun _ => trivial⟩
  | number n => exact ⟨fun _ => id, fun _ => trivial⟩
  | string s => exact ⟨fun _ => id, fun _ => trivial⟩

/-- What would be wrong with a kind of content. -/
def Wrong : Kind → Json → Prop
  | .text _ => WrongText
  | .status v => WrongStatus v
  | .integer => WrongInteger
  | .instant => WrongTime
  | .customData => WrongCustomData
  | .statusInfo => WrongStatusInfo
  | .data => WrongData

theorem wrongText_iff {w : Json} : WrongText w ↔ ∀ s, w ≠ .string s := Iff.rfl

theorem wrongStatus_iff {v : Vocabulary} {w : Json} :
    WrongStatus v w ↔ ∀ s, Status.ofJson v w ≠ .ok s := by
  simp only [ne_eq, Status.ofJson_eq_ok_iff, not_or]
  match w with
  | .string spelling =>
    constructor
    · intro unknown s
      refine ⟨fun same => ?_, nofun⟩
      cases same
      exact unknown s.2
    · intro h known
      exact (h ⟨spelling, known⟩).1 rfl
  | .object [(spelling, content)] =>
    constructor
    · intro wrong s
      refine ⟨nofun, fun same => ?_⟩
      cases same
      rcases wrong with unknown | other
      · exact unknown s.2
      · exact other rfl
    · intro h
      by_cases known : spelling ∈ v.spellings
      · refine .inr fun null => (h ⟨spelling, known⟩).2 ?_
        rw [null]
        rfl
      · exact .inl known
  | .object [] => simp [WrongStatus]
  | .object (_ :: _ :: _) => simp [WrongStatus]
  | .null => simp [WrongStatus]
  | .bool _ => simp [WrongStatus]
  | .number _ => simp [WrongStatus]
  | .array _ => simp [WrongStatus]

theorem wrongInteger_iff {w : Json} :
    WrongInteger w ↔ ∀ n, w.outline.toInteger ≠ .ok n := by
  simp only [ne_eq, toInteger_eq_ok_iff]
  match w with
  | .number (.whole n) =>
    constructor
    · rintro large _ ⟨_, same, rfl, small⟩
      cases same
      exact Int.not_lt.2 large small
    · intro h
      exact Int.not_lt.1 fun small => h n.value ⟨n, rfl, rfl, small⟩
  | .number (.float x) => simp [WrongInteger]
  | .null => simp [WrongInteger]
  | .bool _ => simp [WrongInteger]
  | .string _ => simp [WrongInteger]
  | .array _ => simp [WrongInteger]
  | .object _ => simp [WrongInteger]

theorem wrongTime_iff {w : Json} : WrongTime w ↔ ∀ t, w.outline.toInstant ≠ .ok t := by
  simp only [ne_eq, toInstant_eq_ok_iff]
  cases w <;> simp [WrongTime]

/-- A value without a string for the vendor id is read as no custom data, and with one it is,
whatever else is there. -/
theorem wrongCustomData_iff {w : Json} : WrongCustomData w ↔ ∀ c, ¬ CustomData.ReadFrom w c := by
  cases w with
  | object members =>
    constructor
    · rintro unnamed c ⟨_, same, named, -⟩
      cases same
      exact unnamed c.vendorId named
    · intro h vendorId named
      exact h ⟨vendorId, _⟩ ⟨members, rfl, named, rfl⟩
  | null => simp [WrongCustomData, CustomData.ReadFrom]
  | bool b => simp [WrongCustomData, CustomData.ReadFrom]
  | number n => simp [WrongCustomData, CustomData.ReadFrom]
  | string s => simp [WrongCustomData, CustomData.ReadFrom]
  | array items => simp [WrongCustomData, CustomData.ReadFrom]

/-- A part can be read, or is absent, unless something wrong is found there. -/
theorem not_found_iff {α : Type} {wrong : Json → Prop} {reads : Json → α → Prop}
    {given : Option Json} (leaf : ∀ w ∈ given, wrong w ↔ ∀ x, ¬ reads w x) :
    ¬ Found wrong given ↔ ∃ x, Option.Rel reads given x := by
  rw [exists_rel_iff]
  constructor
  · intro none w there
    refine Classical.byContradiction fun unread => none ⟨w, there, ?_⟩
    exact (leaf w there).2 fun x read => unread ⟨x, read⟩
  · rintro all ⟨w, there, wrong⟩
    obtain ⟨x, read⟩ := all w there
    exact (leaf w there).1 wrong x read

/-- A value is read as no status information when it lists other names or some part of it is wrong;
parts that are not wrong can be put together. -/
theorem wrongStatusInfo_iff {w : Json} : WrongStatusInfo w ↔ ∀ i, ¬ StatusInfo.ReadFrom w i := by
  simp only [readFrom_iff_listing]
  constructor
  · rintro wrong i ⟨lists, customData, reasonCode, additionalInfo⟩
    rcases wrong with unlisted | found | unnamed | found
    · exact unlisted_iff.1 unlisted lists
    · exact (not_found_iff fun _ _ => wrongCustomData_iff).2 ⟨_, customData⟩ found
    · exact unnamed _ reasonCode
    · refine (not_found_iff fun _ _ => wrongText_iff).2 ⟨i.additionalInfo, ?_⟩ found
      exact rel_eq_map_iff.2 additionalInfo
  · refine fun unread => Classical.byContradiction fun right => ?_
    obtain ⟨listed, right⟩ := not_or.1 right
    obtain ⟨customData, right⟩ := not_or.1 right
    obtain ⟨reasonCode, additionalInfo⟩ := not_or.1 right
    obtain ⟨c, hc⟩ := (not_found_iff fun _ _ => wrongCustomData_iff).1 customData
    obtain ⟨code, hr⟩ := Classical.not_forall.1 reasonCode
    obtain ⟨info, ha⟩ := (not_found_iff fun _ _ => wrongText_iff).1 additionalInfo
    have lists := Classical.not_not.1 (listed ∘ unlisted_iff.2)
    exact unread ⟨c, code, info⟩
      ⟨lists, hc, Classical.not_not.1 hr, rel_eq_map_iff.1 ha⟩

/-- **A part is wrong** when nothing can be read for it. -/
theorem wrong_iff {k : Kind} {w : Json} (canonical : w.Canonical) :
    Wrong k w ↔ ∀ raw, k.ofJson w ≠ .ok raw := by
  cases k with
  | text limit =>
    exact forall_congr' fun s => not_congr toText_eq_ok_iff.symm
  | status v => exact wrongStatus_iff
  | integer => exact wrongInteger_iff
  | instant => exact wrongTime_iff
  | customData =>
    exact wrongCustomData_iff.trans
      (forall_congr' fun c => not_congr (CustomData.ofJson_eq_ok_iff canonical).symm)
  | statusInfo =>
    exact wrongStatusInfo_iff.trans
      (forall_congr' fun i => not_congr (StatusInfo.ofJson_eq_ok_iff canonical).symm)
  | data =>
    refine ⟨False.elim, fun unread => ?_⟩
    exact unread _ (VendorValue.read_eq w)

/-- The parts of a type are its fields. -/
theorem faults_eq (t : MessageType) :
    faults t = t.fields.map fun f => (f.label, Wrong f.kind) := by
  obtain ⟨action, direction⟩ := t
  cases action <;> cases direction <;> rfl

theorem names_eq (t : MessageType) : names t = t.form.labels := by
  rw [names, faults_eq, List.map_map]
  rfl

/-- **A payload can be read** unless its shape is wrong. -/
theorem exists_readDraft_iff {t : MessageType} {v : Json} (canonical : v.Canonical) :
    (∃ draft, Message.readDraft t v = .ok draft) ↔ ¬ Misshapen t v := by
  have leaf {f : Field} (slot : Slot t.fields f) :
      ¬ Found (Wrong f.kind) (t.form.part v slot) ↔
        ∃ raw, Option.Rel (fun w raw => f.kind.ofJson w = .ok raw) (t.form.part v slot) raw :=
    not_found_iff fun w there =>
      wrong_iff (Structure.canonical_given canonical (Structure.part_eq_some_iff.1 there).1)
  have listed : Unlisted (names t) v ↔ ¬ t.form.Fits v := by
    rw [names_eq, unlisted_iff, lists_iff]
  have place {f : Field} (slot : Slot t.fields f) :
      part (names t) v f.label = t.form.part v slot := by
    rw [names_eq]
    exact (part_eq t.labels_nodup v slot).symm
  simp only [Message.readDraft_eq_ok_iff canonical]
  constructor
  · rintro ⟨draft, fits, read⟩ (unlisted | ⟨entry, member, found⟩)
    · exact listed.1 unlisted fits
    · rw [faults_eq] at member
      obtain ⟨f, hf, rfl⟩ := List.mem_map.1 member
      obtain ⟨slot⟩ := Slot.nonempty_of_mem hf
      exact (leaf slot).2 ⟨_, read f slot⟩ (place slot ▸ found)
  · intro right
    obtain ⟨fits, none⟩ := not_or.1 right
    have each f (slot : Slot t.fields f) :
        ∃ raw, Option.Rel (fun w raw => f.kind.ofJson w = .ok raw) (t.form.part v slot) raw := by
      have listed : (f.label, Wrong f.kind) ∈ faults t := by
        rw [faults_eq]
        exact List.mem_map_of_mem slot.mem
      exact (leaf slot).1 fun found => none ⟨_, listed, (place slot).symm ▸ found⟩
    obtain ⟨draft, read⟩ := Record.exists_of_forall each
    exact ⟨draft, Classical.not_not.1 fun unfit => fits (listed.2 unfit), read⟩

end Grammar

end ChargePoint
