import ChargePoint.Proofs.Document
import ChargePoint.Proofs.Json.Reader
import ChargePoint.Proofs.Message.Reading

/-!
# Messages from texts

Every reading of the library follows the tree of a document and does not look at the order of
members, from the readings of single contents up to those of whole messages.  So a message, custom
data and status information can be read from a text in one pass or by way of its value, and the
result is the same.

## Main results

* `VendorValue.ofJson_canonical`: a vendor value says nothing about the order of members.
* `Status.follows_ofDoc`, `CustomData.follows_ofDoc`, `StatusInfo.follows_ofDoc`,
  `Message.follows_ofDoc`: readings of documents follow the tree.
* `Status.orderless_ofJson`, `CustomData.orderless_ofJson`, `StatusInfo.orderless_ofJson`,
  `Message.orderless_ofJson`: readings of values do not look at the order of members.
* `readings_agree`: the two ways from a text agree for every type.
-/

namespace ChargePoint

/-! ### Vendor values -/

namespace VendorValue

/-- **A vendor value says nothing about the order of members**, nor about repeated names. -/
theorem ofJson_canonical (v : Json) : ofJson v.canonical = ofJson v := by
  induction v using Json.inductionOn with
  | null => rfl
  | bool b => rfl
  | number n => rfl
  | string s => rfl
  | array items ih =>
    rw [Json.canonical_array, ofJson, ofJson, ofItems_eq_map, ofItems_eq_map, List.map_map]
    exact congrArg array (List.map_congr_left ih)
  | object members ih =>
    have collected := Keyed.ofList_eq_self
      (Keyed.ascending_ofList (Keyed.mapValues Json.canonical members))
    rw [Json.canonical_object, ofJson, ofJson, ofMembers_eq_mapValues, ofMembers_eq_mapValues,
      Keyed.ofList_mapValues, collected, ← Keyed.ofList_mapValues, Keyed.mapValues_mapValues,
      Keyed.mapValues_congr ih]

theorem orderless_read : Json.Orderless read := by
  intro v x _
  rw [read_eq, read_eq, ofJson_canonical]

end VendorValue

/-! ### Statuses -/

namespace Status

variable {v : Vocabulary}

theorem closed_eq_ok_iff {rest : Doc.Members} {u : Unit} :
    closed rest = .ok u ↔ Doc.toEntries rest = .ok [] := by
  cases rest with
  | close => exact iff_of_true rfl rfl
  | member name value rest =>
    constructor
    · intro h
      cases h
    · intro h
      obtain ⟨_, -, _, -, same⟩ := Doc.toEntries_member_eq_ok_iff.1 h
      cases same
  | _ =>
    constructor
    · intro h
      cases h
    · intro h
      cases h

/-- What stands beside a spelling is `null` in the text. -/
theorem scalar_unit_eq_ok_iff {doc : Doc} {u : Unit} :
    doc.scalar unit = .ok u ↔ doc.toTree = .ok .null := by
  simp only [Doc.scalar, bind_eq_ok_iff, mapError_eq_ok_iff, unit_eq_ok_iff]
  constructor
  · rintro ⟨_, outlined, rfl⟩
    cases doc <;> cases outlined
    rfl
  · intro built
    exact ⟨_, Doc.outline_of_toTree built, rfl⟩

/-- **What a status is read from** in a text. -/
theorem ofDoc_object_eq_ok_iff {spelling : String} {content : Doc} {rest : Doc.Members}
    {s : Status v} :
    ofDoc v (.object (.member spelling content rest)) = .ok s ↔
      spelling = s.spelling ∧ content.toTree = .ok .null ∧ Doc.toEntries rest = .ok [] := by
  simp only [ofDoc, bind_eq_ok_iff, pure_eq_ok_iff, mapError_eq_ok_iff, variant_eq_ok_iff,
    scalar_unit_eq_ok_iff, closed_eq_ok_iff]
  constructor
  · rintro ⟨_, rfl, ⟨⟩, null, ⟨⟩, ended, rfl⟩
    exact ⟨rfl, null, ended⟩
  · rintro ⟨rfl, null, ended⟩
    exact ⟨s, rfl, (), null, (), ended, rfl⟩

theorem follows_ofDoc : Doc.Follows (ofDoc v) (ofJson v) := by
  intro doc s
  simp only [ofJson_eq_ok_iff]
  constructor
  · intro h
    cases doc with
    | string spelling =>
      obtain rfl := variant_eq_ok_iff.1 (mapError_eq_ok_iff.1 h)
      exact ⟨_, rfl, .inl rfl⟩
    | object members =>
      cases members with
      | member spelling content rest =>
        obtain ⟨rfl, null, ended⟩ := ofDoc_object_eq_ok_iff.1 h
        have built : Doc.toEntries (.member s.spelling content rest) =
            .ok [(s.spelling, .null)] :=
          Doc.toEntries_member_eq_ok_iff.2 ⟨_, null, _, ended, rfl⟩
        exact ⟨_, Doc.toTree_object_eq_ok_iff.2 ⟨_, built, rfl⟩, .inr rfl⟩
      | stray key =>
        obtain ⟨found, -, h⟩ := bind_eq_ok_iff.1 h
        cases h
      | _ => cases h
    | broken opening fault => cases opening <;> cases h
    | _ => cases h
  · rintro ⟨tree, built, rfl | rfl⟩
    · obtain rfl := Doc.eq_string_of_toTree built
      exact mapError_eq_ok_iff.2 (variant_eq_ok_iff.2 rfl)
    · obtain ⟨members, rfl, entries⟩ := Doc.exists_members_of_toTree built
      obtain ⟨content, rest, rfl, null, ended⟩ := Doc.exists_member_of_toEntries entries
      exact ofDoc_object_eq_ok_iff.2 ⟨rfl, null, ended⟩

theorem orderless_ofJson : Json.Orderless (ofJson v) := by
  intro w s distinct
  simp only [ofJson_eq_ok_iff]
  cases w with
  | object members =>
    have names := distinct.nodup_canonical
    have null (w : Json) : w.canonical = .null ↔ w = .null := by
      cases w <;> simp [Json.canonical]
    have one : Keyed.mapValues Json.canonical members = [(s.spelling, .null)] ↔
        members = [(s.spelling, .null)] := by
      rw [Keyed.mapValues, List.map_eq_singleton_iff]
      constructor
      · rintro ⟨⟨name, w⟩, rfl, same⟩
        obtain ⟨rfl, valued⟩ := Prod.mk.inj same
        rw [(null w).1 valued]
      · rintro rfl
        exact ⟨_, rfl, rfl⟩
    simp only [Json.canonical_object, Json.object.injEq, Keyed.ofList_eq_singleton_iff names, one,
      reduceCtorEq, false_or]
  | array items => simp [Json.canonical]
  | _ => exact Iff.rfl

end Status

/-! ### Custom data -/

namespace CustomData

/-- Custom data are read from a document as from its tree, member by member: there may be a vendor
id already, and else it has to be a string. -/
theorem ofDocMembers_eq_ok_iff : {members : Doc.Members} → {draft final : Draft} →
    (ofDocMembers members draft = .ok final ↔
      ∃ entries, Doc.toEntries members = .ok entries ∧ ofMembers entries draft = .ok final)
  | .close, draft, final => by simp [ofDocMembers, Doc.toEntries, ofMembers]
  | .cut fault, draft, final => by simp [ofDocMembers, Doc.toEntries]
  | .stray key, draft, final => by simp [ofDocMembers, Doc.toEntries]
  | .member name value rest, (vendorId, properties), final => by
    have text {x : String} : value.scalar Outline.toText = .ok x ↔ _ :=
      Doc.follows_scalar Outline.scalar_toText _ _
    unfold ofDocMembers
    simp only [Doc.toEntries_member_eq_ok_iff]
    by_cases same : name = vendorIdLabel
    · subst same
      rw [if_pos rfl]
      cases vendorId with
      | some s =>
        constructor
        · intro h
          cases h
        · rintro ⟨_, ⟨tree, -, others, -, rfl⟩, h⟩
          cases h
      | none =>
        simp only [bind_eq_ok_iff, text, ofDocMembers_eq_ok_iff]
        constructor
        · rintro ⟨s, ⟨tree, built, hs⟩, others, ho, h⟩
          exact ⟨_, ⟨tree, built, others, ho, rfl⟩, bind_eq_ok_iff.2 ⟨s, hs, h⟩⟩
        · rintro ⟨_, ⟨tree, built, others, ho, rfl⟩, h⟩
          obtain ⟨s, hs, h⟩ := bind_eq_ok_iff.1 h
          exact ⟨s, ⟨tree, built, hs⟩, others, ho, h⟩
    · rw [if_neg same]
      simp only [bind_eq_ok_iff, mapError_eq_ok_iff, ofDocMembers_eq_ok_iff]
      constructor
      · rintro ⟨tree, built, property, hp, others, ho, h⟩
        refine ⟨_, ⟨tree, built, others, ho, rfl⟩, ?_⟩
        unfold ofMembers
        rw [if_neg same]
        exact bind_eq_ok_iff.2 ⟨property, hp, h⟩
      · rintro ⟨_, ⟨tree, built, others, ho, rfl⟩, h⟩
        unfold ofMembers at h
        rw [if_neg same] at h
        obtain ⟨property, hp, h⟩ := bind_eq_ok_iff.1 h
        exact ⟨tree, built, property, hp, others, ho, h⟩

theorem follows_ofDoc : Doc.Follows ofDoc ofJson := by
  intro doc c
  cases doc with
  | object members =>
    simp only [ofDoc, ofJson, bind_eq_ok_iff, mapError_eq_ok_iff, ofDocMembers_eq_ok_iff,
      Doc.toTree_object_eq_ok_iff]
    constructor
    · rintro ⟨draft, ⟨entries, built, read⟩, h⟩
      exact ⟨_, ⟨entries, built, rfl⟩, bind_eq_ok_iff.2 ⟨draft, read, h⟩⟩
    · rintro ⟨_, ⟨entries, built, rfl⟩, h⟩
      obtain ⟨draft, read, h⟩ := bind_eq_ok_iff.1 h
      exact ⟨draft, ⟨entries, built, read⟩, h⟩
  | broken opening fault =>
    constructor
    · intro h
      cases h
    · rintro ⟨_, built, -⟩
      cases built
  | array items =>
    constructor
    · intro h
      cases h
    · rintro ⟨_, built, h⟩
      obtain ⟨trees, -, rfl⟩ := Doc.toTree_array_eq_ok_iff.1 built
      cases h
  | _ =>
    constructor
    · intro h
      cases h
    · rintro ⟨_, built, h⟩
      cases built
      cases h

/-- The properties that are collected are the members but for the vendor id. -/
theorem lookup_collected {members : List (String × Json)} (names : (members.map Prod.fst).Nodup)
    (name : String) :
    (Keyed.ofList (Keyed.mapValues VendorValue.ofJson
      (Keyed.erase vendorIdLabel members))).lookup name =
        (if name = vendorIdLabel then none else members.lookup name).map VendorValue.ofJson := by
  have others : ((Keyed.mapValues VendorValue.ofJson
      (Keyed.erase vendorIdLabel members)).map Prod.fst).Nodup := by
    rw [Keyed.map_fst_mapValues]
    exact (List.filter_sublist.map _).nodup names
  rw [Keyed.lookup_ofList others, Keyed.lookup_mapValues, Keyed.lookup_erase]

theorem orderless_ofJson : Json.Orderless ofJson := by
  intro v c distinct
  cases v with
  | object members =>
    have names := distinct.nodup
    have collected := Keyed.nodup_of_ascending
      (Keyed.ascending_ofList (Keyed.mapValues Json.canonical members))
    have string (w : Json) (s : String) : w.canonical = .string s ↔ w = .string s := by
      cases w <;> simp [Json.canonical]
    have vendorId : (Keyed.ofList (Keyed.mapValues Json.canonical members)).lookup vendorIdLabel =
        some (.string c.vendorId) ↔ members.lookup vendorIdLabel = some (.string c.vendorId) := by
      rw [distinct.lookup_canonical]
      cases members.lookup vendorIdLabel <;> simp [string]
    have properties : Keyed.ofList (Keyed.mapValues VendorValue.ofJson (Keyed.erase vendorIdLabel
          (Keyed.ofList (Keyed.mapValues Json.canonical members)))) =
        Keyed.ofList (Keyed.mapValues VendorValue.ofJson (Keyed.erase vendorIdLabel members)) := by
      refine Keyed.ext (Keyed.ascending_ofList _) (Keyed.ascending_ofList _) fun name => ?_
      rw [lookup_collected collected, lookup_collected names, distinct.lookup_canonical]
      split
      · rfl
      · rw [Option.map_map]
        exact congrArg (Option.map · _) (funext VendorValue.ofJson_canonical)
    rw [Json.canonical_object, ofJson_object_eq_ok_iff collected, ofJson_object_eq_ok_iff names,
      vendorId, properties]
  | array items => simp [Json.canonical, ofJson]
  | _ => exact Iff.rfl

end CustomData

/-! ### Status information -/

namespace StatusInfo

theorem Part.follows_ofDoc (part : Part) : Doc.Follows part.ofDoc part.ofJson := by
  cases part with
  | customData => exact CustomData.follows_ofDoc.orNull
  | reasonCode => exact Doc.follows_scalar Outline.scalar_toText
  | additionalInfo => exact (Doc.follows_scalar Outline.scalar_toText).orNull

theorem Part.orderless_ofJson (part : Part) : Json.Orderless part.ofJson := by
  cases part with
  | customData => exact CustomData.orderless_ofJson.orNull
  | reasonCode => exact Json.orderless_outline Outline.toText
  | additionalInfo => exact (Json.orderless_outline Outline.toText).orNull

theorem follows_ofDoc : Doc.Follows ofDoc ofJson :=
  (Structure.follows Part.follows_ofDoc).bind fun draft => by simp

theorem orderless_ofJson : Json.Orderless ofJson :=
  (Structure.orderless labels_nodup Part.orderless_ofJson).bind ofDraft

end StatusInfo

/-! ### Kinds of content -/

namespace Kind

theorem follows_ofDoc (k : Kind) : Doc.Follows k.ofDoc k.ofJson := by
  cases k with
  | text limit => exact Doc.follows_scalar Outline.scalar_toText
  | status v => exact Status.follows_ofDoc
  | integer => exact Doc.follows_scalar Outline.scalar_toInteger
  | instant => exact Doc.follows_scalar Outline.scalar_toInstant
  | customData => exact CustomData.follows_ofDoc
  | statusInfo => exact StatusInfo.follows_ofDoc
  | data =>
    intro doc x
    simp only [ofDoc, ofJson, bind_eq_ok_iff, mapError_eq_ok_iff]

theorem orderless_ofJson (k : Kind) : Json.Orderless k.ofJson := by
  cases k with
  | text limit => exact Json.orderless_outline Outline.toText
  | status v => exact Status.orderless_ofJson
  | integer => exact Json.orderless_outline Outline.toInteger
  | instant => exact Json.orderless_outline Outline.toInstant
  | customData => exact CustomData.orderless_ofJson
  | statusInfo => exact StatusInfo.orderless_ofJson
  | data => exact VendorValue.orderless_read

end Kind

/-! ### Messages -/

namespace Message

variable {t : MessageType}

/-- What is read of a value is joined and then put together, as what is read of a document. -/
theorem ofJson_eq_bind (t : MessageType) :
    ofJson t = fun v => t.form.ofJson (fun f => Json.orNull f.kind.ofJson) v >>= fun read =>
      (ofDraft (read.map fun _ content => content.join)).mapError ShapeFault.rejected := by
  funext v
  unfold ofJson readDraft
  cases t.form.ofJson (fun f => Json.orNull f.kind.ofJson) v <;> rfl

/-- **A message is read from a text as from the tree of the text.** -/
theorem follows_ofDoc (t : MessageType) : Doc.Follows (ofDoc t) (ofJson t) := by
  have draft := Structure.follows (s := t.form) fun f => (Kind.follows_ofDoc f.kind).orNull
  rw [ofJson_eq_bind]
  exact draft.bind fun read m => by simp only [mapError_eq_ok_iff]

/-- **A message is read alike in whatever order members stand.** -/
theorem orderless_ofJson (t : MessageType) : Json.Orderless (ofJson t) := by
  have draft := Structure.orderless (s := t.form) t.labels_nodup fun f =>
    (Kind.orderless_ofJson f.kind).orNull
  rw [ofJson_eq_bind]
  exact draft.bind _

/-- Decoding and reading accept the same values, with the same results. -/
theorem ofJson_eq_ok_iff_decode {v : Json} {m : Message t} :
    ofJson t v = .ok m ↔ decode (Message t) v = .ok m := by
  rw [ofJson, decode]
  simp only [bind_eq_ok_iff, mapError_eq_ok_iff]
  rfl

end Message

/-- **The ways from a text agree**, in any text in which no object repeats a name.  For messages of
every type, custom data and status information, what is read in one pass is what is read from the
value of the text; for messages that is also what is decoded from the value.  A text that has the
same members in another order is read alike. -/
theorem readings_agree {text : String} (distinct : ∀ tree, Writes text tree → tree.Distinct) :
    (∀ (t : MessageType) (m : Message t),
        (readText (Message.ofDoc t) text = .ok m ↔ readValue (Message.ofJson t) text = .ok m) ∧
        (readText (Message.ofDoc t) text = .ok m ↔
          ∃ v, Json.parse text = .ok v ∧ decode (Message t) v = .ok m)) ∧
      (∀ c, readText CustomData.ofDoc text = .ok c ↔ readValue CustomData.ofJson text = .ok c) ∧
      (∀ i, readText StatusInfo.ofDoc text = .ok i ↔ readValue StatusInfo.ofJson text = .ok i) ∧
      ∀ text' tree tree', Writes text tree → Writes text' tree' → tree.Reorders tree' →
        (∀ (t : MessageType) (m : Message t),
          readText (Message.ofDoc t) text = .ok m ↔ readText (Message.ofDoc t) text' = .ok m) ∧
        (∀ c, readText CustomData.ofDoc text = .ok c ↔ readText CustomData.ofDoc text' = .ok c) ∧
        ∀ i, readText StatusInfo.ofDoc text = .ok i ↔ readText StatusInfo.ofDoc text' = .ok i := by
  have messages (t : MessageType) (m : Message t) :
      readText (Message.ofDoc t) text = .ok m ↔ readValue (Message.ofJson t) text = .ok m :=
    readText_iff_readValue (Message.follows_ofDoc t) (Message.orderless_ofJson t) distinct
  refine ⟨fun t m => ⟨messages t m, (messages t m).trans ?_⟩, fun c => ?_, fun i => ?_, ?_⟩
  · simp only [readValue, bind_eq_ok_iff, mapError_eq_ok_iff, Message.ofJson_eq_ok_iff_decode]
  · exact readText_iff_readValue CustomData.follows_ofDoc CustomData.orderless_ofJson distinct
  · exact readText_iff_readValue StatusInfo.follows_ofDoc StatusInfo.orderless_ofJson distinct
  · intro text' tree tree' written written' reorders
    have names := distinct tree written
    refine ⟨fun t m => ?_, fun c => ?_, fun i => ?_⟩
    · exact readText_iff_of_reorders (Message.follows_ofDoc t) (Message.orderless_ofJson t) written
        written' names reorders
    · exact readText_iff_of_reorders CustomData.follows_ofDoc CustomData.orderless_ofJson written
        written' names reorders
    · exact readText_iff_of_reorders StatusInfo.follows_ofDoc StatusInfo.orderless_ofJson written
        written' names reorders

/-- The parts of a request to transfer data, in one order and the other. -/
theorem readings_agree_unsorted :
    let text := "\x7b\"vendorId\":\"acme\",\"data\":[\"x\",null]\x7d"
    let text' := "\x7b\"data\":[\"x\",null],\"vendorId\":\"acme\"\x7d"
    let m : Message ⟨.dataTransfer, .request⟩ :=
      ⟨.cons none (.cons none (.cons (some (.array [.string "x", .null])) (.cons "acme" .nil)))⟩
    readText (Message.ofDoc _) text = .ok m ∧ readValue (Message.ofJson _) text = .ok m ∧
      (∃ v, Json.parse text = .ok v ∧ decode (Message _) v = .ok m) ∧
      readText (Message.ofDoc _) text' = .ok m := by
  intro text text' m
  let data : Doc := .array (.item (.string "x") (.item .null .close))
  let doc : Doc := .object (.member "vendorId" (.string "acme") (.member "data" data .close))
  let doc' : Doc := .object (.member "data" data (.member "vendorId" (.string "acme") .close))
  let array : Json := .array [.string "x", .null]
  let tree : Json := .object [("vendorId", .string "acme"), ("data", array)]
  let tree' : Json := .object [("data", array), ("vendorId", .string "acme")]
  have found {depth : Nat} {text rest : List Char}
      (h : skipBlanks text = "[\"x\",null]".toList ++ rest) :
      Doc.Step.Finds (Doc.value (depth + 1) text) data rest :=
    Doc.finds_array h (Doc.finds_items (c := '"') rfl (by decide)
      (Doc.finds_nextItem (Doc.finds_string "x" rfl rfl) rfl
        (Doc.finds_lastItem (Doc.finds_null rfl) rfl)))
  have read : Reading.ofString text = ⟨doc, true⟩ := by
    have members : Doc.Step.Finds
        (Doc.members 126 "\"vendorId\":\"acme\",\"data\":[\"x\",null]\x7d".toList) _ [] :=
      Doc.finds_members rfl (Doc.finds_nextMember (Doc.finds_string "vendorId" rfl rfl) rfl
        (Doc.finds_string "acme" rfl rfl) rfl
        (Doc.finds_lastMember (Doc.finds_string "data" rfl rfl) rfl (found rfl) rfl))
    exact Reading.ofString_eq (Doc.finds_object (by decide) members) rfl
  have read' : Reading.ofString text' = ⟨doc', true⟩ := by
    have members : Doc.Step.Finds
        (Doc.members 126 "\"data\":[\"x\",null],\"vendorId\":\"acme\"\x7d".toList) _ [] :=
      Doc.finds_members rfl (Doc.finds_nextMember (Doc.finds_string "data" rfl rfl) rfl
        (found rfl) rfl (Doc.finds_lastMember (Doc.finds_string "vendorId" rfl rfl) rfl
          (Doc.finds_string "acme" rfl rfl) rfl))
    exact Reading.ofString_eq (Doc.finds_object (by decide) members) rfl
  have written : Writes text tree := by
    rw [Writes, read]
    exact ⟨rfl, rfl⟩
  have written' : Writes text' tree' := by
    rw [Writes, read']
    exact ⟨rfl, rfl⟩
  have distinct : ∀ tree, Writes text tree → tree.Distinct := by
    intro other h
    obtain rfl := written.unique h
    exact ⟨by decide, trivial, ⟨trivial, trivial, trivial⟩, trivial⟩
  have reorders : tree.Reorders tree' := .members (List.Perm.swap _ _ _)
  obtain ⟨messages, -, -, order⟩ := readings_agree distinct
  obtain ⟨value, decoded⟩ := messages _ m
  have direct : readText (Message.ofDoc _) text = .ok m := by
    rw [readText, read]
    rfl
  exact ⟨direct, value.1 direct, decoded.1 direct,
    ((order text' tree tree' written written' reorders).1 _ m).1 direct⟩

end ChargePoint
