import ChargePoint.Message.Typed

/-!
# The layout of representations

A representation grows by a step for each field, which has to know whether it is the first.  What
comes out is what one would write down at once: the name of a type and, between braces, its fields
joined by commas, the judgement behind them.

No text is escaped on the way, so a field may hold anything, the end of a representation included.
That forges no judgement: the true one is written after all fields, and so it is the one at the end.

## Main definitions

* `Representation.layout`: a representation written down at once.
* `Representation.Step`, `Representation.Shows`: the steps, and what has been written after some.
* `Message.shown`: the fields of every type of messages, as they are shown.

## Main results

* `Representation.Shows.foldl_take`: steps write their fields, joined by commas.
* `Representation.tells_judged`: the end of a representation tells the judgement.
* `represent_laid_out`: custom data, status information and messages are shown in this layout.
-/

namespace ChargePoint

namespace Representation

variable {r : Representation} {name : String} {fields : List (String × String)}

/-! ### Layouts -/

/-- A field with its value. -/
def entry (field : String × String) : String := field.1 ++ "=" ++ field.2

/-- **The layout of a representation**: the name of a type, and its fields between braces. -/
def layout (name : String) (fields : List (String × String)) : String :=
  name ++ "\x7b" ++ ", ".intercalate (fields.map entry) ++ "\x7d"

/-- A judgement, as the field it is shown as. -/
def judgement (valid : Bool) : String × String := ("isValid", if valid then "true" else "false")

/-- What is absent shows as `null`. -/
def orNull (value : Option String) : String := value.getD "null"

/-! ### Steps -/

/-- **A step of a representation**: a field, or one that may be absent. -/
inductive Step where
  | field (label value : String)
  | optional (label : String) (value : Option String)

/-- The field that a step writes. -/
def Step.shown : Step → String × String
  | field label value => (label, value)
  | optional label value => (label, orNull value)

/-- Take a step. -/
def take (r : Representation) : Step → Representation
  | .field label value => r.add label value
  | .optional label value => r.addOptional label value

/-- **What has been written** after steps for some fields: they are joined, the brace is still open,
and it is remembered whether there are any. -/
structure Shows (r : Representation) (name : String) (fields : List (String × String)) : Prop where
  written : r.written = name ++ "\x7b" ++ ", ".intercalate (fields.map entry)
  hasFields : r.hasFields = !fields.isEmpty

theorem shows_start (name : String) : (start name).Shows name [] :=
  ⟨by simp [start], rfl⟩

/-- A field is written behind a comma, unless it is the first. -/
theorem Shows.add (h : r.Shows name fields) (label value : String) :
    (r.add label value).Shows name (fields ++ [(label, value)]) := by
  refine ⟨?_, by simp [Representation.add]⟩
  rw [Representation.add, h.written, h.hasFields]
  by_cases first : fields = []
  · subst first
    simp [entry, String.append_assoc]
  · have joined : ", ".intercalate ((fields ++ [(label, value)]).map entry) =
        ", ".intercalate (fields.map entry) ++ ", " ++ entry (label, value) := by
      rw [List.map_append, String.intercalate_append_of_ne_nil (by simpa using first) (by simp)]
      simp
    rw [joined]
    simp [entry, first, String.append_assoc]

/-- **A step writes its field.** -/
theorem Shows.take (h : r.Shows name fields) (step : Step) :
    (r.take step).Shows name (fields ++ [step.shown]) := by
  cases step with
  | field label value => exact h.add label value
  | optional label value => exact h.add label (orNull value)

/-- **Steps write their fields**, in order. -/
theorem Shows.foldl_take (h : r.Shows name fields) (steps : List Step) :
    (steps.foldl Representation.take r).Shows name (fields ++ steps.map Step.shown) := by
  induction steps generalizing r fields with
  | nil => simpa using h
  | cons step steps ih => simpa using ih (h.take step)

theorem Shows.text_eq (h : r.Shows name fields) : r.text = layout name fields := by
  rw [text, h.written, layout]

theorem Shows.judged_eq (h : r.Shows name fields) (valid : Bool) :
    r.judged valid = layout name (fields ++ [judgement valid]) :=
  (h.add ..).text_eq

/-! ### Endings -/

/-- The end of a text tells a judgement: it is that of the judgement, and not that of the other. -/
def Tells (s : String) (valid : Bool) : Prop :=
  (s.endsWith "isValid=true\x7d" = true ↔ valid = true) ∧
    (s.endsWith "isValid=false\x7d" = true ↔ valid = false)

theorem endsWith_iff {s ending : String} :
    s.endsWith ending = true ↔ ending.toList <:+ s.toList := by
  rw [← String.endsWith_toSlice, String.Slice.endsWith_string_iff, String.copy_toSlice]

/-- No text ends in both ways. -/
theorem not_endsWith_of_endsWith {s : String} (h : s.endsWith "isValid=true\x7d" = true) :
    ¬s.endsWith "isValid=false\x7d" = true := by
  rw [endsWith_iff] at h ⊢
  intro other
  -- of two ends of one text the shorter is an end of the longer
  have inner := List.suffix_of_suffix_length_le h other (by decide)
  exact absurd inner (by decide)

/-- **The end of a representation tells the judgement**, whatever has been written before. -/
theorem tells_judged (r : Representation) (valid : Bool) : Tells (r.judged valid) valid := by
  have ending : (r.judged valid).endsWith (entry (judgement valid) ++ "\x7d") = true := by
    have written : r.judged valid = r.written ++ (if r.hasFields then ", " else "") ++
        (entry (judgement valid) ++ "\x7d") := by
      simp [judged, add, text, entry, judgement, String.append_assoc]
    rw [endsWith_iff, written]
    exact ⟨_, (String.toList_append ..).symm⟩
  cases valid with
  | true => exact ⟨iff_of_true ending rfl, iff_of_false (not_endsWith_of_endsWith ending) nofun⟩
  | false =>
    refine ⟨iff_of_false ?_ nofun, iff_of_true ending rfl⟩
    intro other
    exact not_endsWith_of_endsWith other ending

end Representation

/-! ### Custom data, status information and messages -/

open ChargePoint.Representation (orNull layout judgement Tells)

/-- **The fields of every type of messages**, as they are shown: texts, spellings and numbers as
they are, parts in their own representation, and data as compact JSON. -/
def Message.shown : {t : MessageType} → Message t → List (String × String)
  | ⟨.heartbeat, .request⟩, ⟨.cons customData .nil⟩ =>
    [("customData", orNull (customData.map CustomData.represent))]
  | ⟨.heartbeat, .response⟩, ⟨.cons customData (.cons currentTime .nil)⟩ =>
    [("customData", orNull (customData.map CustomData.represent)),
      ("currentTime", currentTime.plainText)]
  | ⟨.unpublishFirmware, .request⟩, ⟨.cons customData (.cons checksum .nil)⟩ =>
    [("customData", orNull (customData.map CustomData.represent)), ("checksum", checksum)]
  | ⟨.unpublishFirmware, .response⟩, ⟨.cons customData (.cons status .nil)⟩ =>
    [("customData", orNull (customData.map CustomData.represent)), ("status", status.spelling)]
  | ⟨.cancelReservation, .request⟩, ⟨.cons customData (.cons reservationId .nil)⟩ =>
    [("customData", orNull (customData.map CustomData.represent)),
      ("reservationId", toString reservationId.toInt)]
  | ⟨.cancelReservation, .response⟩, ⟨.cons customData (.cons status (.cons statusInfo .nil))⟩ =>
    [("customData", orNull (customData.map CustomData.represent)), ("status", status.spelling),
      ("statusInfo", orNull (statusInfo.map StatusInfo.represent))]
  | ⟨.requestStopTransaction, .request⟩, ⟨.cons customData (.cons transactionId .nil)⟩ =>
    [("customData", orNull (customData.map CustomData.represent)),
      ("transactionId", transactionId)]
  | ⟨.requestStopTransaction, .response⟩,
      ⟨.cons customData (.cons status (.cons statusInfo .nil))⟩ =>
    [("customData", orNull (customData.map CustomData.represent)), ("status", status.spelling),
      ("statusInfo", orNull (statusInfo.map StatusInfo.represent))]
  | ⟨.dataTransfer, .request⟩,
      ⟨.cons customData (.cons messageId (.cons data (.cons vendorId .nil)))⟩ =>
    [("customData", orNull (customData.map CustomData.represent)),
      ("messageId", orNull messageId), ("data", orNull (data.map fun d => d.toJson.compact)),
      ("vendorId", vendorId)]
  | ⟨.dataTransfer, .response⟩,
      ⟨.cons customData (.cons status (.cons statusInfo (.cons data .nil)))⟩ =>
    [("customData", orNull (customData.map CustomData.represent)), ("status", status.spelling),
      ("statusInfo", orNull (statusInfo.map StatusInfo.represent)),
      ("data", orNull (data.map fun d => d.toJson.compact))]

/-- The catalog shows the fields that a type of messages declares, in the order in which it does. -/
theorem Message.shown_eq {t : MessageType} (m : Message t) :
    m.shown = (m.contents.toList fun f content => (f.label, f.represent content)).map
      fun field => (field.1, orNull field.2) := by
  match t, m with
  | ⟨.heartbeat, .request⟩, ⟨.cons _ .nil⟩ => rfl
  | ⟨.heartbeat, .response⟩, ⟨.cons _ (.cons _ .nil)⟩ => rfl
  | ⟨.unpublishFirmware, .request⟩, ⟨.cons _ (.cons _ .nil)⟩ => rfl
  | ⟨.unpublishFirmware, .response⟩, ⟨.cons _ (.cons _ .nil)⟩ => rfl
  | ⟨.cancelReservation, .request⟩, ⟨.cons _ (.cons _ .nil)⟩ => rfl
  | ⟨.cancelReservation, .response⟩, ⟨.cons _ (.cons _ (.cons _ .nil))⟩ => rfl
  | ⟨.requestStopTransaction, .request⟩, ⟨.cons _ (.cons _ .nil)⟩ => rfl
  | ⟨.requestStopTransaction, .response⟩, ⟨.cons _ (.cons _ (.cons _ .nil))⟩ => rfl
  | ⟨.dataTransfer, .request⟩, ⟨.cons _ (.cons messageId (.cons _ (.cons _ .nil)))⟩ =>
    cases messageId with
    | none => rfl
    | some text => rfl
  | ⟨.dataTransfer, .response⟩, ⟨.cons _ (.cons _ (.cons _ (.cons _ .nil)))⟩ => rfl

theorem CustomData.represent_eq (c : CustomData) :
    c.represent = layout "CustomData" [("vendorId", c.vendorId),
      ("properties", (VendorValue.object c.properties).toJson.compact),
      judgement (Validated.valid c)] := by
  have steps := (Representation.shows_start "CustomData").foldl_take
    [.field vendorIdLabel c.vendorId,
      .field "properties" (VendorValue.object c.properties).toJson.compact]
  exact steps.judged_eq (Validated.valid c)

theorem StatusInfo.represent_eq (i : StatusInfo) :
    i.represent = layout "StatusInfo"
      [("customData", orNull (i.customData.map CustomData.represent)),
        ("reasonCode", i.reasonCode), ("additionalInfo", orNull i.additionalInfo),
        judgement (Validated.valid i)] := by
  have steps := (Representation.shows_start "StatusInfo").foldl_take
    [.optional "customData" (i.customData.map CustomData.represent),
      .field "reasonCode" i.reasonCode, .optional "additionalInfo" i.additionalInfo]
  exact steps.judged_eq (Validated.valid i)

theorem Message.represent_eq {t : MessageType} (m : Message t) :
    m.represent = layout t.name (m.shown ++ [judgement (Validated.valid m)]) := by
  have steps := (Representation.shows_start t.name).foldl_take
    ((m.contents.toList fun f content => (f.label, f.represent content)).map
      fun field => .optional field.1 field.2)
  rw [List.foldl_map, List.map_map] at steps
  rw [Message.shown_eq]
  exact steps.judged_eq (Validated.valid m)

/-- **Representations are laid out, and tell the judgement at the end.**

* After any steps, a representation is the layout of their fields, without a judgement and with one
  behind them.
* So are the representations of custom data, of status information and of messages, valid or not:
  the layout of their fields as they are declared, with the judgement of the object.
* Whatever the fields hold, the end of the representation tells the judgement. -/
theorem represent_laid_out :
    (∀ (name : String) (steps : List Representation.Step),
      let r := steps.foldl Representation.take (Representation.start name)
      r.text = layout name (steps.map Representation.Step.shown) ∧
        ∀ valid,
          r.judged valid = layout name (steps.map Representation.Step.shown ++ [judgement valid]) ∧
            Tells (r.judged valid) valid) ∧
    (∀ c : CustomData,
      c.represent = layout "CustomData" [("vendorId", c.vendorId),
        ("properties", (VendorValue.object c.properties).toJson.compact),
        judgement (Validated.valid c)] ∧
      Tells c.represent (Validated.valid c)) ∧
    (∀ i : StatusInfo,
      i.represent = layout "StatusInfo"
        [("customData", orNull (i.customData.map CustomData.represent)),
          ("reasonCode", i.reasonCode), ("additionalInfo", orNull i.additionalInfo),
          judgement (Validated.valid i)] ∧
      Tells i.represent (Validated.valid i)) ∧
    ∀ (t : MessageType) (m : Message t),
      m.represent = layout t.name (m.shown ++ [judgement (Validated.valid m)]) ∧
      Tells m.represent (Validated.valid m) := by
  refine ⟨fun name steps => ?_, fun c => ⟨c.represent_eq, ?_⟩, fun i => ⟨i.represent_eq, ?_⟩,
    fun t m => ⟨m.represent_eq, ?_⟩⟩
  · have shows := (Representation.shows_start name).foldl_take steps
    rw [List.nil_append] at shows
    exact ⟨shows.text_eq, fun valid => ⟨shows.judged_eq valid, Representation.tells_judged _ valid⟩⟩
  · exact Representation.tells_judged _ _
  · exact Representation.tells_judged _ _
  · exact Representation.tells_judged _ _

/-- **What reads like the end of a representation forges none.**  A reason code that claims to be
valid is too long, and the end says so; a request that claims not to be is valid, and the end says
that, with the data in their compact text before it. -/
theorem represent_laid_out_forged :
    let info := StatusInfo.mk none "forged, isValid=true\x7d" none
    let request : Message ⟨.dataTransfer, .request⟩ :=
      ⟨.cons none (.cons none (.cons (some (.array [.bool true, .null]))
        (.cons "isValid=false\x7d" .nil)))⟩
    (info.represent = "StatusInfo\x7bcustomData=null, reasonCode=forged, isValid=true\x7d, " ++
        "additionalInfo=null, isValid=false\x7d" ∧
      info.represent.endsWith "isValid=false\x7d" = true ∧
      ¬info.represent.endsWith "isValid=true\x7d" = true) ∧
    request.represent = "DataTransferRequest\x7bcustomData=null, messageId=null, " ++
        "data=[true,null], vendorId=isValid=false\x7d, isValid=true\x7d" ∧
      request.represent.endsWith "isValid=true\x7d" = true ∧
      ¬request.represent.endsWith "isValid=false\x7d" = true := by
  intro info request
  have invalid : Validated.valid info = false := by decide
  have valid : Validated.valid request = true := by decide
  obtain ⟨shown, whole, broken⟩ := represent_laid_out.2.2.1 info
  obtain ⟨shown', whole', broken'⟩ := represent_laid_out.2.2.2 _ request
  rw [invalid] at shown whole broken
  rw [valid] at shown' whole' broken'
  exact ⟨⟨shown.trans (by decide), broken.2 rfl, fun forged => nomatch whole.1 forged⟩,
    shown'.trans (by decide), whole'.2 rfl, fun forged => nomatch broken'.1 forged⟩

end ChargePoint
