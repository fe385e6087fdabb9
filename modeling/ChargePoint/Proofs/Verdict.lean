import ChargePoint.Proofs.Json.Printer
import ChargePoint.Proofs.Message.Depth
import ChargePoint.Verdict

/-!
# Verdicts

A payload is accepted when the name of an operation is known, the octets write a value, and a
message is decoded from it.  Then the message is valid and can be written, so nothing is left that
could go wrong: the verdict is one of two, and normalizing only adds to what is printed.  What it
adds is a payload of the same message, and is accepted with the same verdict.

## Main definitions

* `Settings.Accepts`: the message of a payload that is accepted.

## Main results

* `TypedMessage.exists_payload`: a message that was decoded has a payload, which is decoded to it.
* `Settings.Accepts.exists_payload`: what is accepted has a payload, which is accepted.
* `Settings.Accepts.verdict_eq`, `Settings.verdict_of_not_accepts`: the two verdicts.
* `verdict_normalized`: the verdict on any octets, and on what it prints.
-/

namespace ChargePoint

theorem Action.parse_eq_ok_iff {name : String} {action : Action} :
    parse name = .ok action ↔ action.name = name := by
  constructor
  · intro h
    unfold parse at h
    split at h
    · rename_i found
      cases h
      exact eq_of_beq (List.find?_some (p := fun action : Action => action.name == name) found)
    · cases h
  · rintro rfl
    cases action <;> rfl

/-- **A message that was decoded has a payload**, no deeper than the one it came in and decoded to
the message again. -/
theorem TypedMessage.exists_payload {action : Action} {direction : Direction} {v : Json}
    {m : TypedMessage} (canonical : v.Canonical) (decoded : decode action direction v = .ok m) :
    Validated.valid m = true ∧ ∃ p, m.payload = .ok p ∧ p.Canonical ∧ p.depth ≤ v.depth ∧
      decode action direction p = .ok m := by
  obtain ⟨m, hm, rfl⟩ := map_eq_ok_iff.1 decoded
  obtain ⟨read, valid⟩ := (Message.decode_iff canonical).1 hm
  obtain ⟨draft, -, made⟩ := bind_eq_ok_iff.1 hm
  have sound : m.Sound := Message.sound_ofDraft (mapError_eq_ok_iff.1 made)
  have back := Message.decode_canonical_write sound (Message.ordered_of_decode hm)
  refine ⟨valid, m.write.canonical, encode_eq_ok valid, Json.canonical_canonical _,
    Message.depth_canonical_write_le canonical read, ?_⟩
  rw [decode, back]
  rfl

/-! ### Octets -/

/-- What octets write is a value, and not too deep. -/
theorem Json.canonical_of_ofUtf8? {octets : ByteArray} {v : Json} (h : ofUtf8? octets = some v) :
    v.Canonical ∧ v.depth ≤ Reading.depthLimit := by
  obtain ⟨text, -, h⟩ := Option.bind_eq_some_iff.1 h
  have parsed : parse text = .ok v := toOption_eq_some_iff.1 h
  obtain ⟨tree, -, rfl⟩ := parse_eq_ok_iff.1 parsed
  exact ⟨canonical_canonical tree, depth_le_of_parse parsed⟩

/-- A text is read from its octets. -/
theorem Json.ofUtf8?_toUTF8 {text : String} {v : Json} (h : parse text = .ok v) :
    ofUtf8? text.toUTF8 = some v := by
  have whole : String.fromUTF8? text.toUTF8 = some text := dif_pos text.isValidUTF8
  exact Option.bind_eq_some_iff.2 ⟨text, whole, toOption_eq_some_iff.2 h⟩

namespace Settings

variable {s : Settings} {octets : ByteArray} {m : TypedMessage}

/-- **The message of a payload that is accepted**: of the operation that is named and the half that
is asked for, decoded from the value that the octets write. -/
def Accepts (s : Settings) (octets : ByteArray) (m : TypedMessage) : Prop :=
  ∃ action v, action.name = s.action ∧ Json.ofUtf8? octets = some v ∧
    TypedMessage.decode action s.direction v = .ok m

/-- **Checking comes down to acceptance**, and to what is then said of the message. -/
theorem check_eq_ok_iff {finding : Finding} :
    s.check (some octets) = .ok finding ↔
      ∃ m, s.Accepts octets m ∧ m.finding s.normalize = .ok finding := by
  simp only [check, bind_eq_ok_iff, mapError_eq_ok_iff, Action.parse_eq_ok_iff, Accepts]
  constructor
  · rintro ⟨action, known, h⟩
    split at h
    · rename_i v written
      simp only [bind_eq_ok_iff, mapError_eq_ok_iff] at h
      obtain ⟨m, decoded, said⟩ := h
      exact ⟨m, ⟨action, v, known, written, decoded⟩, said⟩
    · cases h
  · rintro ⟨m, ⟨action, v, known, written, decoded⟩, said⟩
    refine ⟨action, known, ?_⟩
    rw [written]
    simp only [bind_eq_ok_iff, mapError_eq_ok_iff]
    exact ⟨m, decoded, said⟩

/-- What is accepted is valid. -/
theorem Accepts.valid (h : s.Accepts octets m) : Validated.valid m = true := by
  obtain ⟨action, v, -, written, decoded⟩ := h
  exact (TypedMessage.exists_payload (Json.canonical_of_ofUtf8? written).1 decoded).1

/-- **What is accepted has a payload**, and that payload is accepted as the same message once the
floats in it are read back. -/
theorem Accepts.exists_payload (h : s.Accepts octets m) :
    ∃ p, m.payload = .ok p ∧ p.depth ≤ Reading.depthLimit ∧
      (p.FloatsReadBack → ∀ blanks : String, skipBlanks blanks.toList = [] →
        s.Accepts (p.pretty ++ blanks).toUTF8 m) := by
  obtain ⟨action, v, known, written, decoded⟩ := h
  obtain ⟨canonical, shallow⟩ := Json.canonical_of_ofUtf8? written
  obtain ⟨-, p, payload, inOrder, below, again⟩ := TypedMessage.exists_payload canonical decoded
  have shallow := Nat.le_trans below shallow
  refine ⟨p, payload, shallow, fun floats blanks blank => ⟨action, p, known, ?_, again⟩⟩
  exact Json.ofUtf8?_toUTF8 (Json.parse_pretty inOrder shallow floats blank)

/-- **The verdict on a payload that is accepted.** -/
theorem Accepts.verdict_eq {p : Json} (h : s.Accepts octets m) (payload : m.payload = .ok p) :
    s.verdict (some octets) =
      ⟨0, if s.normalize then m.represent ++ "\n" ++ p.pretty ++ "\n" else m.represent ++ "\n",
        none⟩ := by
  have said : m.finding s.normalize =
      .ok ⟨if s.normalize then m.represent ++ "\n" ++ p.pretty else m.represent, true⟩ := by
    rw [TypedMessage.finding, payload, h.valid]
    cases s.normalize <;> rfl
  rw [verdict, check_eq_ok_iff.2 ⟨m, h, said⟩, Verdict.ofFinding]
  cases s.normalize <;> rfl

/-- **The verdict on any other payload.** -/
theorem verdict_of_not_accepts (h : ∀ m, ¬s.Accepts octets m) :
    ∃ complaint, s.verdict (some octets) = ⟨2, "", some complaint⟩ := by
  cases checked : s.check (some octets) with
  | ok finding =>
    obtain ⟨m, accepted, -⟩ := check_eq_ok_iff.1 checked
    exact absurd accepted (h m)
  | error fault => exact ⟨fault.message, by rw [verdict, checked]; rfl⟩

/-- A payload is accepted or it is not, and there is no third verdict: what is accepted is valid and
has a payload. -/
theorem verdict_cases (s : Settings) (octets : ByteArray) :
    (∃ m, s.Accepts octets m) ∧ (s.verdict (some octets)).exit = 0 ∨
      (∀ m, ¬s.Accepts octets m) ∧
        ∃ complaint, s.verdict (some octets) = ⟨2, "", some complaint⟩ := by
  by_cases accepted : ∃ m, s.Accepts octets m
  · obtain ⟨m, accepted⟩ := accepted
    obtain ⟨p, payload, -, -⟩ := accepted.exists_payload
    exact .inl ⟨⟨m, accepted⟩, congrArg Verdict.exit (accepted.verdict_eq payload)⟩
  · have refused (m : TypedMessage) : ¬s.Accepts octets m := fun h => accepted ⟨m, h⟩
    exact .inr ⟨refused, verdict_of_not_accepts refused⟩

/-- The exit tells whether the octets are accepted. -/
theorem exit_eq_zero_iff (s : Settings) (octets : ByteArray) :
    (s.verdict (some octets)).exit = 0 ↔ ∃ m, s.Accepts octets m := by
  rcases s.verdict_cases octets with ⟨accepted, zero⟩ | ⟨refused, complaint, two⟩
  · exact iff_of_true zero accepted
  · rw [two]
    exact iff_of_false (fun zero => nomatch zero) (not_exists.2 refused)

theorem exit_cases (s : Settings) (octets : ByteArray) :
    (s.verdict (some octets)).exit = 0 ∨
      (s.verdict (some octets)).exit = 2 ∧ (s.verdict (some octets)).output = "" := by
  rcases s.verdict_cases octets with ⟨-, zero⟩ | ⟨-, complaint, two⟩
  · exact .inl zero
  · rw [two]
    exact .inr ⟨rfl, rfl⟩

/-- **The status comes from acceptance alone.** -/
theorem exit_congr {s s' : Settings} (same : ∀ m, s.Accepts octets m ↔ s'.Accepts octets m) :
    (s.verdict (some octets)).exit = (s'.verdict (some octets)).exit := by
  have zero : (s.verdict (some octets)).exit = 0 ↔ (s'.verdict (some octets)).exit = 0 := by
    rw [s.exit_eq_zero_iff, s'.exit_eq_zero_iff]
    exact exists_congr same
  rcases s.exit_cases octets with this | ⟨this, -⟩
  · exact this.trans (zero.1 this).symm
  · rcases s'.exit_cases octets with other | ⟨other, -⟩
    · exact (zero.2 other).trans other.symm
    · exact this.trans other.symm

end Settings

/-- **The verdict on a payload.**  It is one of two, whatever is to be normalized and told: a
payload that is accepted, as a message, ends the program with status 0, and any other with status 2
and nothing printed.  Normalizing adds the payload that the message writes to what is printed.  If
the floats in that payload are read back, it is accepted in its turn, with the same verdict. -/
theorem verdict_normalized (s : Settings) (octets : ByteArray) :
    let verdict := s.verdict (some octets)
    let plain := { s with normalize := false }.verdict (some octets)
    let normalized := { s with normalize := true }.verdict (some octets)
    (verdict.exit = 0 ∨ verdict.exit = 2) ∧
      (verdict.exit = 0 ↔ ∃ action v m, action.name = s.action ∧ Json.ofUtf8? octets = some v ∧
        TypedMessage.decode action s.direction v = .ok m) ∧
      (verdict.exit = 2 → verdict.output = "") ∧
      (∀ normalize logLevel,
        ({ s with normalize, logLevel }.verdict (some octets)).exit = verdict.exit) ∧
      ∀ action v m, action.name = s.action → Json.ofUtf8? octets = some v →
        TypedMessage.decode action s.direction v = .ok m →
          ∃ p, m.payload = .ok p ∧ p.depth ≤ 127 ∧
            normalized.output = plain.output ++ p.pretty ++ "\n" ∧
            (p.FloatsReadBack → ∀ blanks : String, skipBlanks blanks.toList = [] →
              { s with normalize := true }.verdict (some (p.pretty ++ blanks).toUTF8) =
                normalized) := by
  -- neither what is to be normalized nor what is to be told has a part in acceptance
  have same (normalize : Bool) (logLevel : String) (m : TypedMessage) :
      Settings.Accepts { s with normalize, logLevel } octets m ↔ s.Accepts octets m := Iff.rfl
  refine ⟨?_, ?_, ?_, ?_, ?_⟩
  · exact (s.exit_cases octets).imp_right And.left
  · rw [s.exit_eq_zero_iff]
    exact ⟨fun ⟨m, action, v, h⟩ => ⟨action, v, m, h⟩, fun ⟨action, v, m, h⟩ => ⟨m, action, v, h⟩⟩
  · intro exit
    rcases s.exit_cases octets with zero | ⟨-, nothing⟩
    · cases zero.symm.trans exit
    · exact nothing
  · intro normalize logLevel
    exact Settings.exit_congr (same normalize logLevel)
  · intro action v m known written decoded
    have accepted : s.Accepts octets m := ⟨action, v, known, written, decoded⟩
    obtain ⟨p, payload, shallow, again⟩ := accepted.exists_payload
    have plain := ((same false s.logLevel m).2 accepted).verdict_eq payload
    have normalized := ((same true s.logLevel m).2 accepted).verdict_eq payload
    refine ⟨p, payload, shallow, ?_, fun floats blanks blank => ?_⟩
    · rw [plain, normalized]
      rfl
    · have reread : Settings.Accepts { s with normalize := true } (p.pretty ++ blanks).toUTF8 m :=
        again floats blanks blank
      rw [normalized, reread.verdict_eq payload]

/-- A float inside the data comes back, and what is `null` is not printed. -/
theorem verdict_normalized_float :
    let x : Binary64 := ⟨false, 6755399441055744, -52, by decide⟩
    let data : Json := .array [.number (.float x)]
    let v : Json := .object [("customData", .null), ("data", data), ("status", .string "Accepted")]
    let w : Json := .object [("data", data), ("status", .string "Accepted")]
    let s : Settings := ⟨"DataTransfer", .response, true, "warn"⟩
    (s.verdict (some (v.pretty ++ "\n").toUTF8)).exit = 0 ∧ w.FloatsReadBack ∧
      s.verdict (some (w.pretty ++ "\n").toUTF8) = s.verdict (some (v.pretty ++ "\n").toUTF8) := by
  intro x data v w s
  have leading : x.leadingExponent = 0 := by
    rw [x.leadingExponent_eq]
    decide +kernel
  have shortest : x.shortest = ⟨15, -1⟩ := by
    rw [Binary64.shortest, leading]
    decide +kernel
  have text : x.text .wire = "1.5" := by
    rw [Binary64.text, shortest]
    decide +kernel
  have back : x.ReadsBack := by
    refine Binary64.readsBack_iff.2 ⟨⟨false, ['1'], some ['5'], none⟩, [], ?_, rfl, ?_⟩
    · rw [text]
      exact ⟨_, rfl, rfl⟩
    · decide +kernel
  have canonical : v.Canonical := ⟨by decide, trivial, ⟨trivial, trivial⟩, trivial, trivial⟩
  have written : Json.ofUtf8? (v.pretty ++ "\n").toUTF8 = some v := by
    refine Json.ofUtf8?_toUTF8 (Json.parse_pretty canonical (by decide) ?_ rfl)
    exact ⟨trivial, ⟨back, trivial⟩, trivial, trivial⟩
  let m : TypedMessage := ⟨⟨.dataTransfer, .response⟩,
    ⟨.cons none (.cons ⟨"Accepted", by decide⟩ (.cons none
      (.cons (some (.array [.number (.float x)])) .nil)))⟩⟩
  have decoded : decode (Message ⟨.dataTransfer, .response⟩) v = .ok m.message := rfl
  obtain ⟨read, valid⟩ := (Message.decode_iff canonical).1 decoded
  have payload : m.payload = .ok w := by
    refine (encode_eq_ok valid).trans (congrArg Except.ok ?_)
    exact Message.canonical_write_of_readFrom canonical read
      (fun _ h => ⟨"Accepted", (Option.some.inj h).symm⟩) nofun
  have floats : w.FloatsReadBack := ⟨⟨back, trivial⟩, trivial, trivial⟩
  obtain ⟨-, exit, -, -, normalized⟩ := verdict_normalized s (v.pretty ++ "\n").toUTF8
  refine ⟨exit.2 ⟨.dataTransfer, v, m, rfl, written, congrArg (Except.map _) decoded⟩, floats, ?_⟩
  obtain ⟨p, payload', -, -, again⟩ := normalized .dataTransfer v m rfl written
    (congrArg (Except.map _) decoded)
  obtain rfl : p = w := Except.ok.inj (payload'.symm.trans payload)
  exact again floats "\n" rfl

end ChargePoint
