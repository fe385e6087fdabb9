import ChargePoint.Data.StatusInfo
import ChargePoint.Payload.Exchange
import ChargePoint.Proofs.Outcome

/-!
# What payloads and exchanges let through

Nothing is demanded of the types that have payloads: what a type judges to be valid, how it writes
its values, and what it reads and commits are its own affair, and a type may well decode a payload
to a value that is not valid.  The layer of payloads looks at the judgement itself, on every way in
and on every way out, and so no message that is not valid is encoded, called, or returned.

## Main definitions

* `Notice`: a type that decodes payloads and holds nothing to its limits.

## Main results

* `encode_eq_invalid_iff`, `Call.new_eq_error_iff`, `CallResult.new_eq_error_iff`: what is refused,
  and the type that is named.
* `CallResult.receive_eq_ok_iff`: a response that comes in has to decode to a valid message.
* `refused_iff_not_valid`: all ways into an exchange, and the payloads that leave it.
-/

namespace ChargePoint

/-! ### Encoding -/

section Encoding

variable {M : Type} [Wire M] {m : M}

/-- Of a valid message the payload is what its type writes, unless the type fails to. -/
theorem encode_of_valid (valid : Validated.valid m = true) :
    encode m = ((Wire.write m).map Json.canonical).mapError PayloadFault.shape :=
  if_pos valid

/-- **Encoding refuses a message** as invalid exactly when it is, and names its type. -/
theorem encode_eq_invalid_iff {kind : String} :
    encode m = .error (.invalid kind) ↔ Validated.valid m = false ∧ kind = Wire.name M := by
  cases valid : Validated.valid m with
  | false =>
    rw [encode, valid, if_neg Bool.false_ne_true, Except.error.injEq, PayloadFault.invalid.injEq,
      eq_comm]
    exact (and_iff_right rfl).symm
  | true =>
    rw [encode_of_valid valid, mapError_eq_error_iff]
    constructor
    · rintro ⟨fault, -, same⟩
      cases same
    · rintro ⟨invalid, -⟩
      cases invalid

theorem encode_ne_invalid (valid : Validated.valid m = true) (kind : String) :
    encode m ≠ .error (.invalid kind) := by
  intro refused
  have invalid := (encode_eq_invalid_iff.1 refused).1
  rw [valid] at invalid
  cases invalid

end Encoding

/-! ### Exchanges -/

namespace CallResult

variable {C : Type} [Wire C] {id : String} {response : C}

theorem new_eq_ok_iff {r : CallResult C} :
    new id response = .ok r ↔ r.messageId = id ∧ r.response = response := by
  rw [new, dite_eq_ok_iff]
  constructor
  · rintro ⟨valid, rfl⟩
    exact ⟨rfl, rfl⟩
  · rintro ⟨rfl, rfl⟩
    exact ⟨r.valid, rfl⟩

/-- **A response is refused** exactly when it is not valid, and its type is named. -/
theorem new_eq_error_iff {fault : PayloadFault} :
    new id response = .error fault ↔
      Validated.valid response = false ∧ fault = .invalid (Wire.name C) :=
  dite_eq_error_iff

/-- **A response that comes in** is decoded, and then judged like any other. -/
theorem receive_eq_ok_iff {v : Json} {r : CallResult C} :
    receive C id v = .ok r ↔ decode C v = .ok r.response ∧ r.messageId = id := by
  simp only [receive, bind_eq_ok_iff, new_eq_ok_iff]
  constructor
  · rintro ⟨response, decoded, named, rfl⟩
    exact ⟨decoded, named⟩
  · rintro ⟨decoded, named⟩
    exact ⟨_, decoded, named, rfl⟩

/-- A response is received when it is decoded and valid. -/
theorem exists_receive_iff {v : Json} :
    (∃ r, receive C id v = .ok r) ↔ ∃ m, decode C v = .ok m ∧ Validated.valid m = true := by
  simp only [receive_eq_ok_iff]
  constructor
  · rintro ⟨r, decoded, -⟩
    exact ⟨r.response, decoded, r.valid⟩
  · rintro ⟨m, decoded, valid⟩
    exact ⟨⟨id, m, valid⟩, decoded, rfl⟩

end CallResult

namespace Call

variable {R : Type} [Wire R] {id : String} {request : R}

theorem new_eq_ok_iff {c : Call R} :
    new id request = .ok c ↔ c.messageId = id ∧ c.request = request := by
  rw [new, dite_eq_ok_iff]
  constructor
  · rintro ⟨valid, rfl⟩
    exact ⟨rfl, rfl⟩
  · rintro ⟨rfl, rfl⟩
    exact ⟨c.valid, rfl⟩

/-- **A request is refused** exactly when it is not valid, and its type is named. -/
theorem new_eq_error_iff {fault : PayloadFault} :
    new id request = .error fault ↔
      Validated.valid request = false ∧ fault = .invalid (Wire.name R) :=
  dite_eq_error_iff

end Call

/-- **No exchange lets an invalid message through**, whatever its type judges, writes, reads and
commits.

* A message is encoded, called, returned, and returned to a call unless it is not valid; then its
  type is named.
* What is called or returned is under the id that was given for it, an answer under that of its
  call.
* A response comes in exactly when its payload decodes to a valid message, and is that message.
* The payload of a call, and of a result, is never refused. -/
theorem refused_iff_not_valid {M R C : Type} [Wire M] [Wire R] [Wire C] [Request R C]
    (id : String) :
    (∀ m : M, encode m = .error (.invalid (Wire.name M)) ↔ Validated.valid m = false) ∧
      (∀ request : R,
        (Call.new id request = .error (.invalid (Wire.name R)) ↔
          Validated.valid request = false) ∧
        ∀ call, Call.new id request = .ok call ↔
          call.messageId = id ∧ call.request = request) ∧
      (∀ response : C,
        (CallResult.new id response = .error (.invalid (Wire.name C)) ↔
          Validated.valid response = false) ∧
        ∀ result, CallResult.new id response = .ok result ↔
          result.messageId = id ∧ result.response = response) ∧
      (∀ (call : Call R) (response : C),
        (call.answer response = .error (.invalid (Wire.name C)) ↔
          Validated.valid response = false) ∧
        ∀ result, call.answer response = .ok result ↔
          result.messageId = call.messageId ∧ result.response = response) ∧
      (∀ v,
        ((∃ result, CallResult.receive C id v = .ok result) ↔
          ∃ m, decode C v = .ok m ∧ Validated.valid m = true) ∧
        ∀ result, CallResult.receive C id v = .ok result ↔
          decode C v = .ok result.response ∧ result.messageId = id) ∧
      (∀ (call : Call R) (kind : String), call.payload ≠ .error (.invalid kind)) ∧
      ∀ (result : CallResult C) (kind : String), result.payload ≠ .error (.invalid kind) := by
  refine ⟨fun m => ?_, fun request => ⟨?_, fun call => ?_⟩, fun response => ⟨?_, fun result => ?_⟩,
    fun call response => ⟨?_, fun result => ?_⟩, fun v => ⟨?_, fun result => ?_⟩,
    fun call kind => ?_, fun result kind => ?_⟩
  · exact encode_eq_invalid_iff.trans (and_iff_left rfl)
  · exact Call.new_eq_error_iff.trans (and_iff_left rfl)
  · exact Call.new_eq_ok_iff
  · exact CallResult.new_eq_error_iff.trans (and_iff_left rfl)
  · exact CallResult.new_eq_ok_iff
  · exact CallResult.new_eq_error_iff.trans (and_iff_left rfl)
  · exact CallResult.new_eq_ok_iff
  · exact CallResult.exists_receive_iff
  · exact CallResult.receive_eq_ok_iff
  · exact encode_ne_invalid call.valid kind
  · exact encode_ne_invalid result.valid kind

/-! ### A type that checks nothing -/

/-- **Status information on its own**, as a message: whatever is read is committed as it is. -/
structure Notice where
  info : StatusInfo

instance : Validated Notice := ⟨fun n => Validated.valid n.info⟩

instance : Wire Notice where
  name := "Notice"
  action := .dataTransfer
  Draft := StatusInfo
  write n := .ok n.info.write
  read := StatusInfo.ofJson
  commit info := .ok ⟨info⟩

instance : Request Notice Notice := ⟨true⟩

/-- A reason code of `21` characters gets past the decoding of a notice, and no further. -/
theorem refused_notice :
    let long : Notice := ⟨⟨none, "012345678901234567890", none⟩⟩
    let v : Json := .object [("reasonCode", .string "012345678901234567890")]
    decode Notice v = .ok long ∧
      encode long = .error (.invalid "Notice") ∧
      Call.new "7" long = .error (.invalid "Notice") ∧
      CallResult.new "7" long = .error (.invalid "Notice") ∧
      ∀ result, CallResult.receive Notice "7" v ≠ .ok result := by
  intro long v
  have decoded : decode Notice v = .ok long := rfl
  have invalid : Validated.valid long = false := by decide
  obtain ⟨encoded, called, returned, -, received, -, -⟩ :=
    refused_iff_not_valid (M := Notice) (R := Notice) (C := Notice) "7"
  refine ⟨decoded, (encoded long).2 invalid, (called long).1.2 invalid,
    (returned long).1.2 invalid, fun result there => ?_⟩
  obtain ⟨m, same, valid⟩ := (received v).1.1 ⟨result, there⟩
  rw [decoded] at same
  cases same
  rw [invalid] at valid
  cases valid

end ChargePoint
