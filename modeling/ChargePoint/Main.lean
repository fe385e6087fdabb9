import ChargePoint.Verdict

/-!
# The command line

Checks a payload in a file, or on the standard input, and prints the verdict.

## Main definitions

* `Command`, `Command.ofArguments`: what the arguments ask for.
* `Command.payload`: the payload that they name.
-/

namespace ChargePoint

/-- **What the arguments ask for**: settings, and a file or `-`. -/
structure Command where
  settings : Settings
  file : String

namespace Command

/-- What has been read of the arguments. -/
structure Draft where
  action : Option String := none
  direction : Direction := .request
  normalize : Bool := false
  logLevel : String := "warn"
  file : Option String := none

/-- How the program is called. -/
def usage : String :=
  "usage: --action ACTION [--direction request|response] [--log-level LEVEL] [--normalize] FILE"

/-- The command of arguments, into what was read before them. -/
def read : List String → Draft → Except String Command
  | [], c =>
    match c.action, c.file with
    | some action, some file => .ok ⟨⟨action, c.direction, c.normalize, c.logLevel⟩, file⟩
    | _, _ => .error usage
  | "--normalize" :: rest, c => read rest { c with normalize := true }
  | argument :: rest, c =>
    match argument, rest with
    | "--action", value :: rest | "-a", value :: rest => read rest { c with action := some value }
    | "--direction", value :: rest | "-d", value :: rest =>
      match Direction.ofName? value with
      | some direction => read rest { c with direction }
      | none => .error usage
    | "--log-level", value :: rest | "-l", value :: rest => read rest { c with logLevel := value }
    | file, rest =>
      if c.file.isSome || (file.startsWith "-" && file ≠ "-") then .error usage
      else read rest { c with file := some file }

/-- **The command of arguments.** -/
def ofArguments (arguments : List String) : Except String Command := read arguments {}

/-- All octets of a stream. -/
partial def readAll (stream : IO.FS.Stream) (octets : ByteArray) : IO ByteArray := do
  let more ← stream.read 65536
  if more.isEmpty then return octets else readAll stream (octets ++ more)

/-- The payload, if it can be read. -/
def payload (c : Command) : IO (Option ByteArray) := do
  try
    if c.file = "-" then return some (← readAll (← IO.getStdin) .empty)
    else return some (← IO.FS.readBinFile c.file)
  catch _ => return none

/-- Check the payload and print the verdict. -/
def run (c : Command) : IO UInt32 := do
  let verdict := c.settings.verdict (← c.payload)
  IO.print verdict.output
  if let some complaint := verdict.error then IO.eprintln ("error: " ++ complaint)
  return verdict.exit.toUInt32

end Command

end ChargePoint

/-- Run the command of the arguments; wrong arguments end the program with status 2. -/
def main (arguments : List String) : IO UInt32 :=
  match ChargePoint.Command.ofArguments arguments with
  | .ok command => command.run
  | .error usage => do
    IO.eprintln usage
    return 2
