import SealedEnvelope.CommandLine.Run

/-!
The program: arguments and surroundings in, texts and status out.
-/

namespace SealedEnvelope.CommandLine

/-- Standard input to its end, behind what was read of it. -/
partial def readAll (stream : IO.FS.Stream) (read : ByteArray) : IO ByteArray := do
  let chunk ← stream.read 65536
  if chunk.isEmpty then pure read else readAll stream (read ++ chunk)

/-- What an error of the system says, with its number. -/
def reasonOf : IO.Error → String
  | .inappropriateType _ code details | .illegalOperation code details
  | .invalidArgument _ code details | .permissionDenied _ code details
  | .resourceExhausted _ code details | .resourceVanished code details
  | .hardwareFault code details | .otherError code details => s!"{details} (os error {code})"
  | error => toString error

/-- Standard input, or why it cannot be read. -/
def readStandardInput : IO StandardInput := do
  try
    return .bytes (← readAll (← IO.getStdin) ByteArray.empty).toList
  catch error => return .unreadable (reasonOf error)

end SealedEnvelope.CommandLine

open SealedEnvelope.CommandLine in
def main (arguments : List String) : IO UInt32 := do
  let settings : Settings :=
    { key? := ← IO.getEnv "PARCEL_CODEC_KEY", filter? := ← IO.getEnv "RUST_LOG" }
  -- A run that does not get to its input comes out the same with any.
  let standardInput ←
    if readsInput arguments settings then readStandardInput else pure (.bytes [])
  let drawn := SealedEnvelope.Nonce.ofBytes (← IO.getRandomBytes 12).toList
  let exit := run arguments settings standardInput drawn
  IO.print exit.output
  IO.eprint exit.errors
  pure exit.status.toUInt32
