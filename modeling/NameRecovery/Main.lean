import NameRecovery.CommandLine.Run

/-!
# The program

Only here are files read and texts printed.  The arguments are read first, then the listing,
and then `Arguments.outcome` says what to print and how to exit.
-/

namespace NameRecovery.CommandLine

/-- The wording of a failed system call: what the system says, and its number. -/
def systemReason (e : IO.Error) : String :=
  let reason (details : String) (code : UInt32) : String := s!"{details} (os error {code})"
  match e with
  | .noFileOrDirectory _ code details
  | .invalidArgument _ code details
  | .permissionDenied _ code details
  | .resourceExhausted _ code details
  | .inappropriateType _ code details
  | .noSuchThing _ code details
  | .alreadyExists _ code details
  | .interrupted _ code details
  | .otherError code details
  | .resourceBusy code details
  | .resourceVanished code details
  | .unsupportedOperation code details
  | .hardwareFault code details
  | .unsatisfiedConstraints code details
  | .illegalOperation code details
  | .protocolError code details
  | .timeExpired code details => reason details code
  | .unexpectedEof => "unexpected end of file"
  | .userError text => text

/-- Reads to the end or to the first failure. -/
partial def readToEnd (read : IO ByteArray) (delivered : ByteArray) : IO ByteSource := do
  match ← read.toBaseIO with
  | .ok chunk =>
    if chunk.isEmpty then return ⟨delivered.toList, none⟩
    else readToEnd read (delivered ++ chunk)
  | .error e => return ⟨delivered.toList, some (systemReason e)⟩

/-- Reads the listing, or says why it cannot be opened. -/
def readListing (path : String) : IO (Except String ByteSource) := do
  if path = "-" then
    let input ← IO.getStdin
    return .ok (← readToEnd (input.read 65536) .empty)
  else
    match ← (IO.FS.Handle.mk path .read).toBaseIO with
    | .ok file => return .ok (← readToEnd (file.read 65536) .empty)
    | .error e => return .error (systemReason e)

/-- Prints an outcome and exits. -/
def finish (o : Outcome) : IO UInt32 := do
  IO.eprint o.stderr
  IO.print o.stdout
  return UInt32.ofNat o.exitCode

end NameRecovery.CommandLine

open NameRecovery.CommandLine in
/-- Runs the program. -/
def main (args : List String) : IO UInt32 := do
  match Arguments.parse args with
  | .error stop => finish stop.outcome
  | .ok args =>
    match args.options with
    | .error e => finish ⟨1, "", e.report⟩
    | .ok _ =>
      let listing ← readListing args.listing
      let logWord ← IO.getEnv "RUST_LOG"
      finish (args.outcome logWord listing)
