import ClusterTopology.CommandLine.Response

/-!
The program: runs in the file system of the machine, prints what is to be printed,
logs to standard error and exits with the code of the response.
-/

namespace ClusterTopology

open CommandLine

/-- The number and the words of the operating system in a refusal. -/
def refusal (reason : IO.Error) : FileFault :=
  match reason with
  | .noFileOrDirectory .. => .notFound
  | .inappropriateType _ code words | .permissionDenied _ code words
  | .invalidArgument _ code words | .resourceExhausted _ code words
  | .interrupted _ code words | .alreadyExists _ code words | .noSuchThing _ code words
  | .otherError code words | .resourceBusy code words | .hardwareFault code words
  | .unsatisfiedConstraints code words | .illegalOperation code words
  | .protocolError code words | .timeExpired code words | .resourceVanished code words
  | .unsupportedOperation code words =>
    .refused code.toNat words
  | .unexpectedEof => .refused 0 "unexpected end of file"
  | .userError words => .refused 0 words

/-- The environment of the machine. Tables are drawn plainly on a terminal too. -/
def machine (hasColors : Bool) : Environment IO where
  read path := do
    match ← (IO.FS.readBinFile path).toBaseIO with
    | .error reason => return .error (refusal reason)
    | .ok bytes =>
      match String.fromUTF8? bytes with
      | some text => return .ok text
      | none => return .error .notText
  write path text := do
    match ← (IO.FS.writeFile path text).toBaseIO with
    | .error reason => return .error (refusal reason)
    | .ok () => return .ok ()
  display := .plain hasColors

end ClusterTopology

/-- Carry out what the words of the command line ask for. -/
def main (words : List String) : IO UInt32 := do
  let terminal ← (← IO.getStdout).isTty
  let response ← ClusterTopology.CommandLine.respond (ClusterTopology.machine terminal) words
  for line in response.log do
    IO.eprintln line
  IO.print response.printed
  return UInt32.ofNat response.exitCode
