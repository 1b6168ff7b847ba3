import FilterQuery.CommandLine.Run

/-!
# The program

Reads the files, the variables and the standard input that a run may ask for, and hands them over.
-/

namespace FilterQuery.CommandLine

partial def readAllBytes (stream : IO.FS.Stream) (read : ByteArray) : IO ByteArray := do
  let chunk ← stream.read 65536
  if chunk.isEmpty then return read else readAllBytes stream (read ++ chunk)

/-- Why a file cannot be read, by the number of the system's error. -/
def faultOf (e : IO.Error) : ReadFault :=
  match e with
  | .noFileOrDirectory .. => .missing
  | .inappropriateType _ code _ => if code == 20 then .notADirectory else .isADirectory
  | .invalidArgument _ code _ => if code == 36 then .nameTooLong else .other (toString e)
  | e => .other (toString e)

def readFile (name : String) : IO (Except ReadFault File) := do
  try
    match String.fromUTF8? (← IO.FS.readBinFile name) with
    | some text => return .ok ⟨text, !name.startsWith "/dev/"⟩
    | none => return .error .notText
  catch e => return .error (faultOf e)

/-- The variables of the environment, in their order. -/
def readVariables : IO Config.Variables := do
  match ← readFile "/proc/self/environ" with
  | .error _ => return []
  | .ok file =>
    return (file.text.splitOn "\x00").filterMap fun setting =>
      match setting.splitOn "=" with
      | name :: value@(_ :: _) => some (name, "=".intercalate value)
      | _ => none

end FilterQuery.CommandLine

open FilterQuery.CommandLine in
def main (arguments : List String) : IO UInt32 := do
  let files ← (filesToRead arguments).mapM fun name => return (name, ← readFile name)
  let environment ← readVariables
  let input ← if readsInput arguments then readAllBytes (← IO.getStdin) .empty else pure .empty
  let outcome := run
    { files := fun name => (files.lookup name).getD (.error .missing), environment, input } arguments
  for message in outcome.messages do
    IO.eprintln message
  IO.print outcome.output
  return outcome.exit
