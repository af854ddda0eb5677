import Rowwise.CommandLine.Commands

/-!
# The program

Carries out the plan of the command that the arguments ask for. Of the encodings with more than one
byte to a character the program reads the ASCII characters (`Charset.Decoders.asciiOnly`).
-/

namespace Rowwise.Main

open CommandLine

/-- The cause of a file error. -/
def fileError : IO.Error → FileError
  | .noFileOrDirectory .. => .notFound
  | error => .other (toString error)

/-- What an action gives, or why it gives nothing. -/
def attempt {α : Type} (action : IO α) : IO (Except FileError α) := do
  match ← action.toBaseIO with
  | .ok value => pure (.ok value)
  | .error error => pure (.error (fileError error))

/-- Carries a plan out; the result is the exit code. -/
def carryOut : Plan Unit → IO UInt32
  | .done () => pure 0
  | .fail failure => do
    IO.eprint (String.ofList failure.lines)
    pure (UInt32.ofNat failure.code)
  | .tell line next => do
    IO.eprintln (String.ofList line)
    carryOut next
  | .print text next => do
    IO.print (String.ofList text)
    carryOut next
  | .readFile path next => do
    let content ← attempt (IO.FS.readBinFile (String.ofList path))
    carryOut (next (content.map fun bytes => bytes.toList))
  | .readInput next => do
    let bytes ← (← IO.getStdin).readBinToEnd
    carryOut (next bytes.toList)
  | .writeFile path content next => do
    let written ← attempt (IO.FS.writeBinFile (String.ofList path) ⟨content.toArray⟩)
    carryOut (next written)

end Rowwise.Main

open Rowwise CommandLine in
/-- Runs the command that the arguments ask for. -/
def main (arguments : List String) : IO UInt32 := do
  match Command.ofArguments (arguments.map (·.toList)) with
  | .error error =>
    IO.eprintln ("error: " ++ error.message)
    pure 2
  | .ok command =>
    let port ← IO.getEnv "ROWCAST_PORT"
    let capacity ← IO.getEnv "ROWCAST_CACHE_CAPACITY"
    let config := Server.Config.ofEnvironment fun name =>
      ((if name == "ROWCAST_PORT" then port else capacity) : Option String).map (·.toList)
    Main.carryOut (command.plan .asciiOnly config (.seeded (← IO.rand 0 (UInt64.size - 1))))
