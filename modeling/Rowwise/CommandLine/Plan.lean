import Rowwise.Files.Directory

/-!
# Plans

What a command does, step by step, as data: it reads files and standard input, tells something on
the terminal, prints and writes. A plan can be carried out on a real file system, or on a directory
of its own to see what comes out.
-/

namespace Rowwise.CommandLine

/-- How a plan ends early. -/
inductive Failure
  /-- With a message. -/
  | message (text : Text)
  /-- By breaking off without one. -/
  | abort
  deriving DecidableEq

namespace Failure

/-- The exit code of a command that failed. -/
def code : Failure → Nat
  | .message _ => 1
  | .abort => 101

/-- What is told about a failure. -/
def lines : Failure → Text
  | .message text => "❌ Error: ".toList ++ text ++ ['\n']
  | .abort => []

end Failure

/-- The steps of a command, up to a result. -/
inductive Plan (α : Type)
  | done (result : α)
  | fail (failure : Failure)
  /-- Tells a line on the terminal. -/
  | tell (line : Text) (next : Plan α)
  /-- Prints text to standard output. -/
  | print (text : Text) (next : Plan α)
  | readFile (path : Text) (next : Except FileError Bytes → Plan α)
  | readInput (next : Bytes → Plan α)
  | writeFile (path : Text) (content : Bytes) (next : Except FileError Unit → Plan α)

namespace Plan

/-- Goes on with what the result asks for. -/
def bind {α β : Type} : Plan α → (α → Plan β) → Plan β
  | done result, f => f result
  | fail failure, _ => fail failure
  | tell line next, f => tell line (next.bind f)
  | print text next, f => print text (next.bind f)
  | readFile path next, f => readFile path fun content => (next content).bind f
  | readInput next, f => readInput fun content => (next content).bind f
  | writeFile path content next, f => writeFile path content fun written => (next written).bind f

instance : Monad Plan where
  pure := done
  bind := bind

/-- Tells a line. -/
def say (line : String) : Plan Unit :=
  tell line.toList (done ())

/-- Prints text. -/
def put (text : Text) : Plan Unit :=
  print text (done ())

/-- Ends with a message. -/
def failWith {α : Type} (message : String) : Plan α :=
  fail (.message message.toList)

/-- The content of a file; the plan fails if it cannot be read. -/
def contentOf (path : Text) : Plan Bytes :=
  readFile path fun
    | .ok content => done content
    | .error error => failWith error.message

/-- The content of standard input. -/
def input : Plan Bytes :=
  readInput done

/-- Writes a file; the plan fails if it cannot be written. -/
def save (path : Text) (text : Text) : Plan Unit :=
  writeFile path (Utf8.encode text) fun
    | .ok () => done ()
    | .error error => failWith error.message

end Plan

/-! ### Trying plans out -/

/-- What a command leaves: its exit code, the texts on standard output and on the terminal, and the
files. -/
structure Outcome where
  code : Nat
  output : Text
  terminal : Text
  directory : Directory

namespace Plan

/-- Carries a plan out on a directory, with this standard input. -/
def outcome (directory : Directory) (input : Bytes) : Plan Unit → Outcome
  | done () => ⟨0, [], [], directory⟩
  | fail failure => ⟨failure.code, [], failure.lines, directory⟩
  | tell line next =>
    let after := outcome directory input next
    { after with terminal := line ++ '\n' :: after.terminal }
  | print text next =>
    let after := outcome directory input next
    { after with output := text ++ after.output }
  | readFile path next => outcome directory input (next (directory.read path))
  | readInput next => outcome directory input (next input)
  | writeFile path content next =>
    match directory.write path content with
    | .ok directory => outcome directory input (next (.ok ()))
    | .error error => outcome directory input (next (.error error))

end Plan

end Rowwise.CommandLine
