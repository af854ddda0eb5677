import Rowwise.Table.Separator

/-!
# Command-line arguments

The commands of the program and how they are asked for.

```text
render [INPUT] [-t|--text T] -p|--pattern P [-s|--separator S] [--header]
       [--line-separator L] [--strict] [-o|--output F]
parse INPUT [-s|--separator S] [--header] [-o|--output F]
compile PATTERN [--strict]
functions
serve [-p|--port N]
help [COMMAND]
```

An option takes the next argument as its value, unless that looks like an option; the value may
also stand in the same argument, after `=` or right after the letter. No option may be given twice.
After `--` nothing is an option.
-/

namespace Rowwise.CommandLine

/-- Where the text to render comes from. -/
inductive Source
  | file (path : Text)
  | inline (text : Text)
  | standardInput
  deriving DecidableEq

/-- The help that can be asked for. -/
inductive Topic
  | program
  | render
  | parse
  | compile
  | functions
  | serve
  | help
  deriving DecidableEq

/-- A command. -/
inductive Command
  | render (source : Source) (pattern : Text) (separator : Option Separator) (header : Bool)
      (lineSeparator : Text) (strict : Bool) (output : Option Text)
  | parse (input : Text) (separator : Option Separator) (header : Bool) (output : Option Text)
  | compile (pattern : Text) (strict : Bool)
  | functions
  | serve (port : Option UInt16)
  | help (topic : Topic)
  deriving DecidableEq

/-- The arguments make no command. -/
inductive UsageError
  | noCommand
  | unknownCommand (name : Text)
  | unknownOption (argument : Text)
  | missingValue (option : String)
  | superfluousValue (option : String)
  | repeatedOption (option : String)
  | badValue (option : String) (value : Text)
  | superfluousArgument (argument : Text)
  | missingArgument (name : String)
  | conflict (first second : String)
  deriving DecidableEq

/-! ### Options -/

/-- What values an option accepts. -/
inductive ValueKind
  | text
  | path
  | separator
  | port
  deriving DecidableEq

/-- An option, with the kind of its value if it takes one. -/
structure OptionSpec where
  name : String
  letter : Option Char
  value : Option ValueKind
  deriving DecidableEq

/-- The arguments of a command: its options, and the number and the kind of the arguments besides
them. -/
structure Grammar where
  options : List OptionSpec
  arguments : List ValueKind

/-- The integer that a text writes: digits with or without a sign. -/
def integer? (text : Text) : Option Int :=
  let (negative, digits) := match text with
    | '-' :: rest => (true, rest)
    | '+' :: rest => (false, rest)
    | _ => (false, text)
  if digits ≠ [] ∧ digits.all Char.isDigit then
    let value : Nat := digits.foldl (fun value c => 10 * value + (c.toNat - '0'.toNat)) 0
    some (if negative then -value else value)
  else none

/-- The port that a text writes. -/
def port? (text : Text) : Option UInt16 :=
  match integer? text with
  | some (.ofNat port) => if port < UInt16.size then some (UInt16.ofNat port) else none
  | _ => none

/-- Whether a value is accepted. -/
def ValueKind.accepts (value : Text) : ValueKind → Bool
  | text => true
  | path => !value.isEmpty
  | separator => (Separator.parse value).isOk
  | port => (port? value).isSome

/-- The arguments found: options by their names, with their values, and what stands besides them. -/
structure Found where
  options : List (String × Text)
  arguments : List Text

namespace Found

/-- Nothing found. -/
def empty : Found := ⟨[], []⟩

/-- Whether an option is there. -/
def has (found : Found) (name : String) : Bool :=
  (found.options.lookup name).isSome

/-- Takes up an option with its value; a flag has the empty value. -/
def addOption (found : Found) (option : OptionSpec) (value : Text) : Except UsageError Found :=
  if !option.value.all (ValueKind.accepts value) then .error (.badValue option.name value)
  else if found.has option.name then .error (.repeatedOption option.name)
  else .ok { found with options := (option.name, value) :: found.options }

/-- Takes up an argument that is no option. -/
def addArgument (grammar : Grammar) (found : Found) (value : Text) : Except UsageError Found :=
  match grammar.arguments[found.arguments.length]? with
  | none => .error (.superfluousArgument value)
  | some kind =>
    if kind.accepts value then .ok { found with arguments := found.arguments ++ [value] }
    else .error (.badValue "" value)

/-- The value of an option. -/
def value? (found : Found) (name : String) : Option Text :=
  found.options.lookup name

end Found

/-- An argument by its form. -/
inductive Shape
  /-- `--` -/
  | divider
  /-- `--name` or `--name=value` -/
  | long (name : Text) (value : Option Text)
  /-- `-letter`, with what follows the letter -/
  | short (letter : Char) (rest : Text)
  /-- Any other argument; also `-` alone. -/
  | plain
  deriving DecidableEq

namespace Shape

/-- The form of an argument. -/
def of : Text → Shape
  | ['-', '-'] => divider
  | '-' :: '-' :: rest =>
    let name := rest.takeWhile (· ≠ '=')
    match rest.dropWhile (· ≠ '=') with
    | _ :: value => long name (some value)
    | [] => long name none
  | '-' :: letter :: rest => short letter rest
  | _ => plain

end Shape

/-- What reading the options and arguments of a command gives. -/
inductive Reading
  | found (found : Found)
  /-- Help was asked for before anything was wrong. -/
  | help
  | error (error : UsageError)

/-- Goes on reading with what was found. -/
def Reading.after (next : Found → Reading) (result : Except UsageError Found) : Reading :=
  match result with
  | .ok result => next result
  | .error reason => .error reason

/-- Reads the arguments after `--`. -/
def readPlain (grammar : Grammar) : Found → List Text → Reading
  | found, [] => .found found
  | found, argument :: rest =>
    .after (fun found => readPlain grammar found rest) (found.addArgument grammar argument)

/-- Reads options and arguments. -/
def readArguments (grammar : Grammar) : Found → List Text → Reading
  | found, [] => .found found
  | found, argument :: rest =>
    let goOn (found : Found) : Reading := readArguments grammar found rest
    let withNext (option : OptionSpec) : Reading :=
      match rest with
      | value :: rest =>
        if Shape.of value = .plain then
          .after (fun found => readArguments grammar found rest) (found.addOption option value)
        else .error (.missingValue option.name)
      | [] => .error (.missingValue option.name)
    match Shape.of argument with
    | .divider => readPlain grammar found rest
    | .plain => .after goOn (found.addArgument grammar argument)
    | .long name value =>
      match grammar.options.find? (·.name.toList = name), value with
      | some ⟨name, letter, none⟩, none => .after goOn (found.addOption ⟨name, letter, none⟩ [])
      | some ⟨name, _, none⟩, some _ => .error (.superfluousValue name)
      | some option, some value => .after goOn (found.addOption option value)
      | some option, none => withNext option
      | none, value =>
        if name ≠ "help".toList then .error (.unknownOption argument)
        else if value.isSome then .error (.superfluousValue "help")
        else .help
    | .short letter attached =>
      match grammar.options.find? (·.letter = some letter), attached with
      | some option, [] => withNext option
      | some option, '=' :: value => .after goOn (found.addOption option value)
      | some option, value => .after goOn (found.addOption option value)
      | none, _ => if letter = 'h' then .help else .error (.unknownOption argument)

/-! ### Commands -/

namespace Topic

/-- The topics that are commands, by their names. -/
def commands : List (String × Topic) :=
  [("render", render), ("parse", parse), ("compile", compile), ("functions", functions),
   ("serve", serve), ("help", help)]

/-- The command of a name. -/
def ofName? (name : Text) : Option Topic :=
  (commands.find? (·.1.toList = name)).map (·.2)

/-- The separator option, which two commands have. -/
def separatorOption : OptionSpec := ⟨"separator", some 's', some .separator⟩

/-- The option for the header row. -/
def headerOption : OptionSpec := ⟨"header", none, none⟩

/-- The option for the file to write. -/
def outputOption : OptionSpec := ⟨"output", some 'o', some .path⟩

/-- The options and arguments of a command. -/
def grammar : Topic → Grammar
  | render =>
    ⟨[⟨"text", some 't', some .text⟩, ⟨"pattern", some 'p', some .text⟩, separatorOption,
      headerOption, ⟨"line-separator", none, some .text⟩, ⟨"strict", none, none⟩, outputOption],
     [.path]⟩
  | parse => ⟨[separatorOption, headerOption, outputOption], [.path]⟩
  | compile => ⟨[⟨"strict", none, none⟩], [.text]⟩
  | serve => ⟨[⟨"port", some 'p', some .port⟩], []⟩
  | program | functions | help => ⟨[], []⟩

end Topic

/-- The separator that was asked for. -/
def Found.separator (found : Found) : Option Separator :=
  (found.value? "separator").bind fun value => (Separator.parse value).toOption

/-- The `render` command. -/
def Found.render (found : Found) : Except UsageError Command := do
  let source ← match found.arguments, found.value? "text" with
    | _ :: _, some _ => .error (.conflict "text" "input")
    | path :: _, none => .ok (.file path)
    | [], some text => .ok (.inline text)
    | [], none => .ok .standardInput
  match found.value? "pattern" with
  | none => .error (.missingArgument "pattern")
  | some pattern =>
    .ok (.render source pattern found.separator (found.has "header")
      ((found.value? "line-separator").getD ['\n']) (found.has "strict") (found.value? "output"))

/-- The command that was found. -/
def Found.command (found : Found) : Topic → Except UsageError Command
  | .render => found.render
  | .parse =>
    match found.arguments with
    | input :: _ =>
      .ok (.parse input found.separator (found.has "header") (found.value? "output"))
    | [] => .error (.missingArgument "input")
  | .compile =>
    match found.arguments with
    | pattern :: _ => .ok (.compile pattern (found.has "strict"))
    | [] => .error (.missingArgument "pattern")
  | .functions => .ok .functions
  | .serve => .ok (.serve ((found.value? "port").bind port?))
  | .program => .ok (.help .program)
  | .help => .ok (.help .help)

/-- The help that the arguments after `help` ask for. -/
def readTopic : List Text → Except UsageError Command
  | [] => .ok (.help .program)
  | [name] =>
    match Topic.ofName? name with
    | some topic => .ok (.help topic)
    | none => .error (.unknownCommand name)
  | _ :: name :: _ => .error (.unknownCommand name)

/-- The command that the arguments ask for. -/
def Command.ofArguments : List Text → Except UsageError Command
  | [] => .error .noCommand
  | first :: rest =>
    match Shape.of first, Topic.ofName? first with
    | .plain, some .help => readTopic rest
    | .plain, some topic =>
      match readArguments topic.grammar .empty rest with
      | .found found => found.command topic
      | .help => .ok (.help topic)
      | .error error => .error error
    | .plain, none => .error (.unknownCommand first)
    | .long ['h', 'e', 'l', 'p'] none, _ => .ok (.help .program)
    | .short 'h' _, _ => .ok (.help .program)
    | .divider, _ => .error .noCommand
    | _, _ => .error (.unknownOption first)

end Rowwise.CommandLine
