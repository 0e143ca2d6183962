/-!
# The command line

The agent is started with one of two commands: `serve` answers requests, `run` carries out one task.
Options start with two dashes and take their value from the word that follows, or after an equals
sign; two dashes alone end the options. An option waits for its value until the next option, the
next plain word or the end of the line, and only then is it settled: a value that is missing, or an
option that was given before, is noticed there. A word that is no option of the command at hand is
refused before that.
-/

set_option autoImplicit false

namespace Errand

/-- What the agent is asked to do. -/
inductive Command
  /-- To answer requests. -/
  | serve
  /-- To carry out one task. -/
  | run (actor : String) (thread : Option String) (task : String)
deriving DecidableEq, Repr

namespace Command

/-- Why a command line is not carried out. -/
inductive Refusal
  /-- Help was asked for. -/
  | help
  /-- The version was asked for. -/
  | version
  /-- There is no command. -/
  | nothing
  /-- The command is not known. -/
  | unknownCommand
  /-- A word is no argument of the command. -/
  | unknownArgument
  /-- An argument that has to be there is missing. -/
  | missingArgument
  /-- An option has no value. -/
  | missingValue
  /-- An option that takes no value has one. -/
  | needlessValue
  /-- An option was given twice. -/
  | repeatedOption
deriving DecidableEq, Repr

/-- How a word of the command line is read as long as options are possible. -/
inductive Word
  /-- The end of the options. -/
  | divider
  /-- An option by its name, with the value after an equals sign. -/
  | long (name : String) (value : Option String)
  /-- An option by a letter. -/
  | short (letter : Char)
  | plain
deriving DecidableEq, Repr

/-- Reads a word. A dash alone is a plain word. -/
def Word.ofText (word : String) : Word :=
  match word.toList with
  | ['-', '-'] => .divider
  | '-' :: '-' :: rest =>
    let name := rest.takeWhile (· != '=')
    match rest.dropWhile (· != '=') with
    | [] => .long (String.ofList name) none
    | _ :: value => .long (String.ofList name) (some (String.ofList value))
  | '-' :: letter :: _ => .short letter
  | _ => .plain

/-- Why an option is refused that every command or none has: `help` and `version` are not to be
followed by a value. -/
def refuseOption (versioned : Bool) : Word → Refusal
  | .long name value =>
    if name = "help" ∨ (versioned ∧ name = "version") then
      if value.isSome then .needlessValue
      else if name = "help" then .help
      else .version
    else .unknownArgument
  | .short letter =>
    if letter = 'h' then .help
    else if versioned ∧ letter = 'V' then .version
    else .unknownArgument
  | _ => .unknownArgument

/-- Whether something was asked for instead of a command. -/
def isQuestion : Refusal → Bool
  | .help | .version => true
  | _ => false

/-! ### Carrying out a task -/

/-- The options of `run`. -/
inductive Flag
  | actor
  | thread
deriving DecidableEq, Repr

/-- The option with a name. -/
def Flag.ofName? : String → Option Flag
  | "actor" => some .actor
  | "thread" => some .thread
  | _ => none

/-- What has been read of the arguments of `run`. -/
structure Draft where
  /-- On whose behalf the task is carried out. -/
  actor : Option String := none
  /-- The thread of the run. -/
  thread : Option String := none
  /-- The instruction. -/
  task : Option String := none
  /-- The option that is not settled yet, with its value if that has been read. -/
  awaited : Option (Flag × Option String) := none
  /-- Whether the options have ended. -/
  divided : Bool := false
deriving DecidableEq, Repr

namespace Draft

/-- The value of an option. -/
def get? (draft : Draft) : Flag → Option String
  | .actor => draft.actor
  | .thread => draft.thread

/-- Gives an option its value. -/
def set (draft : Draft) (value : String) : Flag → Draft
  | .actor => { draft with actor := some value }
  | .thread => { draft with thread := some value }

/-- Gives an option its value unless it has one. -/
def fill (draft : Draft) (flag : Flag) (value : String) : Except Refusal Draft :=
  if (draft.get? flag).isSome then .error .repeatedOption else .ok (draft.set value flag)

/-- Settles the option that waits for its value. -/
def settle (draft : Draft) : Except Refusal Draft :=
  match draft.awaited with
  | none => .ok draft
  | some (_, none) => .error .missingValue
  | some (flag, some value) => { draft with awaited := none }.fill flag value

/-- Takes a word that is no option. -/
def place (draft : Draft) (word : String) : Except Refusal Draft :=
  match draft.task with
  | some _ => .error .unknownArgument
  | none => do
    let draft ← draft.settle
    return { draft with task := some word }

/-- Takes a word while options are possible. -/
def takeOption (draft : Draft) (text : String) : Except Refusal Draft :=
  let refuse (word : Word) : Except Refusal Draft := do
    let refusal := refuseOption false word
    if isQuestion refusal then let _ ← draft.settle
    .error refusal
  match Word.ofText text with
  | .divider => .ok { draft with divided := true }
  | .long name value =>
    match Flag.ofName? name, value with
    | some flag, some value => do (← draft.settle).fill flag value
    | some flag, none => do
      let draft ← draft.settle
      return { draft with awaited := some (flag, none) }
    | none, value => refuse (.long name value)
  | .short letter => refuse (.short letter)
  | .plain =>
    match draft.awaited with
    | some (flag, none) => .ok { draft with awaited := some (flag, some text) }
    | _ => draft.place text

/-- Takes a word. -/
def take (draft : Draft) (text : String) : Except Refusal Draft :=
  if draft.divided then draft.place text else draft.takeOption text

/-- The command that the arguments make. -/
def finish (draft : Draft) : Except Refusal Command := do
  let draft ← draft.settle
  match draft.actor, draft.task with
  | some actor, some task => return .run actor draft.thread task
  | _, _ => .error .missingArgument

end Draft

/-- Reads the arguments of `run`. -/
def ofRunArguments (words : List String) : Except Refusal Command := do
  (← words.foldlM Draft.take {}).finish

/-! ### The commands -/

/-- Reads the arguments of `serve`; it has none. -/
def ofServeArguments : List String → Except Refusal Command
  | [] => .ok .serve
  | text :: rest =>
    match Word.ofText text, rest with
    | .divider, [] => .ok .serve
    | .divider, _ :: _ => .error .unknownArgument
    | word, _ => .error (refuseOption false word)

/-- The names of commands. -/
def names : List String :=
  ["serve", "run", "help"]

/-- What `help` answers: it may name one command. -/
def helpRefusal : List String → Refusal
  | [] => .help
  | [name] => if name ∈ names then .help else .unknownCommand
  | _ => .unknownCommand

/-- Reads the words after the name of the program. -/
def ofWords : List String → Except Refusal Command
  | [] => .error .nothing
  | "serve" :: rest => ofServeArguments rest
  | "run" :: rest => ofRunArguments rest
  | "help" :: rest => .error (helpRefusal rest)
  | text :: rest =>
    match Word.ofText text, rest with
    | .divider, [] => .error .nothing
    | .divider, next :: _ => .error (if next ∈ names then .unknownArgument else .unknownCommand)
    | .plain, _ => .error .unknownCommand
    | word, _ => .error (refuseOption true word)

/-- Reads a command line, whose first word is the name of the program. -/
def parse (line : List String) : Except Refusal Command :=
  ofWords line.tail

/-- How the program is started. -/
def usage : String :=
  "Usage: errand serve\n       errand run --actor <ACTOR> [--thread <THREAD>] <TASK>"

/-- What is said of a command line that is not carried out. -/
def Refusal.message : Refusal → String
  | .help | .version => ""
  | .nothing => "a command is required"
  | .unknownCommand => "unrecognized command"
  | .unknownArgument => "unexpected argument found"
  | .missingArgument => "required arguments were not provided"
  | .missingValue => "a value is required for an option but none was supplied"
  | .needlessValue => "unexpected value for an option"
  | .repeatedOption => "an option cannot be used multiple times"

end Command

end Errand
