import ProofDesk.Settings
import ProofDesk.Text.Numeral

/-!
# Command line

The words behind the program's name. The first one says what to run: the engine, or a viewer. The
engine takes options, each with a value, which stands in the next word or behind an equals sign in
the same one. An option is applied when the next one is seen or the words end, so a word that is no
option at all is reported before a bad value in front of it.
-/

namespace ProofDesk

/-- What is wrong with a command line, or asks for help instead. -/
inductive UsageError where
  /-- The words ask for help. -/
  | help
  | unknownArgument
  /-- A value is missing, or is none of those that are allowed. -/
  | invalidValue
  /-- A value is no number, or too large a one. -/
  | invalidNumber
  /-- An option that takes one value is given twice. -/
  | conflict
  /-- A value is given where none is taken. -/
  | unexpectedValue
  | missingCommand
  | unknownCommand
  deriving Repr, DecidableEq, Inhabited

/-- The number with which the program ends because of a command line. -/
def UsageError.exitCode : UsageError → UInt8
  | help => 0
  | _ => 2

/-- The options of the engine. -/
inductive EngineOption where
  | prover | proverArg | timeout | poll | axiomPolicy | logFile
  deriving Repr, DecidableEq, Inhabited

namespace EngineOption

/-- All options. -/
def all : List EngineOption :=
  [prover, proverArg, timeout, poll, axiomPolicy, logFile]

/-- The name of an option, without the two hyphens in front of it. -/
def name : EngineOption → String
  | prover => "coqtop"
  | proverArg => "coqtop-arg"
  | timeout => "timeout-ms"
  | poll => "poll-ms"
  | axiomPolicy => "axiom-policy"
  | logFile => "log-file"

/-- The option with a name. -/
def ofName? (s : List Char) : Option EngineOption :=
  all.find? (·.name.toList == s)

/-- Whether an option may be given several times. Its values may also begin with a hyphen. -/
def isRepeatable (o : EngineOption) : Bool :=
  o = proverArg

end EngineOption

/-- How to run the engine. -/
structure EngineOptions where
  prover : String
  /-- The arguments for the prover, unless the usual ones are meant. -/
  proverArgs : Option (List String)
  timeout : Nat
  /-- Milliseconds between two looks at what the provers have answered. -/
  poll : Nat
  axiomPolicy : AxiomPolicy
  /-- The log file, unless the usual one is meant. -/
  logFile : Option String
  deriving Repr, DecidableEq, Inhabited

namespace EngineOptions

/-- What holds when no option is given. -/
def default : EngineOptions :=
  { prover := Settings.default.prover
    proverArgs := none
    timeout := Settings.default.timeout
    poll := 200
    axiomPolicy := Settings.default.axiomPolicy
    logFile := none }

/-- The settings of sessions. -/
def settings (o : EngineOptions) : Settings :=
  { prover := o.prover
    proverArgs := o.proverArgs.getD Settings.defaultArgs
    timeout := o.timeout
    axiomPolicy := o.axiomPolicy }

/-- The number with which the engine ends before it reads anything, if it does: it cannot look at
the provers without a pause in between. -/
def failureCode? (o : EngineOptions) : Option UInt8 :=
  if o.poll = 0 then some 101 else none

/-- Read a number of milliseconds. -/
def milliseconds (value : String) : Except UsageError Nat :=
  match Text.natural? 10 Text.max64 value.toList with
  | some n => .ok n
  | none => .error .invalidNumber

/-- Apply an option with its value. -/
def set (o : EngineOptions) (option : EngineOption) (value : String) :
    Except UsageError EngineOptions :=
  match option with
  | .prover => .ok { o with prover := value }
  | .proverArg => .ok { o with proverArgs := some (o.proverArgs.getD [] ++ [value]) }
  | .timeout => (milliseconds value).map fun timeout => { o with timeout }
  | .poll => (milliseconds value).map fun poll => { o with poll }
  | .axiomPolicy =>
    match value with
    | "annotate" => .ok { o with axiomPolicy := .annotate }
    | "block" => .ok { o with axiomPolicy := .block }
    | _ => .error .invalidValue
  | .logFile => if value.isEmpty then .error .invalidValue else .ok { o with logFile := some value }

end EngineOptions

namespace CommandLine

/-- A word in a place where options may stand. -/
inductive Word where
  /-- Two hyphens alone: no options from here on. -/
  | separator
  /-- A name behind two hyphens, and the value behind an equals sign. -/
  | long (name : List Char) (value : Option (List Char))
  /-- Letters behind one hyphen. -/
  | short (first : Char)
  | plain
  deriving Repr, DecidableEq

/-- What a word is. A hyphen alone is an ordinary word. -/
def Word.ofChars : List Char → Word
  | ['-', '-'] => .separator
  | '-' :: '-' :: rest =>
    match rest.dropWhile (· != '=') with
    | [] => .long rest none
    | _ :: value => .long (rest.takeWhile (· != '=')) (some value)
  | '-' :: c :: _ => .short c
  | _ => .plain

/-- What has been read: the options applied so far, those that were given, and the one that waits,
which may lack its value. -/
structure Progress where
  options : EngineOptions
  given : List EngineOption
  waiting : Option (EngineOption × Option String)

/-- Nothing has been read. -/
def Progress.start : Progress :=
  ⟨.default, [], none⟩

/-- Apply the option that waits. -/
def Progress.settle (p : Progress) : Except UsageError Progress :=
  match p.waiting with
  | none => .ok p
  | some (_, none) => .error .invalidValue
  | some (option, some value) =>
    if option ∈ p.given ∧ ¬ option.isRepeatable then .error .conflict
    else do
      let options ← p.options.set option value
      return ⟨options, option :: p.given, none⟩

/-- The option that still lacks its value. -/
def Progress.lacking? (p : Progress) : Option EngineOption :=
  match p.waiting with
  | some (option, none) => some option
  | _ => none

/-- Let an option wait for its value, or for the end if it has one. -/
def Progress.wait (p : Progress) (option : EngineOption) (value : Option String) :
    Except UsageError Progress := do
  let p ← p.settle
  return { p with waiting := some (option, value) }

/-- Read the next word; `isLast` says that nothing comes after it. -/
def readWord (p : Progress) (word : String) (isLast : Bool) : Except UsageError Progress :=
  let valued := fun (option : EngineOption) => .ok { p with waiting := some (option, some word) }
  match p.lacking?, Word.ofChars word.toList with
  | some option, .plain => valued option
  | none, .plain => .error .unknownArgument
  | lacking, marked =>
    -- an option that takes hyphens takes every word as its value, `--` included
    match lacking.filter (·.isRepeatable), marked with
    | some option, _ => valued option
    | none, .separator => if isLast then .ok p else .error .unknownArgument
    | none, .long ['h', 'e', 'l', 'p'] none => p.settle.bind fun _ => .error .help
    | none, .long ['h', 'e', 'l', 'p'] (some _) => .error .unexpectedValue
    | none, .long name value =>
      match EngineOption.ofName? name, value with
      | none, _ => .error .unknownArgument
      | some option, none => p.wait option none
      | some option, some value => do
        let p ← p.wait option (some (String.ofList value))
        p.settle
    | none, .short 'h' => p.settle.bind fun _ => .error .help
    | none, _ => .error .unknownArgument

/-- Read words. -/
def readWords (p : Progress) : List String → Except UsageError Progress
  | [] => p.settle
  | word :: words => do
    let p ← readWord p word words.isEmpty
    readWords p words

/-- Read the options of the engine. -/
def engineOptions (words : List String) : Except UsageError EngineOptions := do
  let p ← readWords .start words
  return p.options

/-- What to run. -/
inductive Invocation where
  | serve (options : EngineOptions)
  | view
  deriving Repr, DecidableEq

/-- Read the words behind the viewer's name. -/
def viewWords : List String → Except UsageError Invocation
  | [] | ["--"] => .ok .view
  | word :: _ =>
    match Word.ofChars word.toList with
    | .long ['h', 'e', 'l', 'p'] none | .short 'h' => .error .help
    | _ => .error .unknownArgument

/-- What comes of asking for help on commands: each but the first would have to be a part of the one
in front of it, and no command has parts. -/
def helpWords : List String → UsageError
  | [] | ["serve"] | ["view"] | ["help"] => .help
  | _ => .unknownCommand

/-- Read a command line. -/
def parse : List String → Except UsageError Invocation
  | [] | ["--"] => .error .missingCommand
  | "serve" :: words => (engineOptions words).map .serve
  | "view" :: words => viewWords words
  | "help" :: words => .error (helpWords words)
  | word :: _ =>
    match Word.ofChars word.toList with
    | .long ['h', 'e', 'l', 'p'] none | .short 'h' => .error .help
    | .plain => .error .unknownCommand
    | _ => .error .unknownArgument

end CommandLine

end ProofDesk
