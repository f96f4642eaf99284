import Scratchpad.SearchPath

/-!
The arguments of the command line. Options are long words or single letters, some with a value; a
value stands after an equals sign or is the next argument. Each option is given once. What an option
leaves open may come from a variable.
-/

set_option autoImplicit false
set_option relaxedAutoImplicit false

namespace Scratchpad.CommandLine

/-- An option, whatever it is called. -/
inductive Switch where
  | verbose
  | help
  | version
  | language
  | noEcho
  | timeLimit
  | packagesDir
  | interpreter
  | tempDir
  | pretty
  deriving DecidableEq

/-- What help is about. -/
inductive Topic where
  | overview
  | run
  | locate
  | help

/-- Why arguments make no command. -/
inductive Refusal where
  | help (topic : Topic)
  | version
  | misuse

structure Spelling where
  switch : Switch
  letter : Option Char
  word : Text
  takesValue : Bool

inductive Item where
  | flag (s : Switch)
  | value (s : Switch) (v : Text)
  | positional (v : Text)

/-- What has been read of the arguments. -/
structure Progress (α : Type) where
  result : α
  /-- The option whose value must come next. -/
  pending : Option Switch := none
  /-- Whether what follows is no option, whatever it looks like. -/
  literal : Bool := false

/-- How the items of a command are taken. -/
structure Grammar (α : Type) where
  spellings : List Spelling
  accept : α → Item → Except Refusal α

namespace Grammar

variable {α : Type}

def isOption (a : Text) : Bool :=
  Text.startsWith ['-'] a && a.length > 1

def take (r : Grammar α) (p : Progress α) (i : Item) : Except Refusal (Progress α) :=
  (r.accept p.result i).map fun result => { p with result, pending := none }

/-- Takes an option with a value that is part of the same argument, or without one. -/
def option (r : Grammar α) (p : Progress α) (s : Spelling) (v : Option Text) :
    Except Refusal (Progress α) :=
  match s.takesValue, v with
  | true, some v => r.take p (.value s.switch v)
  | true, none => .ok { p with pending := some s.switch }
  | false, none => r.take p (.flag s.switch)
  | false, some _ => .error .misuse

/-- Takes a long option without its hyphens. -/
def word (r : Grammar α) (p : Progress α) (w : Text) : Except Refusal (Progress α) :=
  let name := w.takeWhile (· ≠ '=')
  match r.spellings.find? fun s => s.word = name with
  | none => .error .misuse
  | some s => match w.dropWhile (· ≠ '=') with
    | [] => r.option p s none
    | _ :: v => r.option p s (some v)

/-- Takes options given by letters. What follows the letter of an option with a value is the
value. -/
def letters (r : Grammar α) (p : Progress α) : Text → Except Refusal (Progress α)
  | [] => .ok p
  | c :: cs => match r.spellings.find? fun s => s.letter = some c with
    | none => .error .misuse
    | some s =>
      if s.takesValue then
        match cs with
        | [] => r.option p s none
        | '=' :: v => r.option p s (some v)
        | v => r.option p s (some v)
      else do letters r (← r.option p s none) cs

def argument (r : Grammar α) (p : Progress α) (a : Text) : Except Refusal (Progress α) :=
  match p.pending with
  | some s => if isOption a then .error .misuse else r.take p (.value s a)
  | none =>
    if p.literal ∨ !isOption a then r.take p (.positional a)
    else match a with
      | ['-', '-'] => .ok { p with literal := true }
      | '-' :: '-' :: w => r.word p w
      | _ => r.letters p a.tail

def arguments (r : Grammar α) (start : α) (args : List Text) : Except Refusal α := do
  let p ← args.foldlM r.argument { result := start }
  if p.pending.isSome then .error .misuse else return p.result

end Grammar

structure RunOptions where
  file : Text
  language : Option Language
  echo : Bool
  timeLimit : Option Nat
  packagesDir : Option Text
  interpreter : Option Text
  tempDir : Option Text
  pretty : Bool

inductive Command where
  | run (o : RunOptions)
  | locate (l : Language)

/-- The items of a command by what they are: the options with their values, the latest first, and
the one argument that is no option. -/
structure Given where
  options : List (Switch × Text) := []
  positional : Option Text := none

/-- A number of 64 bits in decimal digits, with or without a plus sign. -/
def word64? (t : Text) : Option Nat :=
  let digits := (Text.after? ['+'] t).getD t
  if digits.isEmpty ∨ !digits.all Char.isDigit then none
  else
    let n := digits.foldl (fun n c => n * 10 + (c.toNat - 48)) 0
    if n < Nat.pow 2 64 then some n else none

def isValueOf (v : Text) : Switch → Bool
  | .language => (Language.parse v).isOk
  | .timeLimit => (word64? v).isSome
  | _ => !v.isEmpty

/-- Takes an item of a command; `fits` says which argument that is no option will do. -/
def Given.accept (topic : Topic) (fits : Text → Bool) (g : Given) : Item → Except Refusal Given
  | .flag .help => .error (.help topic)
  | .flag .version => .error .version
  | .flag s =>
    if (g.options.lookup s).isSome then .error .misuse
    else .ok { g with options := (s, []) :: g.options }
  | .value s v =>
    if (g.options.lookup s).isSome ∨ !isValueOf v s then .error .misuse
    else .ok { g with options := (s, v) :: g.options }
  | .positional v =>
    if g.positional.isSome ∨ !fits v then .error .misuse else .ok { g with positional := some v }

def sharedSpellings : List Spelling :=
  [⟨.verbose, some 'v', "verbose".toList, false⟩, ⟨.help, some 'h', "help".toList, false⟩]

def leading : Grammar Given where
  spellings := ⟨.version, some 'V', "version".toList, false⟩ :: sharedSpellings
  accept := Given.accept .overview fun _ => false

def running : Grammar Given where
  spellings :=
    [⟨.language, some 'l', "language".toList, true⟩,
      ⟨.noEcho, none, "no-auto-log".toList, false⟩,
      ⟨.timeLimit, none, "timeout-ms".toList, true⟩,
      ⟨.packagesDir, none, "packages-dir".toList, true⟩,
      ⟨.interpreter, none, "interpreter".toList, true⟩,
      ⟨.tempDir, none, "temp-dir".toList, true⟩,
      ⟨.pretty, none, "pretty".toList, false⟩] ++ sharedSpellings
  accept := Given.accept .run fun v => !v.isEmpty

def locating : Grammar Given where
  spellings := sharedSpellings
  accept := Given.accept .locate fun v => (Language.parse v).isOk

/-- The variable that stands in for an option that is not given. -/
def variableOf? : Switch → Option Text
  | .timeLimit => some "RUNBOX_TIMEOUT_MS".toList
  | .packagesDir => some "RUNBOX_PACKAGES_DIR".toList
  | .tempDir => some "RUNBOX_TEMP_DIR".toList
  | _ => none

/-- The value of an option: as given, or else from its variable. -/
def Given.value? (g : Given) (env : Environment) (s : Switch) : Except Refusal (Option Text) :=
  match g.options.lookup s with
  | some v => .ok (some v)
  | none => match variableOf? s >>= fun name => env.lookup name with
    | none => .ok none
    | some v => if isValueOf v s then .ok (some v) else .error .misuse

def Given.has (g : Given) (s : Switch) : Bool :=
  (g.options.lookup s).isSome

def runOptions (env : Environment) (g : Given) : Except Refusal RunOptions := do
  let timeLimit ← g.value? env .timeLimit
  let packagesDir ← g.value? env .packagesDir
  let tempDir ← g.value? env .tempDir
  match g.positional with
  | none => .error .misuse
  | some file =>
    return {
      file, packagesDir, tempDir
      language := g.options.lookup .language >>= fun v => (Language.parse v).toOption
      echo := !g.has .noEcho
      timeLimit := timeLimit >>= word64?
      interpreter := g.options.lookup .interpreter
      pretty := g.has .pretty }

/-- What `help` with these arguments asks for. -/
def helpRequest : List Text → Refusal
  | [] => .help .overview
  | [t] =>
    if t = "run".toList then .help .run
    else if t = "locate".toList then .help .locate
    else if t = "help".toList then .help .help
    else .misuse
  | _ => .misuse

def parse (env : Environment) (args : List Text) : Except Refusal Command := do
  let (front, back) := args.span Grammar.isOption
  let _ ← leading.arguments {} (front.takeWhile (· ≠ "--".toList))
  if front.contains "--".toList then .error .misuse
  match back with
  | [] => .error .misuse
  | name :: rest =>
    if name = "run".toList then return .run (← runOptions env (← running.arguments {} rest))
    else if name = "locate".toList then
      let g ← locating.arguments {} rest
      match g.positional.map Language.parse with
      | some (.ok l) => return .locate l
      | _ => .error .misuse
    else if name = "help".toList then .error (helpRequest rest)
    else .error .misuse

end Scratchpad.CommandLine
