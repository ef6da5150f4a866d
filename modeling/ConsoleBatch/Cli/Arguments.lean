/-!
The arguments of the command line.

Some options go before a command or after it, others only after one of the commands. An option
is given once at most in each of the two places, and what follows the command counts. A single
hyphen is a plain argument, and after `--` everything is.
-/

namespace ConsoleBatch.Cli

inductive Format where
  | text
  | json
  deriving DecidableEq

inductive Command where
  | run (file : String)
  | lint (file : String) (format : Format) (timings : Bool)
  | list (start : String)
  deriving DecidableEq

structure Invocation where
  command : Command
  config : Option String
  dir : Option String
  verbose : Bool
  deriving DecidableEq

inductive Opt where
  | config
  | dir
  | verbose
  | format
  | timings
  deriving DecidableEq

namespace Opt

def long : Opt → String
  | config => "config"
  | dir => "dir"
  | verbose => "verbose"
  | format => "format"
  | timings => "timings"

def short? : Opt → Option Char
  | config => some 'c'
  | dir => some 'd'
  | verbose => some 'v'
  | format => some 'f'
  | timings => none

def takesValue : Opt → Bool
  | config | dir | format => true
  | verbose | timings => false

def accepts : Opt → String → Bool
  | config, value | dir, value => value != ""
  | format, value => value == "text" || value == "json"
  | verbose, _ | timings, _ => true

def common : List Opt :=
  [config, dir, verbose]

end Opt

abbrev Given := List (Opt × String)

def isOption (argument : String) : Bool :=
  match argument.toList with
  | '-' :: _ :: _ => true
  | _ => false

/-- What one argument gives, and whether the next one is used up as a value. -/
structure Reading where
  given : Given
  usesNext : Bool := false

def takeNext? (opt : Opt) (next : Option String) : Option Reading :=
  match next with
  | some value => if isOption value then none else some { given := [(opt, value)], usesNext := true }
  | none => none

/-- The value written right behind the letter of an option, with or without an equals sign. -/
def attachedValue : List Char → String
  | '=' :: value => String.ofList value
  | value => String.ofList value

/-- Reads the letters behind one hyphen. The first option that takes a value takes the rest. -/
def readLetters? (allowed : List Opt) (next : Option String) : List Char → Option Reading
  | [] => some { given := [] }
  | letter :: rest =>
    match allowed.find? fun opt => opt.short? = some letter with
    | none => none
    | some opt =>
      if ! opt.takesValue then
        (readLetters? allowed next rest).map fun reading =>
          { reading with given := (opt, "") :: reading.given }
      else if rest.isEmpty then takeNext? opt next
      else some { given := [(opt, attachedValue rest)] }

def readLong? (allowed : List Opt) (next : Option String) (text : List Char) : Option Reading :=
  let name := String.ofList (text.takeWhile (· != '='))
  match allowed.find? fun opt => opt.long == name, text.dropWhile (· != '=') with
  | none, _ => none
  | some opt, [] => if opt.takesValue then takeNext? opt next else some { given := [(opt, "")] }
  | some opt, _ :: value =>
    if opt.takesValue then some { given := [(opt, String.ofList value)] } else none

def readOption? (allowed : List Opt) (argument : String) (next : Option String) : Option Reading :=
  match argument.toList with
  | '-' :: '-' :: text => readLong? allowed next text
  | '-' :: letters => readLetters? allowed next letters
  | _ => none

def Reading.left (reading : Reading) (rest : List String) : List String :=
  if reading.usesNext then rest.tail else rest

theorem Reading.length_left (reading : Reading) (rest : List String) :
    (reading.left rest).length ≤ rest.length := by
  unfold Reading.left
  split <;> simp

def isFair (given : Given) : Bool :=
  (given.map Prod.fst).Nodup && given.all fun (opt, value) => opt.accepts value

def readFront? : List String → Option (Given × String × List String)
  | [] => none
  | argument :: rest =>
    if ! isOption argument then some ([], argument, rest)
    else match readOption? Opt.common argument rest.head? with
      | none => none
      | some reading => do
        let (given, more) ← readFront? (reading.left rest)
        pure (reading.given ++ given, more)
termination_by arguments => arguments.length
decreasing_by
  have := Reading.length_left reading rest
  simp only [List.length_cons]
  omega

def readBack? (allowed : List Opt) : List String → Option (Given × List String)
  | [] => some ([], [])
  | argument :: rest =>
    if argument = "--" then some ([], rest)
    else if ! isOption argument then
      (readBack? allowed rest).map fun (given, words) => (given, argument :: words)
    else match readOption? allowed argument rest.head? with
      | none => none
      | some reading => do
        let (given, words) ← readBack? allowed (reading.left rest)
        pure (reading.given ++ given, words)
termination_by arguments => arguments.length
decreasing_by
  · simp
  · have := Reading.length_left reading rest
    simp only [List.length_cons]
    omega

def optionsOf? : String → Option (List Opt)
  | "run" | "list" => some Opt.common
  | "lint" => some (Opt.common ++ [.format, .timings])
  | _ => none

def formatOf (given : Given) : Format :=
  if given.lookup .format = some "json" then .json else .text

def commandOf? (name : String) (given : Given) (words : List String) : Option Command :=
  match name, words with
  | "run", [file] => some (.run file)
  | "lint", [file] => some (.lint file (formatOf given) (given.lookup .timings).isSome)
  | "list", [] => some (.list "")
  | "list", [start] => some (.list start)
  | _, _ => none

def parseArguments (arguments : List String) : Option Invocation := do
  let (front, name, rest) ← readFront? arguments
  let (back, words) ← readBack? (← optionsOf? name) rest
  let command ← commandOf? name back words
  if isFair front && isFair back then
    pure
      { command
        config := (back ++ front).lookup .config
        dir := (back ++ front).lookup .dir
        verbose := ((back ++ front).lookup .verbose).isSome }
  else none

end ConsoleBatch.Cli
