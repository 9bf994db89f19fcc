import AdaptiveShaper.CommandLine.Arguments

/-!
# Reading the command line

The words of a command line are read from left to right. An option that waits for its value, or has
taken it from the next word, is settled when the next known option comes or at the end: only then a
missing, repeated or unreadable value is found.
-/

namespace AdaptiveShaper

/-- What is wrong with a command line. -/
inductive UsageError where
  | unknownArgument
  | invalidValue
  | valueValidation
  | argumentConflict
  | tooManyValues
  deriving DecidableEq

/-- Why a command line gives no arguments. -/
inductive CommandLineStop where
  | help
  | version
  | misuse (error : UsageError)
  deriving DecidableEq

/-- A word of a command line by its form. -/
inductive CommandWord where
  /-- Two hyphens: no option comes after them. -/
  | separator
  | long (name : String) (value : Option String)
  | short (letter : Char) (rest : List Char)
  | plain (text : String)

namespace CommandWord

/-- The text after an equals sign, if there is one. -/
def afterEquals? : List Char → Option String
  | [] => none
  | _ :: rest => some (String.ofList rest)

def of (word : String) : CommandWord :=
  match word.toList with
  | ['-', '-'] => .separator
  | '-' :: '-' :: rest =>
    let name := rest.takeWhile (· != '=')
    .long (String.ofList name) (afterEquals? (rest.drop name.length))
  | '-' :: letter :: rest => .short letter rest
  | _ => .plain word

end CommandWord

/-- What was read of a command line. -/
structure CommandLine where
  arguments : Arguments
  given : List ArgumentKey
  /-- The option that was named last, with its value if that has come. -/
  pending : Option (ArgumentKey × Option String)

namespace CommandLine

def empty : CommandLine := ⟨.none, [], none⟩

def faultError : ValueFault → UsageError
  | .notTaken => .invalidValue
  | .unreadable => .valueValidation

/-- Takes the value of an option over, unless the option was given before. -/
def give (c : CommandLine) (k : ArgumentKey) (value : String) :
    Except CommandLineStop CommandLine :=
  if c.given.contains k then .error (.misuse .argumentConflict)
  else match c.arguments.set k value with
    | .ok a => .ok { c with arguments := a, given := k :: c.given }
    | .error fault => .error (.misuse (faultError fault))

def settle (c : CommandLine) : Except CommandLineStop CommandLine :=
  match c.pending with
  | none => .ok c
  | some (_, none) => .error (.misuse .invalidValue)
  | some (k, some value) => { c with pending := none }.give k value

/-- Reads a known option, with the value from the same word. -/
def option (c : CommandLine) (k : ArgumentKey) (value : Option String) :
    Except CommandLineStop CommandLine :=
  if k.takesValue then do
    let c ← c.settle
    match value with
    | none => return { c with pending := some (k, none) }
    | some v => c.give k v
  else if value.isSome then .error (.misuse .tooManyValues)
  else do
    let c ← c.settle
    c.give k "true"

/-- Stops, unless the pending option or a value of its own stands against it. -/
def stop (c : CommandLine) (value : Option String) (reason : CommandLineStop) :
    Except CommandLineStop CommandLine :=
  if value.isSome then .error (.misuse .tooManyValues)
  else do
    let _ ← c.settle
    .error reason

def longOption (c : CommandLine) (name : String) (value : Option String) :
    Except CommandLineStop CommandLine :=
  match ArgumentKey.ofName? name with
  | some k => c.option k value
  | none =>
    if name = "help" then c.stop value .help
    else if name = "version" then c.stop value .version
    else .error (.misuse .unknownArgument)

/-- The value in the rest of a word, behind an equals sign or not. -/
def attached? : List Char → Option String
  | [] => none
  | '=' :: rest => some (String.ofList rest)
  | rest => some (String.ofList rest)

def shortOption (c : CommandLine) (letter : Char) (rest : List Char) :
    Except CommandLineStop CommandLine :=
  if letter = 'c' then c.option .config (attached? rest)
  else if letter = 'h' then c.stop none .help
  else if letter = 'V' then c.stop none .version
  else .error (.misuse .unknownArgument)

def plainWord (c : CommandLine) (word : String) : Except CommandLineStop CommandLine :=
  match c.pending with
  | some (k, none) => .ok { c with pending := some (k, some word) }
  | _ => .error (.misuse .unknownArgument)

def words (c : CommandLine) : List String → Except CommandLineStop CommandLine
  | [] => .ok c
  | word :: rest =>
    match CommandWord.of word with
    | .separator => if rest.isEmpty then .ok c else .error (.misuse .unknownArgument)
    | .long name value => do (← c.longOption name value).words rest
    | .short letter tail => do (← c.shortOption letter tail).words rest
    | .plain text => do (← c.plainWord text).words rest

/-- Takes an environment variable in the place of an option that was not given. -/
def fromVariable (environment : String → Option String) (c : CommandLine) (k : ArgumentKey) :
    Except CommandLineStop CommandLine :=
  if c.given.contains k then .ok c
  else match environment k.environmentName with
    | none => .ok c
    | some value => c.give k value

end CommandLine

def Arguments.read (words : List String) (environment : String → Option String) :
    Except CommandLineStop Arguments := do
  let c ← CommandLine.empty.words words
  let c ← c.settle
  let c ← ArgumentKey.all.foldlM (CommandLine.fromVariable environment) c
  return c.arguments

end AdaptiveShaper
