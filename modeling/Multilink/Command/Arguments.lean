/-!
# Arguments

The arguments of a command are options and words. An option has a name of several letters behind two
dashes, or one letter behind a single dash; letters can share their dash. Its value, if it takes
one, is attached or is the next argument, which then does not begin with a dash. Behind two bare
dashes all arguments are words.

`Arguments.read` reads the arguments of one command. A command that has subcommands takes one word,
and leaves everything behind it to the subcommand.
-/

namespace Multilink

/-- An option of a command. -/
structure CommandOption where
  name : String
  /-- The letter, if there is one. -/
  letter : Option Char := none
  /-- Does it take a value? -/
  takesValue : Bool := false
  /-- Is this text a value for it? -/
  accepts : String → Bool := fun _ => true

/-- The words that a command takes. -/
inductive CommandWords where
  /-- The name of a subcommand, with its arguments. -/
  | subcommand
  /-- At most so many words. -/
  | upTo (count : Nat)
  /-- Any number of words. -/
  | any
  deriving DecidableEq, Repr

/-- What a command takes. -/
structure CommandShape where
  options : List CommandOption := []
  words : CommandWords := .upTo 0

/-- What is wrong with arguments. -/
inductive UsageError where
  /-- There is no such option. -/
  | unknownOption (text : String)
  /-- The option takes no value. -/
  | needlessValue (option : String)
  /-- The option has no value. -/
  | missingValue (option : String)
  /-- The text is no value for the option. -/
  | invalidValue (option value : String)
  /-- The option is there twice. -/
  | repeatedOption (option : String)
  /-- The command does not take this word. -/
  | unknownWord (word : String)
  /-- A word is missing. -/
  | missingWord (name : String)
  deriving DecidableEq, Repr

/-- The wording of a usage error. -/
def UsageError.message : UsageError → String
  | unknownOption text => "unexpected argument '" ++ text ++ "' found"
  | needlessValue option => "unexpected value for '--" ++ option ++ "' found"
  | missingValue option => "a value is required for '--" ++ option ++ "' but none was supplied"
  | invalidValue option value => "invalid value '" ++ value ++ "' for '--" ++ option ++ "'"
  | repeatedOption option => "the argument '--" ++ option ++ "' cannot be used multiple times"
  | unknownWord word => "unexpected argument '" ++ word ++ "' found"
  | missingWord name => "the following required argument was not provided: " ++ name

/-- Why arguments are not read to their end. -/
inductive Interruption where
  /-- They are wrong. -/
  | usage (e : UsageError)
  /-- They ask for help. -/
  | help
  /-- They ask for the version. -/
  | version
  deriving DecidableEq, Repr

/-- What the arguments of a command say. -/
structure Arguments where
  /-- The options with their values, the latest first; one that takes none has the empty text. -/
  options : List (String × String) := []
  /-- The words, the first first. -/
  words : List String := []
  /-- The arguments of the subcommand. -/
  rest : List String := []
  deriving DecidableEq, Repr

namespace Arguments

/-- Is the option there? -/
def has (a : Arguments) (name : String) : Bool :=
  (a.options.lookup name).isSome

/-- The value of an option. -/
def value? (a : Arguments) (name : String) : Option String :=
  a.options.lookup name

/-- Options that every command has, beside its own. -/
def helpOption : CommandOption where
  name := "help"
  letter := some 'h'

/-- One option in an argument. -/
inductive Mention where
  /-- An option of the command, perhaps with a value attached. -/
  | known (option : CommandOption) (attached : Option String)
  /-- No option of the command. -/
  | unknown (text : String)

/-- The options that the letters behind a dash mention. Behind the letter of an option with a value
stands the value, and an equals sign may stand between. -/
def ofLetters (s : CommandShape) : List Char → List Mention
  | [] => []
  | c :: rest =>
    match (helpOption :: s.options).find? (·.letter == some c) with
    | none => [.unknown (String.ofList ['-', c])]
    | some o =>
      if o.takesValue then
        match rest with
        | [] => [.known o none]
        | '=' :: value => [.known o (some (String.ofList value))]
        | value => [.known o (some (String.ofList value))]
      else .known o none :: ofLetters s rest

/-- The option that the text behind two dashes mentions. A value is attached behind an equals
sign. -/
def ofName (s : CommandShape) (text : List Char) : Mention :=
  let name := String.ofList (text.takeWhile (· != '='))
  match (helpOption :: s.options).find? (·.name == name) with
  | none => .unknown ("--" ++ String.ofList text)
  | some o =>
    match text.dropWhile (· != '=') with
    | [] => .known o none
    | _ :: value => .known o (some (String.ofList value))

/-- What an argument is. -/
inductive Shape where
  | word
  /-- Two bare dashes. -/
  | dashes
  /-- Some options. -/
  | options (ms : List Mention)

/-- Tells words from options; a single dash is a word. -/
def shapeOf (s : CommandShape) (argument : String) : Shape :=
  match argument.toList with
  | ['-', '-'] => .dashes
  | '-' :: '-' :: text => .options [ofName s text]
  | '-' :: c :: letters => .options (ofLetters s (c :: letters))
  | _ => .word

/-- Can an argument be the value of the option before it? -/
def isValue (argument : String) : Bool :=
  match argument.toList with
  | '-' :: _ :: _ => false
  | _ => true

/-- Notes an option with its value. -/
def note (o : CommandOption) (value : String) (a : Arguments) : Except Interruption Arguments :=
  if o.name = "help" then .error .help
  else if o.name = "version" then .error .version
  else if a.has o.name then .error (.usage (.repeatedOption o.name))
  else if o.takesValue && !o.accepts value then
    .error (.usage (.invalidValue o.name value))
  else .ok { a with options := (o.name, value) :: a.options }

/-- Notes the options of one argument. If the last one lacks its value it is returned. -/
def noteAll : List Mention → Arguments → Except Interruption (Arguments × Option CommandOption)
  | [], a => .ok (a, none)
  | .unknown text :: _, _ => .error (.usage (.unknownOption text))
  | .known o attached :: rest, a =>
    match o.takesValue, attached with
    | true, none => .ok (a, some o)
    | true, some value => do
      let a ← note o value a
      noteAll rest a
    | false, some _ => .error (.usage (.needlessValue o.name))
    | false, none => do
      let a ← note o "" a
      noteAll rest a

/-- Notes a word, if the command takes one more. -/
def noteWord (s : CommandShape) (word : String) (a : Arguments) : Except Interruption Arguments :=
  match s.words with
  | .upTo count =>
    if a.words.length < count then .ok { a with words := a.words ++ [word] }
    else .error (.usage (.unknownWord word))
  | .any => .ok { a with words := a.words ++ [word] }
  | .subcommand => .error (.usage (.unknownWord word))

/-- Reads what is left of the arguments of a command. -/
def readFrom (s : CommandShape) (a : Arguments) : List String → Except Interruption Arguments
  | [] => .ok a
  | argument :: rest =>
    match shapeOf s argument with
    | .dashes => rest.foldlM (fun a word => noteWord s word a) a
    | .word =>
      match s.words with
      | .subcommand => .ok { a with words := [argument], rest }
      | _ => do
        let a ← noteWord s argument a
        readFrom s a rest
    | .options ms =>
      match noteAll ms a with
      | .error e => .error e
      | .ok (a, none) => readFrom s a rest
      | .ok (a, some o) =>
        match rest with
        | [] => .error (.usage (.missingValue o.name))
        | value :: rest =>
          if isValue value then
            match note o value a with
            | .error e => .error e
            | .ok a => readFrom s a rest
          else .error (.usage (.missingValue o.name))

/-- Reads the arguments of a command. -/
def read (s : CommandShape) (arguments : List String) : Except Interruption Arguments :=
  readFrom s {} arguments

end Arguments

end Multilink
