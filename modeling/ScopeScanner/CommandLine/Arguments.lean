/-!
# Arguments of the command line

A command is followed by options and at most one further word. Options have a long name after two
dashes and most of them a letter after one; the letters of several options may be written together.
A value follows its option as the next word, or in the same word, after an equals sign if need be.
After a word of two dashes alone no more options are looked for. The option for settings may also
stand in front of the command.

Words are taken in order, so the first one that is wrong, or that asks for help, decides.
-/

namespace ScopeScanner.CommandLine

/-- An option. -/
inductive Switch where
  | config
  | grammar
  | output
  | pretty
  | format
  | update
  | help
  | version
deriving DecidableEq, Repr

namespace Switch

/-- The long name. -/
def long : Switch → String
  | config => "config"
  | grammar => "grammar"
  | output => "output"
  | pretty => "pretty"
  | format => "format"
  | update => "update"
  | help => "help"
  | version => "version"

/-- The letter. -/
def letter? : Switch → Option Char
  | config => some 'c'
  | grammar => some 'g'
  | output => some 'o'
  | pretty => none
  | format => some 'f'
  | update => some 'u'
  | help => some 'h'
  | version => some 'V'

/-- Whether a value belongs to the option. -/
def takesValue : Switch → Bool
  | config | grammar | output | format => true
  | pretty | update | help | version => false

/-- Whether the option may have a value. -/
def allows (switch : Switch) (value : String) : Bool :=
  match switch with
  | format => value = "json" || value = "snap"
  | _ => true

end Switch

/-- The commands. -/
inductive CommandName where
  | generate
  | scan
  | snap
deriving DecidableEq, Repr

namespace CommandName

/-- The command with a name. -/
def ofText? : String → Option CommandName
  | "generate" => some generate
  | "scan" => some scan
  | "snap" => some snap
  | _ => none

/-- The options of a command. -/
def switches : CommandName → List Switch
  | generate => [.config, .grammar, .output, .pretty, .help]
  | scan => [.config, .grammar, .format, .help]
  | snap => [.config, .grammar, .update, .help]

/-- How many words a command takes besides its options. -/
def maxWords : CommandName → Nat
  | generate => 0
  | scan | snap => 1

end CommandName

/-- How tokens are written. -/
inductive OutputFormat where
  | json
  | snapshot
deriving DecidableEq, Repr

/-- What is to be done. -/
inductive Command where
  /-- Writes a grammar as JSON. -/
  | generate (grammar output : Option String) (pretty : Bool)
  /-- Scans a file. -/
  | scan (path : String) (grammar : Option String) (format : OutputFormat)
  /-- Checks or updates snapshots. -/
  | snap (directory : String) (grammar : Option String) (update : Bool)
deriving DecidableEq, Repr

/-- What there is help on. -/
inductive Topic where
  | program
  | command (name : CommandName)
  /-- Help itself. -/
  | help
deriving DecidableEq, Repr

/-- What the arguments ask for. -/
inductive Request where
  | run (command : Command) (config : Option String)
  | help (topic : Topic)
  | version
deriving DecidableEq, Repr

/-- Words that have been read: options with their values, and other words. -/
structure Words where
  values : List (Switch × String) := []
  others : List String := []

/-- Why reading arguments has stopped. -/
inductive Stop where
  /-- The arguments are wrong. -/
  | usage
  | help
  | version
deriving DecidableEq, Repr

namespace Words

/-- The value of an option. -/
def get? (words : Words) (switch : Switch) : Option String :=
  words.values.lookup switch

/-- Whether an option is given. -/
def has (words : Words) (switch : Switch) : Bool :=
  (words.get? switch).isSome

/-- Notes an option, which may be given once. -/
def note (words : Words) (switch : Switch) (value : String) : Except Stop Words :=
  match switch with
  | .help => throw .help
  | .version => throw .version
  | switch =>
    if words.has switch || !switch.allows value then throw .usage
    else return { words with values := (switch, value) :: words.values }

end Words

/-- Whether a word is an option and not a value. A dash alone is a value. -/
def isOption (word : String) : Bool :=
  match word.toList with
  | '-' :: _ :: _ => true
  | _ => false

/-- Takes the value of an option from the words that follow. -/
def nextValue : List String → Except Stop (String × List String)
  | [] => throw .usage
  | word :: rest => if isOption word then throw .usage else return (word, rest)

/-- Reads an option with a long name. -/
def readLong (switches : List Switch) (body : List Char) (rest : List String) (words : Words) :
    Except Stop (Words × List String) := do
  let name := String.ofList (body.takeWhile (· ≠ '='))
  let attached := match body.dropWhile (· ≠ '=') with
    | [] => none
    | _ :: value => some (String.ofList value)
  match switches.find? (·.long = name), attached with
  | none, _ => throw .usage
  | some switch, none =>
    if switch.takesValue then
      let (value, rest) ← nextValue rest
      return (← words.note switch value, rest)
    else return (← words.note switch "", rest)
  | some switch, some value =>
    if switch.takesValue then return (← words.note switch value, rest) else throw .usage

/-- Reads options by their letters. What follows the letter of an option with a value is its
value. -/
def readLetters (switches : List Switch) (rest : List String) :
    List Char → Words → Except Stop (Words × List String)
  | [], words => return (words, rest)
  | letter :: letters, words => do
    match switches.find? (·.letter? = some letter) with
    | none => throw .usage
    | some switch =>
      if switch.takesValue then
        match letters with
        | [] =>
          let (value, rest) ← nextValue rest
          return (← words.note switch value, rest)
        | '=' :: value | value => return (← words.note switch (String.ofList value), rest)
      else readLetters switches rest letters (← words.note switch "")

/-- Adds a word that is no option. -/
def addWord (limit : Nat) (word : String) (words : Words) : Except Stop Words :=
  if words.others.length < limit then return { words with others := words.others ++ [word] }
  else throw .usage

/-- Reads the words after a command. Every step takes a word, so their number is enough fuel. -/
def readWords (switches : List Switch) (limit : Nat) :
    (fuel : Nat) → List String → Words → Except Stop Words
  | _, [], words => return words
  | 0, _, _ => throw .usage
  | fuel + 1, word :: rest, words =>
    match word.toList with
    | ['-', '-'] => rest.foldlM (fun words word => addWord limit word words) words
    | '-' :: '-' :: body => do
      let (words, rest) ← readLong switches body rest words
      readWords switches limit fuel rest words
    | '-' :: c :: body => do
      let (words, rest) ← readLetters switches rest (c :: body) words
      readWords switches limit fuel rest words
    | _ => do readWords switches limit fuel rest (← addWord limit word words)

/-- The command that words after its name stand for. -/
def toCommand (name : CommandName) (words : Words) : Except Stop Command :=
  let grammar := words.get? .grammar
  match name, words.others with
  | .generate, _ => return .generate grammar (words.get? .output) (words.has .pretty)
  | .scan, path :: _ =>
    let format := if words.get? .format = some "snap" then .snapshot else .json
    return .scan path grammar format
  | .scan, [] => throw .usage
  | .snap, others => return .snap (others.headD ".") grammar (words.has .update)

/-- Reads a command and the words after it. -/
def readCommand (name : CommandName) (rest : List String) (config : Option String) :
    Option Request :=
  let read := do
    let words ← readWords name.switches name.maxWords rest.length rest {}
    let command ← toCommand name words
    return Request.run command ((words.get? .config).or config)
  match read with
  | .ok request => some request
  | .error .help => some (.help (.command name))
  | .error .version => some .version
  | .error .usage => none

/-- Reads what help is asked for. -/
def readHelp : List String → Option Request
  | [] => some (.help .program)
  | ["help"] => some (.help .help)
  | [name] => (CommandName.ofText? name).map fun name => .help (.command name)
  | _ => none

/-- Reads the words in front of a command. -/
def readTop : (fuel : Nat) → List String → Words → Option Request
  | _, [], _ => none
  | 0, _, _ => none
  | fuel + 1, word :: rest, words =>
    let step : Except Stop (Option (Words × List String)) := match word.toList with
      | ['-', '-'] => throw .usage
      | '-' :: '-' :: body => some <$> readLong [.config, .help, .version] body rest words
      | '-' :: c :: body => some <$> readLetters [.config, .help, .version] rest (c :: body) words
      | _ => return none
    match step with
    | .ok (some (words, rest)) => readTop fuel rest words
    | .ok none =>
      match CommandName.ofText? word with
      | some name => readCommand name rest (words.get? .config)
      | none => if word = "help" then readHelp rest else none
    | .error .help => some (.help .program)
    | .error .version => some .version
    | .error .usage => none

/-- What the arguments ask for; none if they are wrong. -/
def Request.ofArguments? (arguments : List String) : Option Request :=
  readTop arguments.length arguments {}

end ScopeScanner.CommandLine
