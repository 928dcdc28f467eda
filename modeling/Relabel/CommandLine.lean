import Relabel.Pass

/-!
# The command line

Arguments are read one after the other. General options stand before or after the name of the
command, its own options and its operands behind it; two dashes end the options. The first argument
that does not fit makes the whole line a misuse.
-/

namespace Relabel

/-- What the program is asked to do. -/
inductive Request where
  | buildDatabase (old new db : Text) (seed : Option Text)
  | refactor (db : Text) (script : Option Text) (roots : List Text)
  | passFile (db : Text) (pass : Pass) (input : Text) (output : Option Text)
  | analyze (file : Text)
deriving DecidableEq, Repr

/-- A request with the general options. -/
structure Invocation where
  request : Request
  /-- The settings file. -/
  config : Option Text
  verbose : Bool
deriving DecidableEq, Repr

/-- What arguments can ask for in place of a request. -/
inductive Aside where
  | help
  | version
  | misuse
deriving DecidableEq, Repr

/-- The options of all commands. -/
inductive Opt where
  | config
  | verbose
  | help
  | version
  | seed
  | database
  | script
  | pass
  | output
deriving DecidableEq, Repr

namespace Opt

def long : Opt → Text
  | config => "config".toList
  | verbose => "verbose".toList
  | help => "help".toList
  | version => "version".toList
  | seed => "seed".toList
  | database => "database".toList
  | script => "sim-config".toList
  | pass => "pass".toList
  | output => "output".toList

def short? : Opt → Option Char
  | config => some 'c'
  | verbose => some 'v'
  | help => some 'h'
  | version => some 'V'
  | seed => none
  | database => some 'd'
  | script => none
  | pass => some 'p'
  | output => some 'o'

def takesValue : Opt → Bool
  | verbose | help | version => false
  | _ => true

end Opt

/-- The names of the commands. -/
inductive Verb where
  | buildDatabase
  | refactor
  | passFile
  | analyze
deriving DecidableEq, Repr

namespace Verb

def label : Verb → Text
  | buildDatabase => "build-db".toList
  | refactor => "refactor".toList
  | passFile => "rewrite".toList
  | analyze => "analyze".toList

def ofLabel? (label : Text) : Option Verb :=
  [buildDatabase, refactor, passFile, analyze].find? fun verb => verb.label = label

/-- The options that may follow the name of a command. -/
def options : Verb → List Opt
  | buildDatabase => [.config, .verbose, .help, .seed]
  | refactor => [.config, .verbose, .help, .database, .script]
  | passFile => [.config, .verbose, .help, .database, .pass, .output]
  | analyze => [.config, .verbose, .help]

/-- How many operands a command takes, if there is a limit. -/
def operandLimit : Verb → Option Nat
  | buildDatabase => some 3
  | refactor => none
  | passFile => some 1
  | analyze => some 1

end Verb

/-- The options before the name of a command. -/
def generalOptions : List Opt :=
  [.config, .verbose, .help, .version]

/-- The arguments that belong together, as far as they have been read. -/
structure Arguments where
  /-- Options with their values; a flag has an empty one. -/
  given : List (Opt × Text) := []
  /-- An option whose value has to come next. -/
  pending : Option Opt := none
  operands : List Text := []
  /-- Whether two dashes have ended the options. -/
  ended : Bool := false
deriving DecidableEq, Repr

namespace Arguments

def has (a : Arguments) (opt : Opt) : Bool :=
  a.given.any fun e => e.1 = opt

def value? (a : Arguments) (opt : Opt) : Option Text :=
  (a.given.find? fun e => e.1 = opt).map (·.2)

/-- Gives an option its value. No option is given twice, and no value is empty. -/
def give (a : Arguments) (opt : Opt) (value : Text) : Except Aside Arguments :=
  if a.has opt ∨ value = [] ∨ (opt = .pass ∧ (Pass.ofLabel? value).isNone) then .error .misuse
  else .ok { a with given := a.given ++ [(opt, value)], pending := none }

/-- Sets a flag. -/
def flag (a : Arguments) (opt : Opt) : Except Aside Arguments :=
  if a.pending.isSome then .error .misuse
  else
    match opt with
    | .help => .error .help
    | .version => .error .version
    | opt => if a.has opt then .error .misuse else .ok { a with given := a.given ++ [(opt, [])] }

/-- Waits for the value of an option. -/
def await (a : Arguments) (opt : Opt) : Except Aside Arguments :=
  if a.pending.isSome ∨ a.has opt then .error .misuse else .ok { a with pending := some opt }

/-- Gives an option the value that is attached to it. -/
def attach (a : Arguments) (opt : Opt) (value : Text) : Except Aside Arguments :=
  if a.pending.isSome then .error .misuse else a.give opt value

/-- Reads an option by its long name, perhaps with a value behind an equals sign. -/
def long (allowed : List Opt) (a : Arguments) (word : Text) : Except Aside Arguments :=
  let name := word.takeWhile (· ≠ '=')
  let attached := word.dropWhile (· ≠ '=')
  match allowed.find? fun opt => opt.long = name with
  | none => .error .misuse
  | some opt =>
      match opt.takesValue, attached with
      | true, [] => a.await opt
      | true, _ :: value => a.attach opt value
      | false, [] => a.flag opt
      | false, _ :: _ => .error .misuse

/-- Reads options by their letters. What follows the letter of an option with a
value is the value. -/
def short (allowed : List Opt) : Arguments → Text → Except Aside Arguments
  | a, [] => .ok a
  | a, c :: rest =>
      match allowed.find? fun opt => opt.short? = some c with
      | none => .error .misuse
      | some opt =>
          if opt.takesValue then
            match rest with
            | [] => a.await opt
            | '=' :: value => a.attach opt value
            | value => a.attach opt value
          else do short allowed (← a.flag opt) rest

/-- Takes an operand. -/
def operand (limit : Option Nat) (a : Arguments) (word : Text) : Except Aside Arguments :=
  if a.pending.isSome ∨ word = [] ∨ limit.any (· ≤ a.operands.length) then .error .misuse
  else .ok { a with operands := a.operands ++ [word] }

/-- Reads one argument. -/
def read (allowed : List Opt) (limit : Option Nat) (a : Arguments) (word : Text) :
    Except Aside Arguments :=
  if a.ended then a.operand limit word
  else
    match word, a.pending with
    | ['-', '-'], _ => .ok { a with ended := true }
    | '-' :: '-' :: word, _ => a.long allowed word
    | '-' :: c :: rest, _ => a.short allowed (c :: rest)
    | word, some opt => a.give opt word
    | word, none => a.operand limit word

/-- Checks that no option waits for its value at the end. -/
def finish (a : Arguments) : Except Aside Arguments :=
  if a.pending.isSome then .error .misuse else .ok a

/-- The request that the arguments of a command make. -/
def request (verb : Verb) (a : Arguments) : Option Request :=
  match verb, a.operands with
  | .buildDatabase, [old, new, db] => some (.buildDatabase old new db (a.value? .seed))
  | .refactor, root :: roots => do
      return .refactor (← a.value? .database) (a.value? .script) (root :: roots)
  | .passFile, [input] => do
      let pass ← Pass.ofLabel? (← a.value? .pass)
      return .passFile (← a.value? .database) pass input (a.value? .output)
  | .analyze, [file] => some (.analyze file)
  | _, _ => none

end Arguments

namespace Invocation

/-- Whether the words behind the command `help` name something to explain. -/
def explained : List Text → Bool
  | [] => true
  | [word] => (Verb.ofLabel? word).isSome || word = "help".toList
  | _ => false

/-- The invocation that a command and the arguments around its name make. -/
def make (verb : Verb) (general own : Arguments) : Except Aside Invocation :=
  match own.request verb with
  | none => .error .misuse
  | some request =>
      .ok { request
            config := (own.value? .config).or (general.value? .config)
            verbose := own.has .verbose || general.has .verbose }

/-- Reads the arguments behind the name of a command. -/
def behind (verb : Verb) (general : Arguments) (args : List Text) : Except Aside Invocation := do
  let own : Arguments ← args.foldlM (Arguments.read verb.options verb.operandLimit) {}
  make verb general (← own.finish)

/-- Reads arguments up to the name of a command, and from there on as the command's. -/
def readFrom (general : Arguments) : List Text → Except Aside Invocation
  | [] => .error .misuse
  | word :: rest =>
      if general.ended ∨ general.pending.isSome then do
        readFrom (← general.read generalOptions (some 0) word) rest
      else
        match Verb.ofLabel? word with
        | some verb => behind verb general rest
        | none =>
            if word = "help".toList then .error (if explained rest then .help else .misuse)
            else do readFrom (← general.read generalOptions (some 0) word) rest

/-- Reads a command line. -/
def ofArguments (args : List Text) : Except Aside Invocation :=
  readFrom {} args

end Invocation

end Relabel
