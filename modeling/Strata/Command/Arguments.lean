import Strata.Ecosystem
import Strata.Report

/-!
# Command-line arguments

What a user asks for, read from the words of the command line.  Options may stand before or after
the command; the two general ones are understood in both places, and the later place wins.  The
words are looked at one after another, and the first fault, or the first request for help or for
the version, ends the reading.
-/

namespace Strata.Command

open Strata.Text

/-- An option. -/
inductive Opt where
  /-- More messages. -/
  | verbose
  /-- The configuration file. -/
  | config
  /-- The form of the report. -/
  | format
  /-- The ecosystem. -/
  | ecosystem
  /-- A glob for files to leave out. -/
  | exclude
  /-- Replace an existing file. -/
  | force
  /-- Explain the command. -/
  | help
  /-- Tell the version. -/
  | version
deriving DecidableEq, Repr

namespace Opt

/-- The name after two hyphens. -/
def long : Opt → String
  | verbose => "verbose"
  | config => "config"
  | format => "format"
  | ecosystem => "ecosystem"
  | exclude => "exclude"
  | force => "force"
  | help => "help"
  | version => "version"

/-- The letter after one hyphen. -/
def short? : Opt → Option Char
  | verbose => some 'v'
  | config => some 'c'
  | format => some 'f'
  | ecosystem => none
  | exclude => some 'e'
  | force => none
  | help => some 'h'
  | version => some 'V'

/-- Whether a value follows. -/
def takesValue : Opt → Bool
  | config => true
  | format => true
  | ecosystem => true
  | exclude => true
  | _ => false

/-- Whether it may be given more than once. -/
def repeats : Opt → Bool
  | exclude => true
  | _ => false

end Opt

/-- What the command line says next. -/
inductive Event where
  /-- An option, with its value if it takes one. -/
  | option (opt : Opt) (value : String)
  /-- A word that is no option, and what follows it. -/
  | word (text : String) (rest : List String)
  /-- A word after two hyphens, which can only be a path. -/
  | path (text : String)
  /-- Something that is not understood. -/
  | fault
deriving Repr

/-- Whether a word can be the value of the option before it. -/
def isValue (word : String) : Bool :=
  word == "-" || !hasStart "-" word

/-- Letters after one hyphen: the options without value, and the one at the end that takes the
rest of the word, or the next word, as its value. -/
structure Cluster where
  /-- The options without value. -/
  flags : List Opt := []
  /-- The option with a value, and the value if it is in the same word. -/
  last : Option (Opt × Option String) := none
  /-- Whether a letter is not understood after them. -/
  fault : Bool := false

/-- Reads letters after one hyphen. -/
def readCluster (allowed : List Opt) : List Char → Cluster
  | [] => {}
  | c :: rest =>
    match allowed.find? fun opt => opt.short? == some c with
    | none => { fault := true }
    | some opt =>
      if opt.takesValue then
        match rest with
        | [] => { last := some (opt, none) }
        | '=' :: value => { last := some (opt, some (String.ofList value)) }
        | value => { last := some (opt, some (String.ofList value)) }
      else
        let more := readCluster allowed rest
        { more with flags := opt :: more.flags }

/-- The name and the value in a word after two hyphens. -/
def splitLong (text : String) : String × Option String :=
  let cs := text.toList
  match cs.dropWhile (· != '=') with
  | [] => (text, none)
  | _ :: value => (String.ofList (cs.takeWhile (· != '=')), some (String.ofList value))

/-- What a word that starts with a hyphen says: the events, and the option that still needs a
value. -/
def readHyphens (allowed : List Opt) (word : String) : List Event × Option Opt :=
  match afterStart? "--" word with
  | some text =>
    let (name, value) := splitLong text
    match allowed.find? fun opt => opt.long == name with
    | none => ([.fault], none)
    | some opt =>
      match opt.takesValue, value with
      | true, some value => ([.option opt value], none)
      | true, none => ([], some opt)
      | false, some _ => ([.fault], none)
      | false, none => ([.option opt ""], none)
  | none =>
    let cluster := readCluster allowed (word.toList.drop 1)
    let flags := cluster.flags.map fun opt => Event.option opt ""
    if cluster.fault then (flags ++ [.fault], none)
    else
      match cluster.last with
      | none => (flags, none)
      | some (opt, some value) => (flags ++ [.option opt value], none)
      | some (opt, none) => (flags, some opt)

/-- What the words of a command line say, given the options that are understood. -/
def events (allowed : List Opt) : List String → List Event
  | [] => []
  | word :: rest =>
    if word = "--" then rest.map .path
    else if isValue word then .word word rest :: events allowed rest
    else
      match readHyphens allowed word, rest with
      | (said, none), rest => said ++ events allowed rest
      | (said, some opt), value :: rest =>
        if isValue value then said ++ .option opt value :: events allowed rest
        else said ++ [.fault]
      | (said, some _), [] => said ++ [.fault]

/-- What has been read of a command line. -/
structure Settings where
  /-- The options given, to tell repetitions. -/
  given : List Opt := []
  /-- The configuration file. -/
  config : Option String := none
  /-- The form of the report. -/
  format : Report.Format := .text
  /-- The ecosystem. -/
  ecosystem : Option Ecosystem := none
  /-- Globs for files to leave out. -/
  exclude : List String := []
  /-- The path to check. -/
  path : Option String := none
deriving Repr

/-- Takes note of an option, unless it is repeated or its value is not understood. -/
def Settings.note? (s : Settings) (opt : Opt) (value : String) : Option Settings :=
  if s.given.contains opt && !opt.repeats then none
  else
    let s := { s with given := opt :: s.given }
    match opt with
    | .config => if value = "" then none else some { s with config := some value }
    | .format => (Report.Format.ofName? value).map fun format => { s with format }
    | .ecosystem =>
      (Ecosystem.parse? value).map fun ecosystem => { s with ecosystem := some ecosystem }
    | .exclude => some { s with exclude := s.exclude ++ [value] }
    | _ => some s

/-- Takes note of the path, unless there is one already or it is empty. -/
def Settings.notePath? (s : Settings) (text : String) : Option Settings :=
  if s.path.isSome || text == "" then none else some { s with path := some text }

/-- What a user can ask for. -/
inductive Request where
  /-- Check the sources below a path. -/
  | check (path : String) (config : Option String) (format : Report.Format)
      (ecosystem : Option Ecosystem) (exclude : List String)
  /-- List the checks. -/
  | listRules
  /-- Write a first configuration file. -/
  | init (force : Bool) (ecosystem : Ecosystem)
  /-- Tell the version. -/
  | version
  /-- Explain the command. -/
  | help
deriving Repr

/-- How reading some events ends. -/
inductive Reading where
  /-- All are read, or the reading stops before a word that is followed by `rest`. -/
  | done (settings : Settings) (next : Option (String × List String))
  /-- Help or the version is asked for. -/
  | asked (request : Request)
  /-- Something is not understood. -/
  | fault

/-- Reads events.  If a path is taken, a word is one; otherwise the first word stops the reading. -/
def readEvents (takesPath : Bool) : Settings → List Event → Reading
  | s, [] => .done s none
  | _, .fault :: _ => .fault
  | _, .option .help _ :: _ => .asked .help
  | _, .option .version _ :: _ => .asked .version
  | s, .option opt value :: rest =>
    match s.note? opt value with
    | some s => readEvents takesPath s rest
    | none => .fault
  | s, .word text later :: rest =>
    if !takesPath then .done s (some (text, later))
    else
      match s.notePath? text with
      | some s => readEvents takesPath s rest
      | none => .fault
  | s, .path text :: rest =>
    if !takesPath then .fault
    else
      match s.notePath? text with
      | some s => readEvents takesPath s rest
      | none => .fault

/-- A command. -/
inductive Verb where
  /-- Check. -/
  | check
  /-- List the checks. -/
  | listRules
  /-- Write a configuration file. -/
  | init
deriving DecidableEq, Repr

namespace Verb

/-- All commands. -/
def all : List Verb := [check, listRules, init]

/-- The word for a command. -/
def name : Verb → String
  | check => "check"
  | listRules => "list-rules"
  | init => "init"

/-- The options of a command. -/
def options : Verb → List Opt
  | check => [.format, .ecosystem, .exclude]
  | listRules => []
  | init => [.force, .ecosystem]

/-- Whether a command takes a path. -/
def takesPath : Verb → Bool
  | check => true
  | _ => false

/-- The request that a command makes with its settings. -/
def request (verb : Verb) (config : Option String) (s : Settings) : Request :=
  match verb with
  | check =>
    .check (s.path.getD ".") (s.config.or config) s.format s.ecosystem s.exclude
  | listRules => .listRules
  | init => .init (s.given.contains .force) (s.ecosystem.getD .typescript)

end Verb

/-- The options understood everywhere. -/
def general : List Opt := [.verbose, .config, .help]

/-- Reads what follows a command. -/
def readVerb? (verb : Verb) (config : Option String) (words : List String) : Option Request :=
  match readEvents verb.takesPath {} (events (general ++ verb.options) words) with
  | .done s none => some (verb.request config s)
  | .done _ (some _) => none
  | .asked request => some request
  | .fault => none

/-- Whether help can be asked for about what these words name: nothing, or one command. -/
def namesTopic : List String → Bool
  | [] => true
  | [word] => word == "help" || Verb.all.any fun verb => verb.name == word
  | _ => false

/-- Reads a command line; nothing if it is not understood. -/
def parse? (words : List String) : Option Request :=
  match readEvents false {} (events (general ++ [.version]) words) with
  | .done s (some (word, rest)) =>
    match Verb.all.find? fun verb => verb.name == word with
    | some verb => readVerb? verb s.config rest
    | none => if word = "help" && namesTopic rest then some .help else none
  | .done _ none => none
  | .asked request => some request
  | .fault => none

end Strata.Command
