import NodeFit.Command.Settings

/-!
# NodeFit.Command.Arguments

The words of a command line.

A command line names one of three commands; options stand before or behind its name.  A
word with two dashes is one option, a word with one dash a row of letters, each an
option.  A value follows in the same word, with or without an equals sign behind a
letter, or is the next word, which must not start with a dash itself.  Behind a word of
two dashes alone all words are operands.  An option that is not a selector is given at
most once on either side of the name; what is said behind the name wins.

Each option is one value of `Switch`, with its name, its letter and whether it takes a value, and
one function puts it into what a part of the command line has given (`Given`).  A part is what
stands before the name of the command or behind it.  A command line that asks for help or for the
version asks for no command, and the reading ends there as it does at a mistake (`Interruption`).
-/

namespace NodeFit

/-! ## Command lines -/

/-- What is to be done. -/
inductive Task where
  /-- Evaluate a document against collected files. -/
  | run (document : String) (parallel : Bool) (metricsOut : Option String)
  /-- List the collected nodes. -/
  | nodes
  /-- Evaluate a conditional over the nodes that labels select. -/
  | eval (conditional : String) (selectors : List String)
deriving DecidableEq, Repr

/-- Options that every command has. -/
structure GeneralOptions where
  bundle : Option String
  format : Option OutputFormat
  verbose : Bool
  logJson : Bool
deriving DecidableEq, Repr

/-- A command line that asks for a command. -/
structure Invocation where
  general : GeneralOptions
  task : Task
deriving DecidableEq, Repr

/-- Why a command line asks for no command. -/
inductive Interruption where
  /-- It is not well formed. -/
  | usage
  /-- It asks how to use the program. -/
  | help
  /-- It asks for the version of the program. -/
  | version
deriving DecidableEq, Repr

namespace Arguments

/-! ## Options -/

/-- The options of command lines. -/
inductive Switch where
  | bundle
  | format
  | verbose
  | logJson
  | parallel
  | metricsOut
  | selector
  | help
  | version
deriving DecidableEq, Repr

namespace Switch

def name : Switch → String
  | bundle => "bundle"
  | format => "format"
  | verbose => "verbose"
  | logJson => "log-json"
  | parallel => "parallel"
  | metricsOut => "metrics-out"
  | selector => "selector"
  | help => "help"
  | version => "version"

def letter? : Switch → Option Char
  | bundle => some 'b'
  | format => some 'f'
  | verbose => some 'v'
  | selector => some 'l'
  | help => some 'h'
  | version => some 'V'
  | _ => none

def takesValue : Switch → Bool
  | bundle => true
  | format => true
  | metricsOut => true
  | selector => true
  | _ => false

end Switch

/-- The parts of a command line: before the name of the command, and behind each name. -/
inductive Scope where
  | top
  | run
  | nodes
  | eval
deriving DecidableEq, Repr

namespace Scope

/-- The options of a part. -/
def switches : Scope → List Switch
  | top => [.bundle, .format, .verbose, .logJson, .help, .version]
  | run => [.bundle, .format, .verbose, .logJson, .parallel, .metricsOut, .help]
  | nodes => [.bundle, .format, .verbose, .logJson, .help]
  | eval => [.bundle, .format, .verbose, .logJson, .selector, .help]

def ofName? (scope : Scope) (name : List Char) : Option Switch :=
  scope.switches.find? fun s => s.name.toList == name

def ofLetter? (scope : Scope) (letter : Char) : Option Switch :=
  scope.switches.find? fun s => s.letter? == some letter

def ofCommand? : String → Option Scope
  | "run" => some run
  | "nodes" => some nodes
  | "eval" => some eval
  | _ => none

end Scope

/-! ## What is given -/

/-- What one part of a command line gives. -/
structure Given where
  bundle : Option String
  format : Option OutputFormat
  verbose : Bool
  logJson : Bool
  parallel : Bool
  metricsOut : Option String
  /-- The selectors in their order. -/
  selectors : List String
  /-- The word that is no option. -/
  operand : Option String
deriving DecidableEq, Repr

namespace Given

def nothing : Given := ⟨none, none, false, false, false, none, [], none⟩

/-- A value that was not given before. -/
def once {α : Type} (before : Option α) (value : α) : Except Interruption (Option α) :=
  match before with
  | none => .ok (some value)
  | some _ => .error .usage

/-- A path, which is not empty and was not given before. -/
def oncePath (before : Option String) (path : String) : Except Interruption (Option String) :=
  if path.isEmpty then .error .usage else once before path

/-- Gives an option its value. -/
def put (g : Given) (s : Switch) (value : String) : Except Interruption Given :=
  match s with
  | .bundle => (oncePath g.bundle value).map fun bundle => { g with bundle }
  | .metricsOut => (oncePath g.metricsOut value).map fun metricsOut => { g with metricsOut }
  | .selector => .ok { g with selectors := g.selectors ++ [value] }
  | .format =>
    match OutputFormat.ofName? value with
    | none => .error .usage
    | some format => (once g.format format).map fun format => { g with format }
  | _ => .error .usage

/-- Gives an option without a value. -/
def turnOn (g : Given) (s : Switch) : Except Interruption Given :=
  match s with
  | .verbose => if g.verbose then .error .usage else .ok { g with verbose := true }
  | .logJson => if g.logJson then .error .usage else .ok { g with logJson := true }
  | .parallel => if g.parallel then .error .usage else .ok { g with parallel := true }
  | .help => .error .help
  | .version => .error .version
  | _ => .error .usage

/-- Gives an operand: the path of a document, or a conditional, which may be empty. -/
def putOperand (scope : Scope) (g : Given) (word : String) : Except Interruption Given :=
  match scope with
  | .run => (oncePath g.operand word).map fun operand => { g with operand }
  | .eval => (once g.operand word).map fun operand => { g with operand }
  | _ => .error .usage

/-! ## Words -/

/-- Takes the letters of a word.  The last one may be an option whose value is to
follow. -/
def takeLetters (scope : Scope) (g : Given) :
    List Char → Except Interruption (Given × Option Switch)
  | [] => .ok (g, none)
  | letter :: rest =>
    match scope.ofLetter? letter with
    | none => .error .usage
    | some s =>
      if s.takesValue then
        match rest with
        | [] => .ok (g, some s)
        | '=' :: value => (g.put s (String.ofList value)).map (·, none)
        | value => (g.put s (String.ofList value)).map (·, none)
      else
        match g.turnOn s with
        | .ok g => takeLetters scope g rest
        | .error e => .error e

/-- Takes the name of an option, with its value behind an equals sign or still to
follow. -/
def takeName (scope : Scope) (g : Given) (cs : List Char) :
    Except Interruption (Given × Option Switch) :=
  match scope.ofName? (cs.takeWhile (· != '=')), cs.dropWhile (· != '=') with
  | none, _ => .error .usage
  | some s, _ :: value =>
    if s.takesValue then (g.put s (String.ofList value)).map (·, none) else .error .usage
  | some s, [] => if s.takesValue then .ok (g, some s) else (g.turnOn s).map (·, none)

/-- Whether a word is an option; a dash alone is none. -/
def isOption (word : String) : Bool :=
  match word.toList with
  | '-' :: _ :: _ => true
  | _ => false

/-- Takes a word that is an option. -/
def takeOption (scope : Scope) (g : Given) (word : String) :
    Except Interruption (Given × Option Switch) :=
  match word.toList with
  | '-' :: '-' :: cs => takeName scope g cs
  | cs => takeLetters scope g (cs.drop 1)

/-- Takes words in order.  Before the name of a command the first operand ends the part
and is left with all that follows it. -/
def takeWords (scope : Scope) : Given → List String → Except Interruption (Given × List String)
  | g, [] => .ok (g, [])
  | g, word :: rest =>
    if word == "--" then (rest.foldlM (putOperand scope) g).map (·, [])
    else if !isOption word then
      if scope == .top then .ok (g, word :: rest)
      else
        match putOperand scope g word with
        | .ok g => takeWords scope g rest
        | .error e => .error e
    else
      match takeOption scope g word, rest with
      | .error e, _ => .error e
      | .ok (g, none), rest => takeWords scope g rest
      | .ok (_, some _), [] => .error .usage
      | .ok (g, some s), value :: rest =>
        if isOption value then .error .usage
        else
          match g.put s value with
          | .ok g => takeWords scope g rest
          | .error e => .error e

/-- The general options of two parts; the second one wins. -/
def general (before behind : Given) : GeneralOptions :=
  { bundle := behind.bundle <|> before.bundle
    format := behind.format <|> before.format
    verbose := before.verbose || behind.verbose
    logJson := before.logJson || behind.logJson }

/-- The task of a part behind the name of a command. -/
def task? (g : Given) : Scope → Option Task
  | .top => none
  | .run => g.operand.map fun document => .run document g.parallel g.metricsOut
  | .nodes => some .nodes
  | .eval => g.operand.map fun conditional => .eval conditional g.selectors

end Given

/-! ## Command lines -/

/-- What a request for help about a command leads to. -/
def helpOn : List String → Interruption
  | [] => .help
  | [name] => if name == "help" || (Scope.ofCommand? name).isSome then .help else .usage
  | _ => .usage

/-- Reads a command line. -/
def parse (words : List String) : Except Interruption Invocation := do
  let (before, rest) ← Given.takeWords .top .nothing words
  match rest with
  | [] => throw .usage
  | "help" :: rest => throw (helpOn rest)
  | name :: rest =>
    let scope ← (Scope.ofCommand? name).elim (throw .usage) pure
    let (behind, _) ← Given.takeWords scope .nothing rest
    let task ← (behind.task? scope).elim (throw .usage) pure
    return ⟨before.general behind, task⟩

end Arguments
end NodeFit
