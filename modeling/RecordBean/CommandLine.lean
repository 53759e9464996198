/-! # Command lines

The arguments of the program: one of three commands with its options, and options of the program
itself. An option takes its value from the next argument or from its own, behind an equals sign or,
for a short one, directly; no option is given twice.
-/

namespace RecordBean

inductive Command where
  /-- Write a bean for every marked record. -/
  | generate (input : String) (output config : Option String) (parallel : Bool)
  /-- Run a pass without writing files. -/
  | check (input : String) (config : Option String)
  /-- Print the bean of one record. -/
  | preview (input typeName : String) (config : Option String)
deriving DecidableEq, Repr

structure Invocation where
  logLevel : Option String
  command : Command
deriving DecidableEq, Repr

/-- What arguments ask for. -/
inductive Wish where
  | run (i : Invocation)
  | version
  | help
  /-- The arguments make no sense. -/
  | misuse
deriving DecidableEq, Repr

namespace CommandLine

/-- An option: its long name and its letter, if it has one. -/
structure OptionName where
  long : String
  letter : Option Char
  /-- Whether the option takes a value; otherwise it is given or not. -/
  takesValue : Bool
deriving DecidableEq

def logLevel : OptionName := ⟨"log-level", none, true⟩
def input : OptionName := ⟨"input", some 'i', true⟩
def output : OptionName := ⟨"output", some 'o', true⟩
def config : OptionName := ⟨"config", some 'c', true⟩
def typeName : OptionName := ⟨"type", some 't', true⟩
def parallel : OptionName := ⟨"parallel", none, false⟩

/-- The options given, by their long names; an option without value has an empty one. -/
abbrev Given := List (String × String)

inductive Argument where
  /-- An option with the value that is part of the argument. -/
  | option (name : OptionName) (value : Option String)
  | version
  | help
  /-- The mark behind which no options follow. -/
  | endMark
  | word (text : String)
  | unknown

def splitEquals (cs : List Char) : List Char × Option (List Char) :=
  match cs.dropWhile (· != '=') with
  | [] => (cs, none)
  | _ :: value => (cs.takeWhile (· != '='), some value)

/-- An option by its long name. -/
def longArgument (known : List OptionName) (cs : List Char) : Argument :=
  let (name, value) := splitEquals cs
  match known.find? (·.long.toList == name), value with
  | some o, value =>
    if o.takesValue || value.isNone then .option o (value.map String.ofList) else .unknown
  | none, none => if name = "help".toList then .help else .unknown
  | none, some _ => .unknown

/-- An option by its letter; what follows the letter is the value. -/
def shortArgument (known : List OptionName) (letter : Char) (rest : List Char) : Argument :=
  match known.find? (·.letter == some letter) with
  | some o =>
    match rest with
    | [] => .option o none
    | '=' :: value => .option o (some (String.ofList value))
    | value => .option o (some (String.ofList value))
  | none => if letter = 'h' then .help else .unknown

/-- Tell what an argument is, where the given options are known. The version can be asked for only
in front of the command. -/
def classify (known : List OptionName) (inFront : Bool) (argument : String) : Argument :=
  match argument.toList with
  | ['-', '-'] => .endMark
  | '-' :: '-' :: rest =>
    if inFront && rest == "version".toList then .version else longArgument known rest
  | '-' :: letter :: rest =>
    if inFront && letter == 'V' then .version else shortArgument known letter rest
  | _ => .word argument

def isValue (argument : String) : Bool :=
  match argument.toList with
  | '-' :: _ :: _ => false
  | _ => true

/-- The options in front of the first word, that word, and the arguments behind it. -/
def takeOptions (known : List OptionName) (inFront : Bool) (given : Given) :
    List String → Except Wish (Given × Option (String × List String))
  | [] => .ok (given, none)
  | a :: rest =>
    match classify known inFront a with
    | .version => .error .version
    | .help => .error .help
    | .unknown => .error .misuse
    | .endMark => if rest.isEmpty then .ok (given, none) else .error .misuse
    | .word w => .ok (given, some (w, rest))
    | .option o value =>
      if given.any (·.1 == o.long) then .error .misuse
      else
        match o.takesValue, value, rest with
        | false, _, rest => takeOptions known inFront ((o.long, "") :: given) rest
        | true, some v, rest => takeOptions known inFront ((o.long, v) :: given) rest
        | true, none, v :: rest =>
          if isValue v then takeOptions known inFront ((o.long, v) :: given) rest
          else .error .misuse
        | true, none, [] => .error .misuse

def Given.get? (given : Given) (o : OptionName) : Option String := given.lookup o.long

def optionsOf? (command : String) : Option (List OptionName) :=
  if command = "generate" then some [input, output, config, parallel]
  else if command = "check" then some [input, config]
  else if command = "preview" then some [input, typeName, config]
  else none

def command? (name : String) (given : Given) : Option Command := do
  let path ← given.get? input
  if name = "generate" then
    return .generate path (given.get? output) (given.get? config) (given.get? parallel).isSome
  else if name = "check" then return .check path (given.get? config)
  else return .preview path (← given.get? typeName) (given.get? config)

/-- What the arguments behind the word `help` ask for: help on the program or on one command. -/
def helpOn : List String → Wish
  | [] => .help
  | [name] => if (optionsOf? name).isSome || name == "help" then .help else .misuse
  | _ => .misuse

/-- The command of a name, from the arguments behind the name. `outer` is the log level given in
front of it; one given behind it counts instead. -/
def parseCommand (name : String) (outer : Option String) (arguments : List String) : Wish :=
  match optionsOf? name with
  | none => if name = "help" then helpOn arguments else .misuse
  | some known =>
    match takeOptions (logLevel :: known) false [] arguments with
    | .error wish => wish
    | .ok (_, some _) => .misuse
    | .ok (given, none) =>
      match command? name given with
      | some command => .run ⟨given.get? logLevel <|> outer, command⟩
      | none => .misuse

def parse (arguments : List String) : Wish :=
  match takeOptions [logLevel] true [] arguments with
  | .error wish => wish
  | .ok (_, none) => .misuse
  | .ok (given, some (name, rest)) => parseCommand name (given.get? logLevel) rest

end CommandLine

end RecordBean
