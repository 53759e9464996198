import RecordBean.CommandLine
import RecordBean.Generation
import RecordBean.Loading
import RecordBean.Log.Filter

/-! # Commands

The commands as functions of the file tree: what they print, how they end, and the tree they leave
behind.
-/

namespace RecordBean
open RecordBean.Text

/-- What a run of the program leaves behind. -/
structure Outcome where
  status : Nat
  output : String
  /-- The error stream: log lines, then failures. -/
  errors : String
  tree : FileTree

namespace Outcome

/-- An error with the errors that caused it, each more basic than the one before. -/
structure Trouble where
  headline : String
  causes : List String

/-- Indent all lines of a text but the first one. -/
def indentRest (indent : Nat) (text : String) : String :=
  joined ("\n" ++ String.ofList (List.replicate indent ' ')) (Path.split '\n' text)

/-- A number right-aligned in five columns. -/
def numberLabel (n : Nat) : String :=
  let digits := toString n
  String.ofList (List.replicate (5 - digits.length) ' ') ++ digits ++ ": "

def numberedCauses : Nat → List String → String
  | _, [] => ""
  | n, c :: rest => "\n" ++ numberLabel n ++ indentRest 7 c ++ numberedCauses (n + 1) rest

/-- The causes below a headline. A single one is not numbered. -/
def shownCauses : List String → String
  | [] => ""
  | [c] => "\n\nCaused by:\n    " ++ indentRest 4 c
  | causes => "\n\nCaused by:" ++ numberedCauses 0 causes

def Trouble.text (t : Trouble) : String := "Error: " ++ t.headline ++ shownCauses t.causes ++ "\n"

end Outcome

open Outcome (Trouble)

structure CommandResult where
  log : List Log.Line
  output : String
  /-- Lines for the error stream behind the log. -/
  remarks : List String
  trouble : Option Trouble
  tree : FileTree

namespace Command

/-- The configuration file that is used if there is one and no other is named. -/
def defaultConfig : String := "beanerator.toml"

def configPath? (t : FileTree) (config : Option String) : Option String :=
  config <|> (if t.isFile defaultConfig then some defaultConfig else none)

def loadSettings (t : FileTree) (config : Option String) : Except Trouble Settings :=
  match configPath? t config with
  | none => .ok .default
  | some path =>
    (Settings.ofFile t path).mapError fun e => ⟨"Failed to load config: " ++ path, e.causes⟩

def loadCatalog (t : FileTree) (path : String) : Except Trouble Catalog :=
  (Catalog.ofFile t path).mapError fun e => ⟨"Failed to load catalog: " ++ path, e.causes⟩

/-- The line with which the log begins. -/
def settingsLine (t : FileTree) (config : Option String) : Log.Line :=
  ⟨.debug, Log.programTarget, "loaded configuration",
    [("source", quoted ((configPath? t config).getD "built-in defaults"))]⟩

def beanLine (bean : String) : String := "  " ++ bean

/-- What generating comes to once its pass is over. -/
def generateResult (input : String) (settings : Settings) (catalog : Catalog)
    (pass : Report × Workplace FileTree) : CommandResult :=
  let (report, w) := pass
  let root := settings.outputDir
  let log := [
    ⟨.debug, Log.generateTarget, "loaded catalog",
      [("catalog", quoted input), ("types", toString catalog.size)]⟩,
    ⟨.info, Log.generateTarget, "generating beans",
      [("output", root), ("parallel", Log.shownBool settings.parallel)]⟩]
    ++ w.events.map Log.lineOf
  let output := unlines (
    ("Generated " ++ toString report.generated.length ++ " bean(s) into " ++ root)
      :: report.generated.map beanLine)
  let remarks := report.failed.map fun (name, e) =>
    "  failed: " ++ name ++ " (" ++ e.stage ++ " stage): " ++ e.message
  let trouble := if report.isSuccess then none else some ⟨toString report.failed.length ++ " of "
    ++ toString report.attempted ++ " type(s) failed to generate", []⟩
  ⟨log, output, remarks, trouble, w.state⟩

/-- Write a bean for every marked record of a catalog. -/
def runGenerate (t : FileTree) (input : String) (settings : Settings) : CommandResult :=
  match loadCatalog t input with
  | .error trouble => ⟨[], "", [], some trouble, t⟩
  | .ok catalog =>
    generateResult input settings catalog
      (Generation.run (FileTree.sink settings.outputDir) catalog settings (.start t))

/-- What a check comes to once its pass is over. The diagnostics of the pass are printed and not
logged. -/
def checkResult (t : FileTree) (input : String) (catalog : Catalog)
    (pass : Report × Workplace Store) : CommandResult :=
  let (report, w) := pass
  let log := (w.events.filter (·.diagnostic?.isNone)).map Log.lineOf
  let errors := Diagnostic.withSeverity .error (diagnosticsOf w.events)
  let output := unlines (
    ("Checking catalog: " ++ input) :: report.generated.map ("  ok: " ++ ·)
      ++ errors.map ("  error: " ++ ·.message))
  if report.isSuccess then
    let verdict := "Catalog is valid: " ++ toString catalog.size ++ " type(s), "
      ++ toString report.attempted ++ " marked\n"
    ⟨log, output ++ verdict, [], none, t⟩
  else
    ⟨log, output, [], some ⟨toString report.failed.length ++ " of " ++ toString report.attempted
      ++ " marked type(s) would fail", []⟩, t⟩

/-- Run a pass into memory and tell what would fail. -/
def runCheck (t : FileTree) (input : String) (settings : Settings) : CommandResult :=
  match loadCatalog t input with
  | .error trouble => ⟨[], "", [], some trouble, t⟩
  | .ok catalog =>
    checkResult t input catalog
      (Generation.run (Store.sink []) catalog settings (.start .empty))

/-- The source of the bean of one marked record. -/
def previewSource (catalog : Catalog) (settings : Settings) (name : String) :
    Except Trouble String :=
  match catalog.get? name with
  | none => .error ⟨"Type not found in catalog: " ++ name, []⟩
  | some h =>
    if h.isMarked then
      match extract catalog settings h with
      | .error e => .error ⟨"Failed to extract record: " ++ name, [e.message]⟩
      | .ok s =>
        (renderOwn s settings.header).mapError fun e =>
          ⟨"Failed to render bean for: " ++ name, [e.message]⟩
    else .error ⟨"Type is not marked with `beanerate`: " ++ name, []⟩

def runPreview (t : FileTree) (input name : String) (settings : Settings) : CommandResult :=
  match loadCatalog t input with
  | .error trouble => ⟨[], "", [], some trouble, t⟩
  | .ok catalog =>
    match previewSource catalog settings name with
    | .error trouble => ⟨[], "", [], some trouble, t⟩
    | .ok source => ⟨[], source, [], none, t⟩

def config? : Command → Option String
  | .generate _ _ config _ => config
  | .check _ config => config
  | .preview _ _ config => config

/-- The settings with what the options of a command say instead. -/
def adjust (c : Command) (s : Settings) : Settings :=
  match c with
  | .generate _ output _ parallel =>
    { s with outputDir := output.getD s.outputDir, parallel := s.parallel || parallel }
  | _ => s

/-- Run a command with its settings. -/
def perform (c : Command) (t : FileTree) (settings : Settings) : CommandResult :=
  match c with
  | .generate input .. => runGenerate t input settings
  | .check input _ => runCheck t input settings
  | .preview input name _ => runPreview t input name settings

end Command

namespace Invocation

/-- What the result of a command comes to. The filter of the environment wins over the one of the
command line, and that one over the configured one. -/
def conclude (i : Invocation) (environment : Option String) (t : FileTree) (settings : Settings)
    (result : CommandResult) : Outcome :=
  let filter := Log.chooseFilter environment (i.logLevel.getD settings.logLevel)
  let log := Log.shown filter (Command.settingsLine t i.command.config? :: result.log)
  let errors := log ++ unlines result.remarks
  match result.trouble with
  | some trouble => ⟨1, result.output, errors ++ trouble.text, result.tree⟩
  | none => ⟨0, result.output, errors, result.tree⟩

/-- Run a command. The log is set up once the settings are loaded. -/
def run (i : Invocation) (environment : Option String) (t : FileTree) : Outcome :=
  match Command.loadSettings t i.command.config? with
  | .error trouble => ⟨1, "", trouble.text, t⟩
  | .ok loaded =>
    let settings := i.command.adjust loaded
    i.conclude environment t settings (i.command.perform t settings)

end Invocation

namespace Program

def versionText : String := "beanerator 0.3.0\n"

def helpText : String := unlines [
  "Generates mutable Java beans for records",
  "",
  "Usage: beanerator [OPTIONS] <COMMAND>",
  "",
  "Commands:",
  "  generate  Generate beans for every marked record",
  "  check     Extract and render every marked record without writing files",
  "  preview   Print the bean generated for one record",
  "",
  "Options:",
  "      --log-level <LOG_LEVEL>  Log filter (overrides the config file)",
  "  -h, --help                   Print help",
  "  -V, --version                Print version"]

def run (arguments : List String) (environment : Option String) (t : FileTree) : Outcome :=
  match CommandLine.parse arguments with
  | .run i => i.run environment t
  | .version => ⟨0, versionText, "", t⟩
  | .help => ⟨0, helpText, "", t⟩
  | .misuse => ⟨2, "", "error: " ++ "the arguments are not understood\n\n" ++ helpText, t⟩

end Program

end RecordBean
