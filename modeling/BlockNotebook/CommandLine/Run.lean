import BlockNotebook.Code.Name
import BlockNotebook.CommandLine.Command
import BlockNotebook.CommandLine.FileName
import BlockNotebook.CommandLine.Sections
import BlockNotebook.CommandLine.Session
import BlockNotebook.Document.Basic
import BlockNotebook.Text.Lines
/-!
The commands carried out.
-/

namespace BlockNotebook.CommandLine

open Console.Markup (escape)
open Job

/-! ## Messages -/

namespace Message

def invalidSettings (report : Text) : Text := "[red]Invalid dnb.yml:[/red] " ++ escape report

def settingsNotYaml (report : Text) : Text := "[red]Invalid YAML in dnb.yml:[/red] " ++ escape report

def noFile (file : Text) : Text := "[red]File not found: " ++ escape file ++ "[/red]"

def fileNotYaml (file : Text) : Text := "[red]Invalid YAML in " ++ escape file ++ ":[/red]"

def notDocument (report : Text) : Text := "[red]" ++ escape report ++ "[/red]"

def warning (text : String) : Text := "[yellow]Warning:[/yellow] " ++ escape text

def valid (file : Text) (notebooks blocks : Nat) : Text :=
  "[green]OK[/green] " ++ escape file ++ s!": {notebooks} notebook(s), {blocks} block(s)"

def unknownFormat (name : Text) : Text :=
  "[red]Unknown format: " ++ escape name ++ "[/red] (expected python or markdown)"

def noNotebook (name file : Text) : Text :=
  "[red]Notebook '" ++ escape name ++ "' not found in " ++ escape file ++ "[/red]"

def notCompiled (name report : Text) : Text :=
  "[red]Failed to compile notebook '" ++ escape name ++ "':[/red] " ++ escape report

end Message

/-! ## Loading -/

/-- The settings of the place. -/
def loadSettings (place : Place) : Job Settings :=
  match Settings.ofFile? place.environment place.settings? with
  | .ok s => pure s
  | .error (.issues is) => refuse (Message.invalidSettings (Settings.issuesText is))
  | .error (.yaml (.scalar f)) => finish (.broken (.scalar f))
  | .error (.yaml f) => refuse (Message.settingsNotYaml (f.message (place.settings?.getD [])))
  | .error (.number f) => finish (.broken (.number f))

/-- The document in a file. -/
def loadDocument (place : Place) (file : Text) : Job Document :=
  match place.file file with
  | .nothing => refuse (Message.noFile file)
  | .tooLong => finish (.broken (.nameTooLong file))
  | .text t =>
    match Document.ofText t with
    | .ok d => pure d
    | .error (.yaml (.scalar f)) => finish (.broken (.scalar f))
    | .error (.yaml f) => do
      say (Message.fileNotYaml file)
      refuse (escape (f.message t))
    | .error (.findings fs) => do
      log [Document.refused fs]
      refuse (Message.notDocument (Finding.report fs))

/-! ## Commands -/

/-- To check a document. -/
def validate (place : Place) (file : Text) : Job Unit := do
  let d ← loadDocument place file
  sayAll (d.problems.map Message.warning)
  say (Message.valid file d.notebooks.length (d.notebooks.foldl (fun n b => n + b.blocks.length) 0))

/-- The first text that is not empty, of one that may be left out and one that is not. -/
def orElse (given : Option Text) (other : Text) : Text :=
  match given with
  | none => other
  | some t => if t.isEmpty then other else t

/-- The notebooks to compile: all, or those with a name or an id. -/
def choose (notebook : Option Text) (ns : List Notebook) : List Notebook :=
  match notebook with
  | none => ns
  | some t => ns.filter fun n => n.name == t || n.id == t

def policyOf (options : CompileOptions) (settings : Settings) : OnError :=
  if options.skipErrors || settings.onError == "skip" then .skip else .fail

/-- The buttons that are pressed: those that are given, or else those of the settings. -/
def contextOf (options : CompileOptions) (settings : Settings) : Code.Context :=
  if options.pressed.isEmpty then settings.pressed else options.pressed

/-- To compile notebooks and print them as one text. -/
def printCompiled (context : Code.Context) (policy : OnError) (format : Format) (ns : List Notebook) :
    Job Unit := do
  let (logs, result) := compileEach (some context) policy ns
  log logs
  match result with
  | .ok done => echo (sections format done)
  | .error ⟨n, .block id f⟩ => refuse (Message.notCompiled n.name (f.message id))
  | .error ⟨_, f⟩ => finish (.broken (.compile f))

/-- To compile the notebooks of a document. -/
def compile (place : Place) (file : Text) (options : CompileOptions) : Job Unit := do
  let settings ← loadSettings place
  let formatName := orElse options.format settings.format
  match Format.ofName? formatName with
  | none => refuse (Message.unknownFormat formatName)
  | some format =>
    let d ← loadDocument place file
    let chosen := choose options.notebook d.notebooks
    match options.notebook, chosen with
    | some name, [] => refuse (Message.noNotebook name file)
    | _, _ => printCompiled (contextOf options settings) (policyOf options settings) format chosen

/-- To tell the variable name that an author's name becomes. -/
def checkName (name : Text) : Job Unit := do
  let report := Code.checkName name
  echo (report.name ++ "\n")
  sayAll (report.warnings.map Message.warning)
  if report.isValid then pure () else finish .failed

def runCommand (place : Place) : Command → Job Unit
  | .validate file => validate place (fileName file)
  | .compile file options => compile place (fileName file) options
  | .checkName name => checkName name

/-- To set up the logger, and then read and run the command of a line. -/
def runLine (place : Place) (line : Line) : Job Unit := do
  let settings ← loadSettings place
  setLevel (orElse line.logLevel settings.logLevel)
  match line.verb.read line.arguments with
  | .error (.misused m) => finish (.misused m)
  | .error (.unnamed f) => finish (.broken (.unnamed f))
  | .ok .help => finish .helped
  | .ok (.act c) => runCommand place c

/-- The program on its arguments. -/
def program (place : Place) (arguments : List Text) : Job Unit :=
  match Line.read arguments with
  | .error m => finish (.misused m)
  | .ok .help => finish .helped
  | .ok (.act line) => runLine place line

/-- Texts are read with line feeds for line ends of every platform. -/
def Place.normalized (place : Place) : Place :=
  { place with
    settings? := place.settings?.map Text.normalizeNewlines
    file := fun name =>
      match place.file name with
      | .text t => .text (Text.normalizeNewlines t)
      | other => other }

/-- What the program leaves, and how it ends if not by finishing its work. -/
def run (place : Place) (arguments : List Text) : Session × Option Ending :=
  outcome (program place.normalized arguments)

/-- The code that the program exits with. -/
def exitCode : Option Ending → Nat
  | none => 0
  | some e => e.exitCode

end BlockNotebook.CommandLine
