import RuleBench.Call.Host
import RuleBench.Error
import RuleBench.Folder
import RuleBench.Report

set_option autoImplicit false

/-!
# Commands

What people do to a snapshot in a file.  A command looks at files and comes to an effect; the effect
says which file is written, if any, and nothing is written where there is an error instead.
-/

namespace RuleBench

/-- What takes the place of parts of a rule. -/
structure RuleEdit where
  field : Option String
  action : Option Action
  expression : Option String
  message : Option String

def RuleEdit.apply (e : RuleEdit) (r : Rule) : Rule where
  field := e.field.getD r.field
  action := e.action.getD r.action
  expression := e.expression.getD r.expression
  message := e.message.getD r.message

inductive Command where
  /-- Makes a file, with a listing or nearly empty. -/
  | init (file : String) (listing force : Bool)
  | check (file : String) (asJson : Bool)
  | listRules (file : String)
  | addRule (file : String) (r : Rule)
  | editRule (file id : String) (e : RuleEdit)
  | moveRule (file id : String) (d : Direction)
  | removeRule (file id : String)
  /-- Shows the form for sharing. -/
  | share (file : String)
  /-- Makes a file out of one in the form for sharing. -/
  | receive (shared file : String) (force : Bool)

/-- What a command has to go by. -/
structure Surroundings where
  find : String → Entry
  /-- A source of ids that no rule has. -/
  fresh : Nat → String
  now : Calendar.Instant
  host : Host

namespace Surroundings

def load (w : Surroundings) (file : String) : Except Error Snapshot := do
  let text ← (w.find file).read.mapError .file
  (Snapshot.ofText text).mapError .snapshot

/-- The settings at a path; where there is nothing, the usual ones. -/
def settings (w : Surroundings) (path : String) : Except Error Settings :=
  Except.mapError .settings <|
    match w.find path with
    | .text content => Settings.ofFile (some content)
    | .folder => .error (.unread Entry.isFolder)
    | .absent _ => Settings.ofFile none
    | .closed message => .error (.unopened message)

/-- The state that comes of a snapshot, as long as one does and is not late. -/
def evaluate (w : Surroundings) (settings : Settings) (s : Snapshot) :
    Except Error EvaluationState :=
  let u : EvaluationUnit Expr := ⟨Engine.basic, settings.evaluation.strict⟩
  match (w.host settings.thread settings.evaluation.timeout).evaluate u s w.now with
  | some ended => ended.mapError .call
  | none => .error (.timeout settings.evaluation.timeout)

end Surroundings

/-- What a command comes to. -/
structure Effect where
  /-- The path of the file that is written, and its text. -/
  write : Option (String × String)
  output : String
  /-- All is as it should be. -/
  passed : Bool
  /-- How many ids of the source are used up. -/
  minted : Nat

namespace Effect

def say (output : String) : Effect := ⟨none, output, true, 0⟩

def save (file : String) (s : Snapshot) (output : String) (minted : Nat) : Effect :=
  ⟨some (file, s.toText), output, true, minted⟩

end Effect

namespace Command

/-- A text with blanks after it, up to a width. -/
def column (width : Nat) (text : String) : String :=
  text ++ String.ofList (List.replicate (width - text.length) ' ')

/-- Line ends become blanks. -/
def oneLine (text : String) : String :=
  String.ofList (text.toList.map fun c => if c = '\n' then ' ' else c)

def ruleLine (r : ListedRule) : String :=
  r.id ++ "  " ++ column 12 r.action.name ++ "  " ++ column 20 r.field ++ "  " ++
    oneLine r.expression ++ "\n"

/-- Makes a file of a snapshot whose ids are fresh; one that is there is replaced only by force. -/
def create (w : Surroundings) (file : String) (s : Snapshot) (force : Bool) (output : String) :
    Except Error Effect :=
  if (w.find file).isThere && !force then
    .error (.internal (file ++ " already exists (use --force to overwrite)"))
  else .ok (.save file s output s.rules.length)

def run (w : Surroundings) (settings : Settings) : Command → Except Error Effect
  | .init file listing force =>
    let s := if listing then .ofShared w.fresh Snapshot.listing else .initial
    create w file s force ("Wrote " ++ file ++ "\n")
  | .check file asJson => do
    let s ← w.load file
    let r := Report.ofState s (← w.evaluate settings s)
    let output := if asJson then r.toJson.pretty ++ "\n" else r.text
    return { Effect.say output with passed := r.passed }
  | .listRules file => do
    let s ← w.load file
    return .say (String.join (s.rules.map ruleLine))
  | .addRule file r => do
    let s ← w.load file
    let id := w.fresh 0
    return .save file (s.addRule id r) (id ++ "\n") 1
  | .editRule file id e => do
    let s ← w.load file
    match s.rule? id with
    | none => throw (.snapshot (.ruleNotFound id))
    | some r =>
      let s ← (s.setRule id (e.apply r.toRule)).mapError .snapshot
      return .save file s "" 0
  | .moveRule file id d => do
    let s ← w.load file
    let (s, moved) ← (s.moveRule id d).mapError .snapshot
    if moved then return .save file s "" 0
    else return .say ("Rule " ++ id ++ " is already at the " ++ d.name ++ " end\n")
  | .removeRule file id => do
    let s ← w.load file
    let (s, _) ← (s.removeRule id).mapError .snapshot
    return .save file s "" 0
  | .share file => do
    let s ← w.load file
    return .say (s.toSharedText ++ "\n")
  | .receive shared file force => do
    let text ← (w.find shared).read.mapError .file
    let s ← (Snapshot.ofSharedText w.fresh text).mapError .snapshot
    create w file s force s!"Imported {s.rules.length} rule(s) into {file}\n"

/-- The paths that a command looks at. -/
def paths : Command → List String
  | .init file .. | .check file _ | .listRules file | .addRule file _ | .editRule file ..
  | .moveRule file .. | .removeRule file _ | .share file => [file]
  | .receive shared file _ => [shared, file]

end Command

/-- A command with the path of the settings that it is carried out under. -/
structure Line where
  settings : String
  command : Command

namespace Line

def run (w : Surroundings) (l : Line) : Except Error Effect := do
  l.command.run w (← w.settings l.settings)

def paths (l : Line) : List String := l.settings :: l.command.paths

end Line

end RuleBench
