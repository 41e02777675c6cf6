import RuleBench.Calendar.Duration
import RuleBench.Json.Form
import RuleBench.Json.Printer

set_option autoImplicit false

/-!
# Settings

How rules are evaluated, and how the thread is made that does it.  What a text leaves out has a
value of its own.
-/

namespace RuleBench

structure EvaluationSettings where
  /-- The first expression that is refused ends the round. -/
  strict : Bool
  /-- How long a reply may take. -/
  timeout : Calendar.Duration
  deriving DecidableEq

structure ThreadSettings where
  name : String
  /-- In bytes. -/
  stackSize : Nat
  deriving DecidableEq

structure Settings where
  evaluation : EvaluationSettings
  thread : ThreadSettings
  deriving DecidableEq

inductive SettingsError where
  /-- The file cannot be opened, as the system says. -/
  | unopened (message : String)
  /-- What is at the path can be opened but has no text, as the system says. -/
  | unread (message : String)
  | unreadable (f : Json.Fault)

def SettingsError.message : SettingsError → String
  | .unopened message => "Failed to open config file: " ++ message
  | .unread message => "Failed to parse config file: " ++ message
  | .unreadable f => "Failed to parse config file: " ++ f.message

namespace EvaluationSettings

def default : EvaluationSettings := ⟨false, ⟨10000⟩⟩

def toJson (s : EvaluationSettings) : Json :=
  .obj [("strict", .bool s.strict), ("reply_timeout", .ofNat s.timeout.milliseconds)]

open Json in
def form : Form EvaluationSettings :=
  Form.record "struct EvaluationConfig"
    (.field "strict" Form.flag (some default.strict) <|
      .field "reply_timeout" (Form.unsigned "u64") (some default.timeout.milliseconds) .done)
    fun (strict, milliseconds, _) => ⟨strict, ⟨milliseconds⟩⟩

end EvaluationSettings

namespace ThreadSettings

/-- What is said of a thread that cannot be made, by what the system says. -/
def unmade (message : String) : String :=
  "Failed to spawn evaluation unit thread: " ++ message

def default : ThreadSettings := ⟨"ruleplay-evaluation-unit", 8 * 1024 * 1024⟩

def toJson (s : ThreadSettings) : Json :=
  .obj [("thread_name", .str s.name), ("stack_size", .ofNat s.stackSize)]

open Json in
def form : Form ThreadSettings :=
  Form.record "struct UnitConfig"
    (.field "thread_name" Form.text (some default.name) <|
      .field "stack_size" (Form.unsigned "usize") (some default.stackSize) .done)
    fun (name, stackSize, _) => ⟨name, stackSize⟩

end ThreadSettings

namespace Settings

def default : Settings := ⟨.default, .default⟩

def toJson (s : Settings) : Json :=
  .obj [("evaluation", s.evaluation.toJson), ("unit", s.thread.toJson)]

open Json in
def form : Form Settings :=
  Form.record "struct RuleplayConfig"
    (.field "evaluation" EvaluationSettings.form (some .default) <|
      .field "unit" ThreadSettings.form (some .default) .done)
    fun (evaluation, thread, _) => ⟨evaluation, thread⟩

def ofText (text : String) : Except SettingsError Settings := (form.read text).mapError .unreadable

/-- The settings in a file, or the usual ones where there is no file. -/
def ofFile : Option String → Except SettingsError Settings
  | some text => (form.readDrawn text).mapError .unreadable
  | none => .ok default

end Settings

end RuleBench
