import RuleBench.Call.Correlator
import RuleBench.Settings

set_option autoImplicit false

/-!
# Errors

All that can go wrong, as people are told about it.  Those who read an expression, make a thread or
write a text by themselves meet more of it than a command does.
-/

namespace RuleBench

inductive Error where
  | call (e : CallError)
  /-- The thread of the evaluation unit cannot be made. -/
  | thread (message : String)
  | expression (message : String)
  | snapshot (e : SnapshotError)
  | settings (e : SettingsError)
  | file (message : String)
  | json (f : Json.Fault)
  | timeout (d : Calendar.Duration)
  | internal (message : String)

def Error.message : Error → String
  | .call e => "Correlator error: " ++ e.message
  | .thread message => "Evaluation unit error: " ++ ThreadSettings.unmade message
  | .expression message => "Expression error: " ++ message
  | .snapshot e => "Playground error: " ++ e.message
  | .settings e => "Config error: " ++ e.message
  | .file message => "IO error: " ++ message
  | .json f => "JSON error: " ++ f.message
  | .timeout d => "No evaluation reply within " ++ d.text
  | .internal message => "Internal error: " ++ message

end RuleBench
