import RuleBench.Command.Arguments

set_option autoImplicit false

/-!
# Benches

A folder in which lines are carried out one after another, each of them on what the ones before it
have left.
-/

namespace RuleBench

/-- What people see of a line. -/
structure Answer where
  exit : Nat
  output : String
  /-- What has gone wrong. -/
  error : Option String
  deriving DecidableEq

namespace Answer

def ofHalt : Halt → Answer
  | .asked => ⟨0, "", none⟩
  | .refused => ⟨2, "", none⟩

def ofError (e : Error) : Answer := ⟨1, "", some e.message⟩

def ofEffect (e : Effect) : Answer := ⟨if e.passed then 0 else 1, e.output, none⟩

end Answer

structure Bench where
  folder : Folder
  /-- How many ids of the source are used up. -/
  minted : Nat

namespace Bench

def surroundings (b : Bench) (fresh : Nat → String) (now : Calendar.Instant)
    (host : Host := Host.prompt) : Surroundings :=
  ⟨b.folder.find, fun n => fresh (b.minted + n), now, host⟩

/-- Writes the file of an effect; if that fails, there is an error and no effect. -/
def settle (b : Bench) (e : Effect) : Answer × Bench :=
  match e.write with
  | none => (.ofEffect e, { b with minted := b.minted + e.minted })
  | some (path, content) =>
    match b.folder.put path content with
    | .ok folder => (.ofEffect e, ⟨folder, b.minted + e.minted⟩)
    | .error message => (.ofError (.file message), b)

def run (b : Bench) (fresh : Nat → String) (now : Calendar.Instant) (arguments : List String)
    (host : Host := Host.prompt) : Answer × Bench :=
  match Line.ofArguments arguments with
  | .error h => (.ofHalt h, b)
  | .ok l =>
    match l.run (b.surroundings fresh now host) with
    | .error e => (.ofError e, b)
    | .ok e => b.settle e

end Bench

end RuleBench
