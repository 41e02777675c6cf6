import RuleBench.Command.Bench
import RuleBench.Text.Uuid
import Std.Time.Zoned

set_option autoImplicit false

/-!
# The program

Carries out the line it is called with.
-/

namespace RuleBench

def usage : String :=
  "Usage: rulebench [-c FILE] [-v] COMMAND\n" ++
  "\n" ++
  "  init [FILE] [--example] [--force]\n" ++
  "  check FILE [--json]\n" ++
  "  rule list FILE\n" ++
  "  rule add FILE --field NAME --action ACTION --expression TEXT [--message TEXT]\n" ++
  "  rule edit FILE ID [--field NAME] [--action ACTION] [--expression TEXT] [--message TEXT]\n" ++
  "  rule move FILE ID up|down\n" ++
  "  rule remove FILE ID\n" ++
  "  export FILE\n" ++
  "  import SHARED FILE [--force]\n"

/-- What the system finds at a path that it cannot read. -/
def entryOfError : IO.Error → Entry
  | .noFileOrDirectory .. => .absent Entry.noSuchFile
  | .inappropriateType _ 21 _ => .folder
  | .inappropriateType .. => .absent Entry.notFolder
  | .permissionDenied .. => .closed "Permission denied (os error 13)"
  | e => .closed (toString e)

def look (path : String) : IO Entry := do
  try
    match String.fromUTF8? (← IO.FS.readBinFile path) with
    | some content => return .text content
    | none => return .closed "stream did not contain valid UTF-8"
  catch e => return entryOfError e

/-- The time on the clock of this place. -/
def wallClock : IO Calendar.Instant := do
  let t ← Std.Time.Timestamp.now
  let rules ←
    try Std.Time.Database.defaultGetLocalZoneRules
    catch _ => pure Std.Time.TimeZone.ZoneRules.UTC
  let offset := (rules.findLocalTimeTypeForTimestamp t).getTimeZone.offset
  let wall := Std.Time.PlainDateTime.ofWallTime (Std.Time.WallTime.ofTimestamp t offset)
  let (date, time) := (wall.date, wall.time)
  match Calendar.Date.of? date.year date.month.val.toNat date.day.val.toNat with
  | some date =>
    return ⟨date, time.toSeconds.val.toNat, time.nanosecond.val.toNat, offset.second.val⟩
  | none => throw (IO.userError "the clock shows no date")

/-- Ids one after another, from a random one on. -/
def freshIds : IO (Nat → String) := do
  let bytes ← IO.getRandomBytes 16
  let start := bytes.toList.foldl (fun n b => 256 * n + b.toNat) 0
  return fun n => Text.uuid (start + n)

def Line.carryOut (l : Line) : IO Answer := do
  let entries ← l.paths.mapM fun path => return (path, ← look path)
  let find path := (entries.lookup path).getD (.absent Entry.noSuchFile)
  match l.run ⟨find, ← freshIds, ← wallClock, Host.prompt⟩ with
  | .error e => return .ofError e
  | .ok effect =>
    match effect.write with
    | none => return .ofEffect effect
    | some (path, content) =>
      try
        IO.FS.writeFile path content
        return .ofEffect effect
      catch e =>
        match (entryOfError e).read with
        | .error message => return .ofError (.file message)
        | .ok _ => return .ofEffect effect

end RuleBench

def main (arguments : List String) : IO UInt32 := do
  match RuleBench.Line.ofArguments arguments with
  | .error halt =>
    match halt with
    | .asked => IO.print RuleBench.usage
    | .refused => IO.eprint RuleBench.usage
    return (RuleBench.Answer.ofHalt halt).exit.toUInt32
  | .ok line =>
    let answer ← line.carryOut
    IO.print answer.output
    if let some message := answer.error then IO.eprintln ("Error: " ++ message)
    return answer.exit.toUInt32
