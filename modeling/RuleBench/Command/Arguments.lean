import RuleBench.Command

set_option autoImplicit false

/-!
# Arguments

Reads a line from its arguments.  A line has segments: what stands before the name of a command, and
what stands after it.  On each segment an option may be given once, with its value in the same
argument or in the next one.  What is not an option goes in the next place of the segment, and so
does all that stands after a lone `--`.
-/

namespace RuleBench

/-- Why a line is not carried out. -/
inductive Halt where
  /-- It asks for help, or for the version. -/
  | asked
  | refused
  deriving DecidableEq

inductive Switch.Kind where
  /-- Ends the reading at once. -/
  | question
  | flag
  | value (accepts : String → Bool)

/-- An option. -/
structure Switch where
  name : String
  letter : Option Char
  kind : Switch.Kind

/-- What has been read of a segment. -/
structure Given where
  /-- The options given, with their values; a flag has an empty one. -/
  values : List (String × String)
  words : List String
  /-- The option whose value is the next argument, and what it accepts. -/
  waiting : Option (Switch × (String → Bool))

namespace Given

def nothing : Given := ⟨[], [], none⟩

def value? (g : Given) (name : String) : Option String :=
  (g.values.find? (·.1 = name)).map (·.2)

def has (g : Given) (name : String) : Bool := (g.value? name).isSome

def put (g : Given) (s : Switch) (v : String) : Except Halt Given :=
  if g.has s.name then .error .refused
  else .ok { g with values := g.values ++ [(s.name, v)], waiting := none }

def putAccepted (g : Given) (s : Switch) (accepts : String → Bool) (v : String) :
    Except Halt Given :=
  if accepts v then g.put s v else .error .refused

end Given

/-- A segment without places ends with the name of a command. -/
structure Segment where
  switches : List Switch
  /-- What is accepted in each place. -/
  places : List (String → Bool)

namespace Segment

/-- Puts a word in the next place. -/
def word (p : Segment) (g : Given) (w : String) : Except Halt Given :=
  match p.places[g.words.length]? with
  | some accepts =>
    if accepts w then .ok { g with words := g.words ++ [w] } else .error .refused
  | none => .error .refused

/-- Reads an option by its name, which ends where an equals sign stands. -/
def named (p : Segment) (g : Given) (cs : List Char) : Except Halt Given :=
  let name := String.ofList (cs.takeWhile (· != '='))
  match p.switches.find? (·.name = name) with
  | none => .error .refused
  | some s =>
    match s.kind, cs.dropWhile (· != '=') with
    | .question, [] => .error .asked
    | .flag, [] => g.put s ""
    | .value accepts, [] => .ok { g with waiting := some (s, accepts) }
    | .value accepts, _ :: v => g.putAccepted s accepts (String.ofList v)
    | _, _ => .error .refused

/-- Reads options by their letters; the first with a value takes all that follows. -/
def lettered (p : Segment) (g : Given) : List Char → Except Halt Given
  | [] => .ok g
  | c :: cs =>
    match p.switches.find? (·.letter = some c) with
    | none => .error .refused
    | some s =>
      match s.kind, cs with
      | .question, _ => .error .asked
      | .flag, cs => do lettered p (← g.put s "") cs
      | .value accepts, [] => .ok { g with waiting := some (s, accepts) }
      | .value accepts, '=' :: v => g.putAccepted s accepts (String.ofList v)
      | .value accepts, v => g.putAccepted s accepts (String.ofList v)

/-- A lone `-` is a word. -/
def isWord : List Char → Bool
  | '-' :: _ :: _ => false
  | _ => true

/-- Reads a segment; what remains starts with the name of a command. -/
def read (p : Segment) (g : Given) : List String → Except Halt (Given × List String)
  | [] => if g.waiting.isSome then .error .refused else .ok (g, [])
  | w :: rest =>
    match g.waiting, w.toList with
    | some (s, accepts), cs => do
      if isWord cs then read p (← g.putAccepted s accepts w) rest else throw .refused
    | none, ['-', '-'] => do return (← rest.foldlM p.word g, [])
    | none, '-' :: '-' :: cs => do read p (← p.named g cs) rest
    | none, '-' :: c :: cs => do read p (← p.lettered g (c :: cs)) rest
    | none, _ => do
      if p.places.isEmpty then return (g, w :: rest) else read p (← p.word g w) rest

end Segment

/-- A command by its name. -/
structure Verb where
  name : String
  segment : Segment
  make : Given → Option Command

/-! ## The commands -/

namespace Line

def isPath (w : String) : Bool := w != ""

def isAny (_ : String) : Bool := true

def isAction (w : String) : Bool := (Action.ofName? w).isSome

def isDirection (w : String) : Bool := (Direction.ofName? w).isSome

/-- The options of every segment. -/
def shared : List Switch :=
  [⟨"config", some 'c', .value isPath⟩, ⟨"verbose", some 'v', .flag⟩,
    ⟨"help", some 'h', .question⟩]

def flag (name : String) : Switch := ⟨name, none, .flag⟩

def value (name : String) (accepts : String → Bool) : Switch := ⟨name, none, .value accepts⟩

def before : Segment := ⟨⟨"version", some 'V', .question⟩ :: shared, []⟩

def between : Segment := ⟨shared, []⟩

def after (switches : List Switch) (places : List (String → Bool)) : Segment :=
  ⟨switches ++ shared, places⟩

def ruleSwitches : List Switch :=
  [value "field" isAny, value "action" isAction, value "expression" isAny, value "message" isAny]

def action? (g : Given) : Option Action := (g.value? "action").bind Action.ofName?

def ruleVerbs : List Verb :=
  [{ name := "list"
     segment := after [] [isPath]
     make := fun g => do
      let [file] := g.words | none
      return .listRules file },
   { name := "add"
     segment := after ruleSwitches [isPath]
     make := fun g => do
      let [file] := g.words | none
      return .addRule file
        ⟨← g.value? "field", ← action? g, ← g.value? "expression", (g.value? "message").getD ""⟩ },
   { name := "edit"
     segment := after ruleSwitches [isPath, isAny]
     make := fun g => do
      let [file, id] := g.words | none
      return .editRule file id
        ⟨g.value? "field", action? g, g.value? "expression", g.value? "message"⟩ },
   { name := "move"
     segment := after [] [isPath, isAny, isDirection]
     make := fun g => do
      let [file, id, direction] := g.words | none
      return .moveRule file id (← Direction.ofName? direction) },
   { name := "remove"
     segment := after [] [isPath, isAny]
     make := fun g => do
      let [file, id] := g.words | none
      return .removeRule file id }]

def verbs : List Verb :=
  [{ name := "init"
     segment := after [flag "example", flag "force"] [isPath]
     make := fun g =>
      some (.init (g.words.headD "playground.json") (g.has "example") (g.has "force")) },
   { name := "check"
     segment := after [flag "json"] [isPath]
     make := fun g => do
      let [file] := g.words | none
      return .check file (g.has "json") },
   { name := "export"
     segment := after [] [isPath]
     make := fun g => do
      let [file] := g.words | none
      return .share file },
   { name := "import"
     segment := after [flag "force"] [isPath, isPath]
     make := fun g => do
      let [shared, file] := g.words | none
      return .receive shared file (g.has "force") }]

def ruleTopics : List String := "help" :: ruleVerbs.map (·.name)

def topics : List String := "help" :: "rule" :: verbs.map (·.name)

/-- One may ask for help on what there is. -/
def help (topics : List String) : List String → Halt
  | [] => .asked
  | [topic] => if topic ∈ topics then .asked else .refused
  | ["rule", topic] => if "rule" ∈ topics ∧ topic ∈ ruleTopics then .asked else .refused
  | _ => .refused

/-- Reads what stands after the segments given; the path of the settings nearest to the end counts.
-/
def finish (verbs : List Verb) (segments : List Given) (name : String) (rest : List String) :
    Except Halt Line :=
  match verbs.find? (·.name = name) with
  | none => .error .refused
  | some verb => do
    let (g, _) ← verb.segment.read .nothing rest
    let path := ((g :: segments).findSome? (·.value? "config")).getD "ruleplay.json"
    match verb.make g with
    | some command => return ⟨path, command⟩
    | none => throw .refused

def ofArguments (arguments : List String) : Except Halt Line := do
  match ← before.read .nothing arguments with
  | (_, []) => throw .refused
  | (_, "help" :: rest) => throw (help topics rest)
  | (g, "rule" :: rest) =>
    match ← between.read .nothing rest with
    | (_, []) => throw .refused
    | (_, "help" :: rest) => throw (help ruleTopics rest)
    | (h, name :: rest) => finish ruleVerbs [h, g] name rest
  | (g, name :: rest) => finish verbs [g] name rest

end Line

end RuleBench
