import RuleBench.Json.Printer
import RuleBench.Rule

set_option autoImplicit false

/-!
# Snapshots

The record, the record as it was before, and the rules: everything that a round of evaluation starts
from.  A snapshot is written in full, with the ids of its rules, or in the form for sharing, without
them.
-/

namespace RuleBench

structure Snapshot where
  /-- The text of the record; it need not be JSON. -/
  data : String
  previousData : String
  rules : List ListedRule
  deriving DecidableEq

/-- A snapshot without ids. -/
structure SharedSnapshot where
  data : String
  previousData : String
  rules : List Rule
  deriving DecidableEq

inductive Direction where
  | up
  | down
  deriving DecidableEq

namespace Direction

def name : Direction → String
  | .up => "up"
  | .down => "down"

def names : List (String × Direction) := [(up.name, .up), (down.name, .down)]

def ofName? (text : String) : Option Direction := findName? names text

end Direction

inductive SnapshotError where
  | ruleNotFound (id : String)
  | invalid (f : Json.Fault)

def SnapshotError.message : SnapshotError → String
  | .ruleNotFound id => "Rule not found: " ++ id
  | .invalid f => "Input is not valid playground state: " ++ f.message

namespace SharedSnapshot

def toJson (s : SharedSnapshot) : Json :=
  .obj [("data", .str s.data), ("previousData", .str s.previousData),
    ("rules", .arr (s.rules.map Rule.toJson))]

open Json in
def form : Form SharedSnapshot :=
  Form.record "struct SharedPlaygroundState"
    (.field "data" Form.text none <|
      .field "previousData" Form.text none <|
      .field "rules" (Form.list Rule.form) none .done)
    fun (data, previousData, rules, _) => ⟨data, previousData, rules⟩

end SharedSnapshot

namespace Snapshot

def toJson (s : Snapshot) : Json :=
  .obj [("data", .str s.data), ("previousData", .str s.previousData),
    ("rules", .arr (s.rules.map ListedRule.toJson))]

open Json in
def form : Form Snapshot :=
  Form.record "struct PlaygroundState"
    (.field "data" Form.text none <|
      .field "previousData" Form.text none <|
      .field "rules" (Form.list ListedRule.form) none .done)
    fun (data, previousData, rules, _) => ⟨data, previousData, rules⟩

/-! ## Sharing -/

/-- Gives rules the ids of a source, from its `n`-th on. -/
def list (fresh : Nat → String) (n : Nat) : List Rule → List ListedRule
  | [] => []
  | r :: rest => .ofRule (fresh n) r :: list fresh (n + 1) rest

/-- A rule is given the id that the source has at its position. -/
def ofShared (fresh : Nat → String) (s : SharedSnapshot) : Snapshot :=
  ⟨s.data, s.previousData, list fresh 0 s.rules⟩

def toShared (s : Snapshot) : SharedSnapshot :=
  ⟨s.data, s.previousData, s.rules.map ListedRule.toRule⟩

theorem toShared_ofShared (fresh : Nat → String) (s : SharedSnapshot) :
    (ofShared fresh s).toShared = s := by
  have h (n : Nat) (rules : List Rule) : (list fresh n rules).map ListedRule.toRule = rules := by
    induction rules generalizing n with
    | nil => rfl
    | cons r rest ih => simp [list, ListedRule.ofRule, ih]
  simp [ofShared, toShared, h]

def ofText (text : String) : Except SnapshotError Snapshot :=
  (form.read text).mapError .invalid

def toText (s : Snapshot) : String := s.toJson.pretty

def ofSharedText (fresh : Nat → String) (text : String) : Except SnapshotError Snapshot :=
  (SharedSnapshot.form.read text).mapError .invalid |>.map (ofShared fresh)

def toSharedText (s : Snapshot) : String := s.toShared.toJson.pretty

/-! ## Editing -/

def setData (s : Snapshot) (data : String) : Snapshot := { s with data }

def setPreviousData (s : Snapshot) (previousData : String) : Snapshot := { s with previousData }

def ids (s : Snapshot) : List String := s.rules.map (·.id)

def rule? (s : Snapshot) (id : String) : Option ListedRule := s.rules.find? (·.id = id)

/-- Puts a rule at the end, under an id not used before. -/
def addRule (s : Snapshot) (id : String) (r : Rule) : Snapshot :=
  { s with rules := s.rules ++ [.ofRule id r] }

/-- The index of the first rule of an id. -/
def position (s : Snapshot) (id : String) : Except SnapshotError Nat :=
  match s.rules.findIdx? (·.id = id) with
  | some i => .ok i
  | none => .error (.ruleNotFound id)

/-- Replaces all of a rule but its id and position. -/
def setRule (s : Snapshot) (id : String) (r : Rule) : Except SnapshotError Snapshot := do
  let i ← s.position id
  return { s with rules := s.rules.set i (.ofRule id r) }

/-- Changes places with the next one. -/
def swapWithNext {α : Type} : Nat → List α → List α
  | 0, a :: b :: rest => b :: a :: rest
  | n + 1, a :: rest => a :: swapWithNext n rest
  | _, rest => rest

/-- Moves a rule one place; says whether there was a place to move to. -/
def moveRule (s : Snapshot) (id : String) (d : Direction) :
    Except SnapshotError (Snapshot × Bool) := do
  let i ← s.position id
  match d with
  | .up =>
    if i = 0 then return (s, false)
    else return ({ s with rules := swapWithNext (i - 1) s.rules }, true)
  | .down =>
    if i + 1 < s.rules.length then return ({ s with rules := swapWithNext i s.rules }, true)
    else return (s, false)

def removeRule (s : Snapshot) (id : String) : Except SnapshotError (Snapshot × ListedRule) := do
  match s.rule? id with
  | some r => return ({ s with rules := s.rules.eraseIdx (← s.position id) }, r)
  | none => throw (.ruleNotFound id)

/-! ## Snapshots to start from -/

/-- The name of the member that says what kind of record it is. -/
def context : String × Json := ("@reso.context", .str "urn:reso:metadata:2.0:resource:property")

/-- A record of one field, nothing before it, and no rules. -/
def initial : Snapshot where
  data := (Json.obj [context, ("MlsStatus", .str "Active")]).canonical.pretty
  previousData := "null"
  rules := []

/-- A record of a listing, with rules of most kinds. -/
def listing : SharedSnapshot where
  data := Json.pretty <| Json.canonical <| .obj
    [context,
      ("ListPrice", .ofNat 1000000),
      ("PublicRemarks", .str "This message does not contain a phone number"),
      ("MlsStatus", .str "Pending"),
      ("ParkingTotal", .ofNat 3),
      ("GarageSpaces", .ofNat 3),
      ("OpenParkingSpaces", .null),
      ("Cooling", .arr [.str "Electric", .str "Central Air"])]
  previousData := Json.pretty <| Json.canonical <| .obj
    [context,
      ("ListPrice", .ofNat 1200000),
      ("MlsStatus", .str "Active"),
      ("ParkingTotal", .ofNat 3),
      ("GarageSpaces", .ofNat 3),
      ("OpenParkingSpaces", .null)]
  rules :=
    [⟨"LastPrice", .accept, "ListPrice > 0", "List price must be greater than 0"⟩,
      ⟨"PublicRemarks", .reject,
        "MATCH(\n  PublicRemarks,\n  \"\\\\d\x7b3\x7d-\\\\d\x7b4\x7d\"\n)\n",
        "Public remarks must not contain a phone number"⟩,
      ⟨"ClosePrice", .setRequired, "MlsStatus = \"Closed\"",
        "A close price is required when closing a listing"⟩,
      ⟨"ParkingTotal", .accept,
        "IIF(ParkingTotal != .EMPTY., ParkingTotal, 0) = " ++
          "IIF(GarageSpaces != .EMPTY., GarageSpaces, 0) + " ++
          "IIF(OpenParkingSpaces != .EMPTY., OpenParkingSpaces, 0)",
        "Parking Total must be consistent with Garage Spaces and Open Parking Spaces"⟩,
      ⟨"Cooling", .accept, ".NOT. (Cooling .CONTAINS. \"None\") .OR. LENGTH(Cooling) = 1",
        "Cooling can not contain 'None' and other values"⟩,
      ⟨"PreviousListPrice", .set,
        "IIF(ListPrice != LAST ListPrice,\n  LAST ListPrice,\n  PreviousListPrice)\n",
        "Update the previous list price when a new price is set"⟩,
      ⟨"PendingTimestamp", .set,
        "IIF(MlsStatus = \"Pending\" .AND.\n      LAST MlsStatus != \"Pending\",\n" ++
          "  .NOW.,\n  PendingTimestamp)\n",
        "Set the Pending Timestamp when the listing transitions to pending"⟩]

end Snapshot

end RuleBench
