import RuleBench.Json.Scan

set_option autoImplicit false

/-!
# Reading JSON values

Lists and objects may nest 127 deep.  `Scan.value` keeps the members of an object as written;
`Scan.skipValue` passes over a value that nobody wants, checking no more than its form: it knows no
limit on nesting and on numbers.
-/

namespace RuleBench.Json

/-- Lists and objects that may still be open inside one another, and one more. -/
def depthLimit : Nat := 128

namespace Scan

variable {α : Type}

/-- Goes one level deeper, unless that is the last. -/
def deeper (depth : Nat) (inside : Nat → Scan α) : Scan α :=
  match depth with
  | 0 => failNext .tooDeep
  | 1 => failNext .tooDeep
  | d + 2 => inside (d + 1)

/-- Whether a list goes on, up to the front of the next item. -/
def listGoesOn (first : Bool) : Scan Bool := do
  match ← look with
  | none => failNext .endInList
  | some ']' => return false
  | some c =>
    if first then return true
    else if c == ',' then
      take
      match ← look with
      | some ']' => failNext .trailingComma
      | some _ => return true
      | none => failNext .endInValue
    else failNext .expectedCommaOrBracket

/-- What must stand at the front of a member: the quote of its name. -/
def memberFront : Scan Bool := do
  match ← look with
  | some '"' => return true
  | some '\x7d' => failNext .trailingComma
  | some _ => failNext .nameNotText
  | none => failNext .endInValue

/-- Whether an object goes on, up to the quote of the next name. -/
def objectGoesOn (first : Bool) : Scan Bool := do
  match ← look with
  | none => failNext .endInObject
  | some '\x7d' => return false
  | some c =>
    if first then
      if c == '"' then return true else failNext .nameNotText
    else if c == ',' then
      take
      memberFront
    else failNext .expectedCommaOrBrace

def endOfList : Scan Unit := do
  match ← look with
  | some ']' => take
  | some ',' =>
    take
    match ← look with
    | some ']' => failNext .trailingComma
    | _ => failNext .trailingText
  | some _ => failNext .trailingText
  | none => failNext .endInList

def endOfObject : Scan Unit := do
  match ← look with
  | some '\x7d' => take
  | some ',' => failNext .trailingComma
  | some _ => failNext .trailingText
  | none => failNext .endInObject

/-- Runs `body` and then looks for the end, also when `body` has failed; the fault of `body` wins.
-/
def closedBy (ending : Scan Unit) (body : Scan α) : Scan α := fun c =>
  match body c with
  | .ok a c =>
    match ending c with
    | .ok _ c => .ok a c
    | .error f c => .error f c
  | .error f c =>
    match ending c with
    | .ok _ c => .error f c
    | .error _ c => .error f c

/-- A list from its bracket to its end. -/
def listOf (depth : Nat) (inside : Nat → Scan α) : Scan α :=
  deeper depth fun d => do
    take
    closedBy endOfList (inside d)

/-- An object from its brace to its end. -/
def objectOf (depth : Nat) (inside : Nat → Scan α) : Scan α :=
  deeper depth fun d => do
    take
    closedBy endOfObject (inside d)

def colon : Scan Unit := do
  match ← look with
  | some ':' => take
  | some _ => failNext .expectedColon
  | none => failNext .endInObject

/-- The name of a member, from its quote on. -/
def memberName : Scan String := do
  take
  string

/-- The items of a list, read one by one.  Each takes at least one character, so the length of the
text bounds their number. -/
def items (item : Scan α) (first : Bool) : Nat → Scan (List α)
  | 0 => failNext .endInList
  | fuel + 1 => do
    if ← listGoesOn first then
      let a ← item
      return a :: (← items item false fuel)
    else return []

/-- The members of an object: `member` gets the name and reads on from behind it. -/
def members (member : String → α → Scan α) (first : Bool) (state : α) : Nat → Scan α
  | 0 => failNext .endInObject
  | fuel + 1 => do
    if ← objectGoesOn first then
      let name ← memberName
      members member false (← member name state) fuel
    else return state

/-- A bound on the items or members that can still come. -/
def fuel : Scan Nat := fun c => .ok (c.rest.length + 1) c

/-- Any value. -/
def value (depth : Nat) : Scan Json :=
  match depth with
  | 0 => failNext .tooDeep
  | d + 1 => placed do
    match ← look with
    | none => failNext .endInValue
    | some 'n' => take; word ['u', 'l', 'l']; return .null
    | some 't' => take; word ['r', 'u', 'e']; return .bool true
    | some 'f' => take; word ['a', 'l', 's', 'e']; return .bool false
    | some '-' => take; return .num (← number true)
    | some '"' => take; return .str (← string)
    | some '[' =>
      if d = 0 then failNext .tooDeep
      else
        take
        closedBy endOfList do return .arr (← items (value d) true (← fuel))
    | some '\x7b' =>
      if d = 0 then failNext .tooDeep
      else
        take
        closedBy endOfObject do
          let member := fun name ms => do
            colon
            return (name, ← value d) :: ms
          return .obj (← members member true [] (← fuel)).reverse
    | some c =>
      if Text.asciiDigit c then return .num (← number false) else failNext .expectedValue

/-! ## Passing over a value -/

/-- What is to be passed over next, inside the objects (`true`) and lists (`false`) still open. -/
inductive Skip where
  /-- A value. -/
  | value (isOpen : List Bool)
  /-- What follows an opening bracket, or (`more`) an item or member. -/
  | after (more : Bool) (isObject : Bool) (isOpen : List Bool)

def skipFront (isObject : Bool) : Scan Unit := do
  if isObject then
    match ← look with
    | some '"' => take
    | some _ => failNext .nameNotText
    | none => failNext .endInObject
    skipString
    colon

/-- One step of passing over a value; `none` at its end. -/
def skipStep : Skip → Scan (Option Skip)
  | .value isOpen => do
    let scalar : Scan (Option Skip) := return match isOpen with
      | [] => none
      | top :: below => some (.after true top below)
    match ← look with
    | none => failNext .endInValue
    | some 'n' => take; word ['u', 'l', 'l']; scalar
    | some 't' => take; word ['r', 'u', 'e']; scalar
    | some 'f' => take; word ['a', 'l', 's', 'e']; scalar
    | some '-' => take; skipNumber; scalar
    | some '"' => take; skipString; scalar
    | some '[' => take; return some (.after false false isOpen)
    | some '\x7b' => take; return some (.after false true isOpen)
    | some c => if Text.asciiDigit c then skipNumber; scalar else failNext .expectedValue
  | .after more isObject isOpen => do
    match ← look with
    | none => failNext (if isObject then .endInObject else .endInList)
    | some c =>
      if c == ',' && more then
        take
        skipFront isObject
        return some (.value (isObject :: isOpen))
      else if c == (if isObject then '\x7d' else ']') then
        take
        return match isOpen with
          | [] => none
          | top :: below => some (.after true top below)
      else if more then
        failNext (if isObject then .expectedCommaOrBrace else .expectedCommaOrBracket)
      else
        skipFront isObject
        return some (.value (isObject :: isOpen))

def skipSteps (s : Skip) : Nat → Scan Unit
  | 0 => failNext .endInValue
  | fuel + 1 => do
    match ← skipStep s with
    | none => return ()
    | some s => skipSteps s fuel

/-- Passes over one value.  Every second step at least takes a character. -/
def skipValue : Scan Unit := do
  skipSteps (.value []) (2 * (← fuel))

/-- Nothing but blanks may follow. -/
def endOfText : Scan Unit := do
  match ← look with
  | none => return ()
  | some _ => failNext .trailingText

end Scan

/-- Reads a whole text with a scan. -/
def scanText {α : Type} (s : Scan α) (drawn : Bool) (text : String) : Except Fault α :=
  match (do let a ← s; Scan.endOfText; return a : Scan α) (.start text.toList drawn) with
  | .ok a _ => .ok a
  | .error f _ => .error f

/-- Reads a text as a value in canonical form. -/
def parse (text : String) : Except Fault Json :=
  (scanText (Scan.value depthLimit) false text).map canonical

end RuleBench.Json
