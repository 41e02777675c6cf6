import RuleBench.Json.Value

set_option autoImplicit false

/-!
# Forms

A form says how values of a type are read: from a text as it goes by, or from a value read before.
The two ways agree on what they accept but for small matters: only a text has places to report, and
a value held back while looking for a tag (`buffered`) may write a tag as a number.

Records are read from their members in any order, members of other names being ignored, or from a
list of their members in the declared order.
-/

namespace RuleBench.Json

/-- Where a value that is read again comes from. -/
inductive Held where
  /-- Set aside while reading a text. -/
  | buffered
  /-- Read to its end before. -/
  | whole
  deriving DecidableEq

structure Form (α : Type) where
  scan : Nat → Scan α
  load : Held → Json → Except Cause α
  /-- What a member that is missing counts as, if it may be. -/
  absent : Option α

namespace Form

variable {α β γ : Type}

def map (f : α → β) (form : Form α) : Form β where
  scan depth := return f (← form.scan depth)
  load held v := (form.load held v).map f
  absent := form.absent.map f

/-! ## Plain values -/

def wrongKind (v : Json) (wanted : String) : Except Cause α := .error (.wrongKind v.found wanted)

/-- Reads as much of a value as its kind takes, to complain about it. -/
def scanWrongKind (wanted : String) : Scan α := do
  let found ← do
    match ← Scan.look with
    | none => Scan.failNext .endInValue
    | some 'n' => Scan.take; Scan.word ['u', 'l', 'l']; pure Found.null
    | some 't' => Scan.take; Scan.word ['r', 'u', 'e']; pure (Found.bool true)
    | some 'f' => Scan.take; Scan.word ['a', 'l', 's', 'e']; pure (Found.bool false)
    | some '-' => Scan.take; pure (Found.num (← Scan.number true))
    | some '"' => Scan.take; pure (Found.text (← Scan.string))
    | some '[' => pure Found.list
    | some '\x7b' => pure Found.object
    | some c =>
      if Text.asciiDigit c then pure (Found.num (← Scan.number false))
      else Scan.failNext .expectedValue
  Scan.placed (Scan.failUnplaced (.wrongKind found wanted))

/-- Any value, in canonical form. -/
def any : Form Json where
  scan depth := return (← Scan.value depth).canonical
  load _ v := .ok v.canonical
  absent := none

def textNamed (wanted : String) : Form String where
  scan _ := do
    match ← Scan.look with
    | some '"' => Scan.take; Scan.string
    | _ => scanWrongKind wanted
  load _ v :=
    match v with
    | .str s => .ok s
    | v => wrongKind v wanted
  absent := none

def text : Form String := textNamed "a string"

def flag : Form Bool where
  scan _ := do
    match ← Scan.look with
    | some 't' => Scan.take; Scan.word ['r', 'u', 'e']; return true
    | some 'f' => Scan.take; Scan.word ['a', 'l', 's', 'e']; return false
    | _ => scanWrongKind "a boolean"
  load _ v :=
    match v with
    | .bool b => .ok b
    | v => wrongKind v "a boolean"
  absent := none

/-- A number as an unsigned whole number; `wanted` names its type. -/
def unsigned? (wanted : String) : Number → Except Cause Nat
  | .whole w =>
    if w.val < 0 then .error (.wrongValue (.num (.whole w)) wanted) else .ok w.val.toNat
  | .real x => .error (.wrongKind (.num (.real x)) wanted)

/-- A whole number below `2^64`. -/
def unsigned (wanted : String) : Form Nat where
  scan _ := do
    match ← Scan.look with
    | some '-' =>
      Scan.take
      let n ← Scan.number true
      Scan.placed (Scan.lift (unsigned? wanted n))
    | some c =>
      if Text.asciiDigit c then
        let n ← Scan.number false
        Scan.placed (Scan.lift (unsigned? wanted n))
      else scanWrongKind wanted
    | none => Scan.failNext .endInValue
  load _ v :=
    match v with
    | .num n => unsigned? wanted n
    | v => wrongKind v wanted
  absent := none

/-- A value or nothing: `null` and a missing member are nothing. -/
def optional (form : Form α) : Form (Option α) where
  scan depth := do
    match ← Scan.look with
    | some 'n' => Scan.take; Scan.word ['u', 'l', 'l']; return none
    | _ => return some (← form.scan depth)
  load held v :=
    match v with
    | .null => .ok none
    | v => (form.load held v).map some
  absent := some none

/-! ## Lists and maps -/

def loadItems (form : Form α) (held : Held) : List Json → Except Cause (List α)
  | [] => .ok []
  | v :: rest => do
    let a ← form.load held v
    return a :: (← loadItems form held rest)

def list (form : Form α) : Form (List α) where
  scan depth := do
    match ← Scan.look with
    | some '[' => Scan.placed (Scan.listOf depth fun d => do
        Scan.items (form.scan d) true (← Scan.fuel))
    | _ => scanWrongKind "a sequence"
  load held v :=
    match v with
    | .arr items => loadItems form held items
    | v => wrongKind v "a sequence"
  absent := none

def loadEntries (form : Form α) (held : Held) :
    List (String × Json) → Except Cause (List (String × α))
  | [] => .ok []
  | (name, v) :: rest => do
    let a ← form.load held v
    return (name, a) :: (← loadEntries form held rest)

/-- A map, as entries in the order they are written. -/
def entries (form : Form α) : Form (List (String × α)) where
  scan depth := do
    match ← Scan.look with
    | some '\x7b' => Scan.placed (Scan.objectOf depth fun d => do
        let member := fun name es => do
          Scan.colon
          return (name, ← form.scan d) :: es
        return (← Scan.members member true [] (← Scan.fuel)).reverse)
    | _ => scanWrongKind "a map"
  load held v :=
    match v with
    | .obj members => loadEntries form held members
    | v => wrongKind v "a map"
  absent := none

/-! ## Names from a closed list -/

def choose (table : List (String × α)) (name : String) : Except Cause α :=
  match findMember name table with
  | some a => .ok a
  | none => .error (.unknownChoice name (table.map (·.1)))

/-- The name of a variant in a text. -/
def scanChoice (table : List (String × α)) : Scan α := do
  let name ← (textNamed "variant identifier").scan 0
  Scan.placed (Scan.lift (choose table name))

/-- What goes with a variant that carries nothing. -/
def scanNothing : Scan Unit := do
  match ← Scan.look with
  | some 'n' => Scan.take; Scan.word ['u', 'l', 'l']
  | _ => scanWrongKind "unit"

def loadNothing (held : Held) : Json → Except Cause Unit
  | .null => .ok ()
  | .obj [] => if held = .buffered then .ok () else wrongKind (.obj []) "unit"
  | v => wrongKind v "unit"

/-- One of a list of names, alone or as the one member of an object whose value is nothing. -/
def choice (table : List (String × α)) : Form α where
  scan depth := do
    match ← Scan.look with
    | some '\x7b' =>
      let a ← Scan.deeper depth fun _ => do
        Scan.take
        let a ← scanChoice table
        Scan.colon
        scanNothing
        return a
      match ← Scan.look with
      | some '\x7d' => Scan.take; return a
      | some _ => Scan.fail .expectedValue
      | none => Scan.fail .endInObject
    | some '"' => scanChoice table
    | some _ => Scan.failNext .expectedValue
    | none => Scan.failNext .endInValue
  load held v :=
    match v with
    | .str name => choose table name
    | .obj [(name, v)] => do
      let a ← choose table name
      loadNothing held v
      return a
    | .obj _ => .error (.wrongValue .object "map with a single key")
    | v => wrongKind v "string or map"
  absent := none

end Form

/-! ## Records -/

/-- The members of a record, with their forms and, where a missing one has a value, that value. -/
inductive Fields : Type → Type 1 where
  | done : Fields Unit
  | field {α β : Type} (name : String) (form : Form α) (default : Option α) (rest : Fields β) :
    Fields (α × β)

namespace Fields

/-- What has been read of a record so far. -/
def Draft : {α : Type} → Fields α → Type
  | _, .done => Unit
  | _, @Fields.field α _ _ _ _ rest => Option α × Draft rest

def blank : {α : Type} → (fs : Fields α) → fs.Draft
  | _, .done => ()
  | _, .field _ _ _ rest => (none, blank rest)

def names : {α : Type} → Fields α → List String
  | _, .done => []
  | _, .field name _ _ rest => name :: names rest

def count : {α : Type} → Fields α → Nat
  | _, .done => 0
  | _, .field _ _ _ rest => count rest + 1

/-- Reads the member of a name that is among `names`, unless it has been read before. -/
def scanMember (depth : Nat) (name : String) :
    {α : Type} → (fs : Fields α) → fs.Draft → Scan fs.Draft
  | _, .done, d => do
    Scan.colon
    Scan.skipValue
    return d
  | _, @Fields.field α _ n form _ rest, draft =>
    let (slot, more) : Option α × rest.Draft := draft
    if n = name then
      match slot with
      | some _ => Scan.failUnplaced (.repeatedMember name)
      | none => do
        Scan.colon
        return ((some (← form.scan depth), more) : Option α × rest.Draft)
    else do
      return ((slot, ← scanMember depth name rest more) : Option α × rest.Draft)

def loadMember (held : Held) (name : String) (v : Json) :
    {α : Type} → (fs : Fields α) → fs.Draft → Except Cause fs.Draft
  | _, .done, d => .ok d
  | _, @Fields.field α _ n form _ rest, draft =>
    let (slot, more) : Option α × rest.Draft := draft
    if n = name then
      match slot with
      | some _ => .error (.repeatedMember name)
      | none => do return ((some (← form.load held v), more) : Option α × rest.Draft)
    else do
      return ((slot, ← loadMember held name v rest more) : Option α × rest.Draft)

def loadMembers (held : Held) {α : Type} (fs : Fields α) :
    List (String × Json) → fs.Draft → Except Cause fs.Draft
  | [], d => .ok d
  | (name, v) :: rest, d => do loadMembers held fs rest (← loadMember held name v fs d)

/-- Completes a draft with the values of missing members; the first without one is an error. -/
def complete : {α : Type} → (fs : Fields α) → fs.Draft → Except Cause α
  | _, .done, _ => .ok ()
  | _, @Fields.field α _ name form default rest, draft => do
    let (slot, more) : Option α × rest.Draft := draft
    match slot.orElse (fun _ => default.orElse fun _ => form.absent) with
    | some a => return (a, ← complete rest more)
    | none => .error (.missingMember name)

/-- Reads the members from a list.  Those with a value of their own may be left off its end. -/
def scanItems (depth : Nat) (wanted : String) (index : Nat) :
    {α : Type} → Fields α → Scan α
  | _, .done => return ()
  | _, .field _ form default rest => do
    if ← Scan.listGoesOn (index = 0) then
      let a ← form.scan depth
      return (a, ← scanItems depth wanted (index + 1) rest)
    else
      match default with
      | some a => return (a, ← scanItems depth wanted (index + 1) rest)
      | none => Scan.failUnplaced (.wrongLength index wanted)

/-- As `scanItems`, from values; yields how many values are left over as well. -/
def loadItems (held : Held) (wanted : String) (index : Nat) :
    {α : Type} → Fields α → List Json → Except Cause (α × Nat)
  | _, .done, rest => .ok ((), rest.length)
  | _, .field _ form _ rest, v :: vs => do
    let a ← form.load held v
    let (as, left) ← loadItems held wanted (index + 1) rest vs
    return ((a, as), left)
  | _, .field _ _ default rest, [] =>
    match default with
    | some a => do
      let (as, left) ← loadItems held wanted (index + 1) rest []
      return ((a, as), left)
    | none => .error (.wrongLength index wanted)

def plural (n : Nat) : String := if n = 1 then "1 element" else s!"{n} elements"

/-- How a record is asked for where the number of its members is wrong. -/
def withCount {α : Type} (title : String) (fs : Fields α) : String :=
  title ++ " with " ++ plural fs.count

/-- What a list with values left over is measured against. -/
def tooMany (held : Held) (length wanted : Nat) : Cause :=
  match held with
  | .buffered => .wrongLength length (plural wanted ++ " in sequence")
  | .whole => .wrongLength length "fewer elements in array"

def load (held : Held) (title : String) {α : Type} (fs : Fields α) : Json → Except Cause α
  | .arr items => do
    let (a, left) ← loadItems held (withCount title fs) 0 fs items
    if left = 0 then return a
    else .error (tooMany held items.length fs.count)
  | .obj members => do complete fs (← loadMembers held fs members (blank fs))
  | v => Form.wrongKind v title

end Fields

namespace Form

variable {α β γ : Type}

/-- A record; `title` is what it is called when something else is found. -/
def record (title : String) (fs : Fields α) (make : α → β) : Form β where
  scan depth := do
    match ← Scan.look with
    | some '[' => Scan.placed (Scan.listOf depth fun d =>
        return make (← fs.scanItems d (fs.withCount title) 0))
    | some '\x7b' => Scan.placed (Scan.objectOf depth fun d => do
        let draft ← Scan.members (fun name draft => fs.scanMember d name draft) true fs.blank
          (← Scan.fuel)
        return make (← Scan.lift (fs.complete draft)))
    | _ => scanWrongKind title
  load held v := (fs.load held title v).map make
  absent := none

/-! ## A record beside a key -/

/-- The members of an object, one of them taken out. -/
structure Split (α : Type) where
  key : Option α
  others : List (String × Json)

namespace Split

/-- Reads one member; `others` grows at the front. -/
def scanMember (keyName : String) (key : Form α) (depth : Nat) (name : String) (s : Split α) :
    Scan (Split α) :=
  if name = keyName then
    match s.key with
    | some _ => Scan.failUnplaced (.repeatedMember keyName)
    | none => do
      Scan.colon
      return { s with key := some (← key.scan depth) }
  else do
    Scan.colon
    return { s with others := (name, ← Scan.value depth) :: s.others }

def loadMembers (keyName : String) (key : Form α) (held : Held) :
    List (String × Json) → Split α → Except Cause (Split α)
  | [], s => .ok s
  | (name, v) :: rest, s =>
    if name = keyName then
      match s.key with
      | some _ => .error (.repeatedMember keyName)
      | none => do loadMembers keyName key held rest { s with key := some (← key.load held v) }
    else loadMembers keyName key held rest { s with others := (name, v) :: s.others }

/-- The key and what the other members make. -/
def finish (keyName : String) (inner : Form β) (s : Split α) : Except Cause (α × β) :=
  match s.key with
  | none => .error (.missingMember keyName)
  | some a => do return (a, ← inner.load .buffered (.obj s.others.reverse))

end Split

/-- An object that holds the members of `inner` and beside them a key. -/
def beside (title keyName : String) (key : Form α) (inner : Form β) (make : α → β → γ) :
    Form γ where
  scan depth := do
    match ← Scan.look with
    | some '\x7b' => Scan.placed (Scan.objectOf depth fun d => do
        let s ← Scan.members (fun name s => Split.scanMember keyName key d name s) true
          ⟨none, []⟩ (← Scan.fuel)
        let (a, b) ← Scan.lift (s.finish keyName inner)
        return make a b)
    | _ => scanWrongKind title
  load held v :=
    match v with
    | .obj members => do
      let s ← Split.loadMembers keyName key held members ⟨none, []⟩
      let (a, b) ← s.finish keyName inner
      return make a b
    | v => wrongKind v title
  absent := none

/-! ## Tagged alternatives -/

/-- What a tag goes with, made from the values held beside the tag; it is told how the alternative
is called. -/
abbrev Variant (β : Type) := String → Json → Except Cause β

namespace Variant

/-- Nothing goes with the tag, and members beside it are ignored. -/
def plain (b : β) : Variant β := fun _ held =>
  match held with
  | .arr (x :: xs) => .error (.wrongLength (x :: xs).length (Fields.plural 0 ++ " in sequence"))
  | _ => .ok b

/-- The members of a record go with the tag. -/
def record (fs : Fields α) (make : α → β) : Variant β := fun title held =>
  (fs.load .buffered title held).map make

end Variant

/-- The tag of a value that has been read before. -/
def loadTag (table : List (String × α)) (held : Held) : Json → Except Cause α
  | .str name => choose table name
  | .num (.whole w) =>
    if held = .buffered && 0 ≤ w.val then
      match table[w.val.toNat]? with
      | some (_, a) => .ok a
      | none =>
        .error (.wrongValue (.num (.whole w)) s!"variant index 0 <= i < {table.length}")
    else wrongKind (.num (.whole w)) "variant identifier"
  | v => wrongKind v "variant identifier"

/-- The member that says which alternative an object is. -/
def tagName : String := "type"

def loadTagged (table : List (String × α)) (held : Held) :
    List (String × Json) → Split α → Except Cause (Split α)
  | [], s => .ok s
  | (name, v) :: rest, s =>
    if name = tagName then
      match s.key with
      | some _ => .error (.repeatedMember tagName)
      | none => do loadTagged table held rest { s with key := some (← loadTag table held v) }
    else loadTagged table held rest { s with others := (name, v) :: s.others }

/-- Reads one member; `others` grows at the front. -/
def scanTagged (table : List (String × α)) (depth : Nat) (name : String) (s : Split α) :
    Scan (Split α) :=
  if name = tagName then
    match s.key with
    | some _ => Scan.failUnplaced (.repeatedMember tagName)
    | none => do
      Scan.colon
      return { s with key := some (← scanChoice table) }
  else do
    Scan.colon
    return { s with others := (name, ← Scan.value depth) :: s.others }

/-- The tag and the values beside it. -/
def Split.tag (s : Split α) : Except Cause (α × Json) :=
  match s.key with
  | none => .error (.missingMember tagName)
  | some tag => .ok (tag, .obj s.others.reverse)

/-- The alternatives of `name`, told apart by the member `type`, or by the first item of a list.
What is wrong beside the tag is found only after the whole has been read, and so has no place. -/
def tagged (name : String) (variants : List (String × String × Variant β)) : Form β :=
  let table := variants.map fun v =>
    (v.1, v.2.2 ("struct variant " ++ name ++ "::" ++ v.2.1))
  let title := "internally tagged enum " ++ name
  { scan := fun depth => do
      let (make, held) ← Scan.placed do
        match ← Scan.look with
        | some '[' => Scan.listOf depth fun d => do
            if ← Scan.listGoesOn true then
              let make ← scanChoice table
              return (make, Json.arr (← Scan.items (Scan.value d) false (← Scan.fuel)))
            else Scan.failUnplaced (.missingMember tagName)
        | some '\x7b' => Scan.objectOf depth fun d => do
            let s ← Scan.members (scanTagged table d) true ⟨none, []⟩ (← Scan.fuel)
            Scan.lift s.tag
        | _ => scanWrongKind title
      Scan.lift (make held)
    load := fun held v =>
      match v with
      | .arr [] => .error (.missingMember tagName)
      | .arr (v :: rest) => do (← loadTag table held v) (.arr rest)
      | .obj members => do
        let (make, beside) ← (← loadTagged table held members ⟨none, []⟩).tag
        make beside
      | v => wrongKind v title
    absent := none }

/-! ## Reading -/

/-- Reads a whole text. -/
def read (form : Form α) (text : String) : Except Fault α :=
  scanText (form.scan depthLimit) false text

/-- Reads a whole text that is drawn byte by byte. -/
def readDrawn (form : Form α) (text : String) : Except Fault α :=
  scanText (form.scan depthLimit) true text

/-- Reads a value that has been read before. -/
def ofJson (form : Form α) (v : Json) : Except Cause α := form.load .whole v

end Form

end RuleBench.Json
