import RuleBench.Pattern.Tree
import RuleBench.Text.Blank
import RuleBench.Text.Letter

set_option autoImplicit false

/-!
# Reading patterns

One pass over the text.  After the flag `x` blanks and comments may stand almost anywhere; the flag
holds until the end of the group that it was set in.
-/

namespace RuleBench.Pattern

structure Reader where
  rest : List Char
  place : Position
  skipsBlanks : Bool
  /-- Names of groups, with where they stand. -/
  names : List (List Char × Span)

abbrev Reading := EStateM Fault Reader

namespace Reading

/-! ## Characters -/

def peek : Reading (Option Char) := return (← get).rest.head?

def place : Reading Position := return (← get).place

def atEnd : Reading Bool := return (← get).rest.isEmpty

def bump : Reading Unit :=
  modify fun r =>
    match r.rest with
    | [] => r
    | c :: rest => { r with rest, place := r.place.after c }

def bumpMany : Nat → Reading Unit
  | 0 => return
  | n + 1 => do bump; bumpMany n

/-- Skips `token` if it stands here. -/
def bumpIf (token : List Char) : Reading Bool := do
  if token.isPrefixOf (← get).rest then
    bumpMany token.length
    return true
  else return false

/-- The rest of a text after blanks and comments, with its place. -/
def skipBlanks (inComment : Bool) (p : Position) : List Char → List Char × Position
  | [] => ([], p)
  | c :: rest =>
    if inComment then skipBlanks (c != '\n') (p.after c) rest
    else if Text.isBlank c then skipBlanks false (p.after c) rest
    else if c = '#' then skipBlanks true (p.after c) rest
    else (c :: rest, p)

/-- Skips blanks and comments where they do not count. -/
def bumpBlanks : Reading Unit :=
  modify fun r =>
    if r.skipsBlanks then
      let (rest, place) := skipBlanks false r.place r.rest
      { r with rest, place }
    else r

def bumpSpaced : Reading Unit := do
  bump
  bumpBlanks

/-- The character after the next one, blanks aside.  A comment counts only by its sign: what stands
in it is seen. -/
def peekSpaced : Reading (Option Char) := do
  let r ← get
  match r.rest with
  | [] => return none
  | _ :: rest =>
    if r.skipsBlanks then
      match rest.dropWhile Text.isBlank with
      | [] => return rest.head?
      | '#' :: more =>
        match more.dropWhile Text.isBlank with
        | [] => return rest.head?
        | c :: _ => return some c
      | c :: _ => return some c
    else return rest.head?

/-! ## Faults -/

def fail {α : Type} (m : Mistake) (s : Span) : Reading α := throw ⟨m, s, none⟩

/-- From `start` up to here. -/
def since (start : Position) : Reading Span := return ⟨start, ← place⟩

/-- The empty stretch here. -/
def here : Reading Span := do since (← place)

/-- The next character. -/
def next : Reading Span := do
  let r ← get
  return ⟨r.place, (r.rest.head?.map r.place.after).getD r.place⟩

def failHere {α : Type} (m : Mistake) : Reading α := do fail m (← here)

def failNext {α : Type} (m : Mistake) : Reading α := do fail m (← next)

def failSince {α : Type} (m : Mistake) (start : Position) : Reading α := do fail m (← since start)

/-- The next character; `m` is the fault at the end of the text. -/
def demand (m : Reading Char) : Reading Char := do
  match ← peek with
  | some c => return c
  | none => m

/-! ## Escapes -/

/-- Characters that mean something else unless escaped. -/
def isMeta (c : Char) : Bool := "\\.+*?()|[]\x7b\x7d^$#&-~".toList.contains c

/-- Characters that mean themselves when escaped. -/
def isEscapable (c : Char) : Bool :=
  isMeta c ||
    (c.toNat < 128 && !Text.asciiDigit c && !Text.asciiLetter c && c != '<' && c != '>')

/-- What a class or a row is made of. -/
inductive Primitive where
  | literal (l : Literal)
  | assertion (span : Span) (a : Assertion)
  | dot (span : Span)
  | letter (span : Span) (negated : Bool) (c : LetterClass)
  | property (span : Span) (negated : Bool) (q : Query)

def Primitive.span : Primitive → Span
  | .literal l => l.span
  | .assertion s _ => s
  | .dot s => s
  | .letter s _ _ => s
  | .property s _ _ => s

def hexValue (digits : List Char) : Nat :=
  digits.foldl (fun n c => 16 * n + Text.digit36 c.toLower) 0

def scalar? (n : Nat) : Option Char := if n.isValidChar then some (Char.ofNat n) else none

/-- `n` hexadecimal digits, of which `read` have been read. -/
def hexDigits (read : List Char) : Nat → Reading (List Char)
  | 0 => return read.reverse
  | n + 1 => do
    let c ← demand (failHere .unfinishedEscape)
    if !Text.asciiHexDigit c then failNext .badHexDigit
    bumpSpaced
    hexDigits (c :: read) n

/-- Hexadecimal digits up to the closing brace; `opened` is the place of the opening one.  The
number bounds how many characters are looked at. -/
def bracedHexDigits (opened : Position) (read : List Char) : Nat → Reading (List Char)
  | 0 => return read.reverse
  | n + 1 => do
    let c ← demand (failSince .unfinishedEscape opened)
    if c = '\x7d' then return read.reverse
    if !Text.asciiHexDigit c then failNext .badHexDigit
    bumpSpaced
    bracedHexDigits opened (c :: read) n

/-- A character by its number, after the letter `x`, `u` or `U`. -/
def hexEscape (start : Position) (digits : Nat) : Reading Primitive := do
  bumpSpaced
  let c ← demand (failHere .unfinishedEscape)
  if c = '\x7b' then
    let opened ← place
    let inside := opened.after c
    bumpSpaced
    let read ← bracedHexDigits opened [] ((← get).rest.length + 1)
    let closed ← place
    bumpSpaced
    if read.isEmpty then failSince .noHexDigits opened
    match scalar? (hexValue read) with
    | some char => return .literal ⟨← since start, char, false⟩
    | none => fail .badHexValue ⟨inside, closed⟩
  else
    let first ← place
    let read ← hexDigits [] digits
    match scalar? (hexValue read) with
    | some char => return .literal ⟨← since start, char, digits == 2⟩
    | none => failSince .badHexValue first

/-- The text up to the closing brace. -/
def bracedName (read : List Char) : Nat → Reading (List Char)
  | 0 => return read.reverse
  | n + 1 => do
    let c ← demand (failHere .unfinishedEscape)
    if c = '\x7d' then return read.reverse
    bumpSpaced
    bracedName (c :: read) n

/-- Splits a text at the first place where `separator` stands. -/
def splitAt? (separator : List Char) (before : List Char) :
    List Char → Option (List Char × List Char)
  | [] => none
  | c :: rest =>
    if separator.isPrefixOf (c :: rest) then
      some (before.reverse, (c :: rest).drop separator.length)
    else splitAt? separator (c :: before) rest

def queryOf (name : List Char) : Query :=
  match (splitAt? ['!', '='] [] name).orElse fun _ =>
      (splitAt? [':'] [] name).orElse fun _ => splitAt? ['='] [] name with
  | some (property, value) => .byValue property value
  | none => .byName name

/-- A class by property, after the letter `p` or `P`. -/
def propertyEscape (start : Position) (negated : Bool) : Reading Primitive := do
  bumpSpaced
  let c ← demand (failHere .unfinishedEscape)
  if c = '\x7b' then
    bumpSpaced
    let name ← bracedName [] ((← get).rest.length + 1)
    bump
    return .property (← since start) negated (queryOf name)
  else
    if c = '\\' then failNext .badUnicodeClass
    bumpSpaced
    return .property (← since start) negated (.byName [c])

def isBoundaryChar (c : Char) : Bool := Text.asciiLetter c || c == '-'

/-- Letters and hyphens. -/
def boundaryName (read : List Char) : Nat → Reading (List Char)
  | 0 => return read.reverse
  | n + 1 => do
    match ← peek with
    | some c =>
      if isBoundaryChar c then
        bumpSpaced
        boundaryName (c :: read) n
      else return read.reverse
    | none => return read.reverse

/-- The boundary named in braces, if the brace does not open a count. -/
def namedBoundary? (start : Position) : Reading (Option Assertion) := do
  let before ← get
  bumpSpaced
  let c ← demand (failSince .unfinishedBoundary start)
  let inside ← place
  if !isBoundaryChar c then
    set before
    return none
  let name ← boundaryName [] ((← get).rest.length + 1)
  if (← peek) ≠ some '\x7d' then failSince .unclosedBoundary before.place
  let closed ← place
  bump
  match String.ofList name with
  | "start" => return some .wordStart
  | "end" => return some .wordEnd
  | "start-half" => return some .wordStartHalf
  | "end-half" => return some .wordEndHalf
  | _ => fail .unknownBoundary ⟨inside, closed⟩

/-- What a single letter after the backslash stands for. -/
def shortEscape (start : Position) (c : Char) : Reading Primitive := do
  let span ← since start
  if isEscapable c then return .literal ⟨span, c, false⟩
  match c with
  | 'a' => return .literal ⟨span, '\x07', false⟩
  | 'f' => return .literal ⟨span, '\x0c', false⟩
  | 't' => return .literal ⟨span, '\t', false⟩
  | 'n' => return .literal ⟨span, '\n', false⟩
  | 'r' => return .literal ⟨span, '\r', false⟩
  | 'v' => return .literal ⟨span, '\x0b', false⟩
  | 'A' => return .assertion span .textStart
  | 'z' => return .assertion span .textEnd
  | 'B' => return .assertion span .noBoundary
  | '<' => return .assertion span .wordStart
  | '>' => return .assertion span .wordEnd
  | 'b' =>
    if (← peek) = some '\x7b' then
      match ← namedBoundary? start with
      | some a => return .assertion (← since start) a
      | none => return .assertion span .boundary
    else return .assertion span .boundary
  | _ => fail .unknownEscape span

def letterClass (start : Position) (negated : Bool) (c : LetterClass) : Reading Primitive := do
  bump
  return .letter (← since start) negated c

def escape : Reading Primitive := do
  let start ← place
  bump
  let c ← demand (failSince .unfinishedEscape start)
  match c with
  | 'x' => hexEscape start 2
  | 'u' => hexEscape start 4
  | 'U' => hexEscape start 8
  | 'p' => propertyEscape start false
  | 'P' => propertyEscape start true
  | 'd' => letterClass start false .digit
  | 's' => letterClass start false .space
  | 'w' => letterClass start false .word
  | 'D' => letterClass start true .digit
  | 'S' => letterClass start true .space
  | 'W' => letterClass start true .word
  | c =>
    if Text.asciiDigit c then fail .backreference ⟨start, (← next).stop⟩
    bump
    shortEscape start c

/-- A single character or escape; `c` is the next character. -/
def primitive (c : Char) : Reading Primitive := do
  let span ← next
  match c with
  | '\\' => escape
  | '.' => bump; return .dot span
  | '^' => bump; return .assertion span .lineStart
  | '$' => bump; return .assertion span .lineEnd
  | c => bump; return .literal ⟨span, c, false⟩

def Primitive.tree : Primitive → Tree
  | .literal l => .literal l
  | .assertion s a => .assertion s a
  | .dot s => .dot s
  | .letter s n c => .letter s n c
  | .property s n q => .property s n q

/-! ## Bracketed classes -/

/-- In a class all characters but the backslash stand for themselves. -/
def classPrimitive (c : Char) : Reading Primitive := do
  if c = '\\' then escape
  else
    let span ← next
    bump
    return .literal ⟨span, c, false⟩

def classItem : Primitive → Reading ClassItem
  | .literal l => return .literal l
  | .letter s n c => return .letter s n c
  | .property s n q => return .property s n q
  | p => fail .badClassEscape p.span

def rangeEnd : Primitive → Reading Literal
  | .literal l => return l
  | p => fail .classRangeNeedsLiteral p.span

/-- A character or escape of a class, or a range; `opened` is the opening of the class. -/
def rangeOrItem (opened : Span) (c : Char) : Reading ClassItem := do
  let first ← classPrimitive c
  bumpBlanks
  let c ← demand (fail .unclosedClass opened)
  let later ← peekSpaced
  if c ≠ '-' || later = some ']' || later = some '-' then classItem first
  else
    bumpSpaced
    let c ← demand (fail .unclosedClass opened)
    let second ← classPrimitive c
    let span : Span := ⟨first.span.start, second.span.stop⟩
    let a ← rangeEnd first
    let b ← rangeEnd second
    if b.char < a.char then fail .badClassRange span
    return .range span a b

/-- A class by name in brackets and colons; where there is none, nothing is read. -/
def asciiClass? : Reading (Option ClassItem) := do
  let before ← get
  match before.rest with
  | '[' :: ':' :: rest =>
    let (negated, rest) := match rest with
      | '^' :: rest => (true, rest)
      | rest => (false, rest)
    let name := rest.takeWhile (· != ':')
    let known := AsciiClass.names.find? fun n => n.1.toList == name
    match known, rest.drop name.length with
    | some (_, c), ':' :: ']' :: after =>
      bumpMany (before.rest.length - after.length)
      return some (.ascii (← since before.place) negated c)
    | _, _ => return none
  | _ => return none

/-- Hyphens at the front of a class stand for themselves. -/
def leadingHyphens (start : Position) (items : List ClassItem) : Nat → Reading (List ClassItem)
  | 0 => return items
  | n + 1 => do
    if (← peek) = some '-' then
      let item := ClassItem.literal ⟨← next, '-', false⟩
      bumpSpaced
      if ← atEnd then fail .unclosedClass ⟨start, start⟩
      leadingHyphens start (item :: items) n
    else return items

/-- The front of a class: whether it is negated, and the items, last first, that stand where others
would not. -/
def openClass : Reading (Bool × Span × List ClassItem) := do
  let start ← place
  bumpSpaced
  let c ← demand (failSince .unclosedClass start)
  if c = '^' then
    bumpSpaced
    if ← atEnd then failSince .unclosedClass start
  let first ← here
  let hyphens ← leadingHyphens start [] ((← get).rest.length + 1)
  if hyphens.isEmpty && (← peek) = some ']' then
    let item := ClassItem.literal ⟨← next, ']', false⟩
    bumpSpaced
    if ← atEnd then failSince .unclosedClass start
    return (c = '^', first, [item])
  else return (c = '^', first, hyphens)

/-- Joins a finished operand to the operand before it. -/
def joinSets (left : Option (SetOp × ClassSet)) (right : ClassSet) : ClassSet :=
  match left with
  | none => right
  | some (op, l) => .binary ⟨l.span.start, right.span.stop⟩ op l right

def setOps : List (List Char × SetOp) :=
  [(['&', '&'], .intersection), (['-', '-'], .difference), (['~', '~'], .symmetricDifference)]

/-- The rest of a class, up to and with its closing bracket.  `items` are those of the operand being
read, last first; `first` is where that operand begins. -/
def classRest (opened first : Span) (left : Option (SetOp × ClassSet)) (items : List ClassItem) :
    Nat → Reading ClassSet
  | 0 => fail .unclosedClass opened
  | n + 1 => do
    bumpBlanks
    let c ← demand (fail .unclosedClass opened)
    let r ← get
    match setOps.find? fun o => o.1.isPrefixOf r.rest with
    | some (token, op) =>
      bumpMany token.length
      let joined := joinSets left (.union first items.reverse)
      classRest opened (← here) (some (op, joined)) [] n
    | none =>
      if c = ']' then
        bump
        return joinSets left (.union first items.reverse)
      else if c = '[' then
        match ← asciiClass? with
        | some item => classRest opened first left (item :: items) n
        | none =>
          let (negated, innerFirst, innerItems) ← openClass
          let innerOpened ← since r.place
          let inner ← classRest innerOpened innerFirst none innerItems n
          let item := ClassItem.bracketed (← since r.place) negated inner
          classRest opened first left (item :: items) n
      else
        let item ← rangeOrItem opened c
        classRest opened first left (item :: items) n

def bracketedClass : Reading Tree := do
  let start ← place
  let (negated, first, items) ← openClass
  let opened ← since start
  let s ← classRest opened first none items ((← get).rest.length + 1)
  return .bracketed (← since start) negated s

/-! ## Repetitions -/

/-- The operand of a repetition, last of the trees before it. -/
def operand : List Tree → Reading (Tree × List Tree)
  | [] => failHere .nothingToRepeat
  | .empty _ :: _ => failHere .nothingToRepeat
  | .flags _ _ :: _ => failHere .nothingToRepeat
  | x :: before => return (x, before)

def repetition (least : Nat) (most : Option Nat) (trees : List Tree) : Reading (List Tree) := do
  let (x, before) ← operand trees
  bump
  if (← peek) = some '?' then bump
  return .repetition (← since x.span.start) least most x :: before

def skipWhile (p : Char → Bool) (spaced : Bool) (read : List Char) : Nat → Reading (List Char)
  | 0 => return read.reverse
  | n + 1 => do
    match ← peek with
    | some c =>
      if p c then
        bump
        if spaced then bumpBlanks
        skipWhile p spaced (c :: read) n
      else return read.reverse
    | none => return read.reverse

/-- A decimal numeral below `2^32`, or what is wrong with it. -/
def decimal : Reading (Except Fault Nat) := do
  let room := (← get).rest.length + 1
  let _ ← skipWhile Text.isBlank false [] room
  let start ← place
  let digits ← skipWhile Text.asciiDigit true [] room
  let span ← since start
  let _ ← skipWhile Text.isBlank true [] room
  let value := digits.foldl (fun n c => 10 * n + Text.digit36 c) 0
  if digits.isEmpty then return .error ⟨.noCount, span, none⟩
  else if value < 0x100000000 then return .ok value
  else return .error ⟨.badDecimal, span, none⟩

def orThrow {α : Type} : Except Fault α → Reading α
  | .ok a => return a
  | .error f => throw f

/-- A repetition counted in braces. -/
def countedRepetition (trees : List Tree) : Reading (List Tree) := do
  let start ← place
  let (x, before) ← operand trees
  let unclosed {α : Type} : Reading α := failSince .unclosedCount start
  bumpSpaced
  if ← atEnd then unclosed
  let first ← decimal
  let c ← demand unclosed
  let (least, most) ← (do
    if c = ',' then
      bumpSpaced
      let c ← demand unclosed
      if c = '\x7d' then return (← orThrow first, none)
      else
        let least ← orThrow first
        let most ← orThrow (← decimal)
        return (least, some most)
    else
      let count ← orThrow first
      return (count, some count) : Reading (Nat × Option Nat))
  if (← peek) ≠ some '\x7d' then unclosed
  bumpSpaced
  if (← peek) = some '?' then bump
  if most.any (· < least) then failSince .badCount start
  return .repetition (← since x.span.start) least most x :: before

/-! ## Groups -/

def flagOf? : Char → Option Flag
  | 'i' => some .ignoreCase
  | 'm' => some .multiLine
  | 's' => some .dotMatchesAll
  | 'U' => some .swapGreed
  | 'u' => some .unicode
  | 'R' => some .carriageReturns
  | 'x' => some .ignoreBlanks
  | _ => none

/-- Flags read so far: where each stands, and the hyphen. -/
structure FlagsSoFar where
  changes : List (Flag × Bool × Span)
  hyphen : Option Span

/-- Flags up to a colon or a closing parenthesis. -/
def flags (read : FlagsSoFar) (dangling : Option Span) : Nat → Reading FlagChanges
  | 0 => return read.changes.reverse.map fun c => (c.1, c.2.1)
  | n + 1 => do
    let c ← demand (failHere .unfinishedFlags)
    if c = ':' || c = ')' then
      match dangling with
      | some span => fail .danglingNegation span
      | none => return read.changes.reverse.map fun c => (c.1, c.2.1)
    else
      let span ← next
      if c = '-' then
        match read.hyphen with
        | some earlier => throw ⟨.repeatedNegation, span, some earlier⟩
        | none =>
          bump
          flags { read with hyphen := some span } (some span) n
      else
        match flagOf? c with
        | none => fail .unknownFlag span
        | some f =>
          match read.changes.find? fun c => decide (c.1 = f) with
          | some (_, _, earlier) => throw ⟨.duplicateFlag, span, some earlier⟩
          | none =>
            bump
            flags { read with changes := (f, read.hyphen.isNone, span) :: read.changes } none n

def startsGroupName (c : Char) : Bool := c == '_' || Text.isLetter c

def inGroupName (c : Char) : Bool :=
  c == '_' || c == '.' || c == '[' || c == ']' || Text.isLetterOrNumeral c

def groupNameRest (read : List Char) : Nat → Reading (List Char)
  | 0 => return read.reverse
  | n + 1 => do
    let c ← demand (failHere .unfinishedGroupName)
    if c = '>' then return read.reverse
    if !(if read.isEmpty then startsGroupName c else inGroupName c) then failNext .badGroupName
    bump
    groupNameRest (c :: read) n

/-- The name of a group, up to and with its closing angle. -/
def groupName : Reading Unit := do
  let start ← place
  let name ← groupNameRest [] ((← get).rest.length + 1)
  let span ← since start
  bump
  if name.isEmpty then fail .emptyGroupName ⟨start, start⟩
  match (← get).names.find? fun n => n.1 == name with
  | some (_, earlier) => throw ⟨.duplicateGroupName, span, some earlier⟩
  | none => modify fun r => { r with names := (name, span) :: r.names }

inductive Opening where
  /-- Flags for the rest of the group that they stand in. -/
  | changes (t : Tree) (c : FlagChanges)
  /-- A group with flags of its own. -/
  | group (c : FlagChanges)

def lookArounds : List (List Char) := [['?', '='], ['?', '!'], ['?', '<', '='], ['?', '<', '!']]

/-- A parenthesis and what belongs to it. -/
def openGroup : Reading Opening := do
  let paren ← next
  bump
  bumpBlanks
  let inside ← here
  let rest := (← get).rest
  match lookArounds.find? (·.isPrefixOf rest) with
  | some token =>
    bumpMany token.length
    failSince .lookAround paren.start
  | none =>
    if (← bumpIf ['?', 'P', '<']) || (← bumpIf ['?', '<']) then
      groupName
      return .group []
    else if ← bumpIf ['?'] then
      if ← atEnd then fail .unclosedGroup paren
      let changes ← flags ⟨[], none⟩ none ((← get).rest.length + 1)
      let c ← peek
      bump
      if c = some ')' then
        if changes.isEmpty then fail .nothingToRepeat inside
        return .changes (.flags (← since paren.start) changes) changes
      else return .group changes
    else return .group []

/-! ## Whole patterns -/

mutual

/-- Branches up to a closing parenthesis or the end of the text. -/
def branches (start : Position) (read : List Tree) : Nat → Reading Tree
  | 0 => return .empty ⟨start, start⟩
  | n + 1 => do
    let first ← place
    let trees ← row [] n
    let branch := Tree.ofRow (← since first) trees.reverse
    if (← peek) = some '|' then
      bump
      branches start (branch :: read) n
    else
      match read with
      | [] => return branch
      | read => return .alternation (← since start) (branch :: read).reverse

/-- Trees in a row, last first, up to a bar, a closing parenthesis or the end of the text. -/
def row (read : List Tree) : Nat → Reading (List Tree)
  | 0 => return read
  | n + 1 => do
    bumpBlanks
    match ← peek with
    | none => return read
    | some '|' => return read
    | some ')' => return read
    | some '(' => do
      let paren ← next
      match ← openGroup with
      | .changes t c =>
        modify fun r => { r with skipsBlanks := (c.state? .ignoreBlanks).getD r.skipsBlanks }
        row (t :: read) n
      | .group c =>
        let outside := (← get).skipsBlanks
        modify fun r => { r with skipsBlanks := (c.state? .ignoreBlanks).getD r.skipsBlanks }
        let inner ← branches (← place) [] n
        if ← atEnd then fail .unclosedGroup paren
        modify fun r => { r with skipsBlanks := outside }
        bump
        row (.group (← since paren.start) c inner :: read) n
    | some '[' => do
      let t ← bracketedClass
      row (t :: read) n
    | some '?' => do
      let trees ← repetition 0 (some 1) read
      row trees n
    | some '*' => do
      let trees ← repetition 0 none read
      row trees n
    | some '+' => do
      let trees ← repetition 1 none read
      row trees n
    | some '\x7b' => do
      let trees ← countedRepetition read
      row trees n
    | some c => do
      let p ← primitive c
      row (p.tree :: read) n

end

def whole : Reading Tree := do
  let t ← branches .start [] (2 * (← get).rest.length + 2)
  if !(← atEnd) then failNext .unopenedGroup
  match t.tooDeep? 0 with
  | some span => fail (.nestedTooDeep maxNesting) span
  | none => return t

end Reading

def Tree.parse (pattern : List Char) : Except Fault Tree :=
  match Reading.whole ⟨pattern, .start, false, []⟩ with
  | .ok t _ => .ok t
  | .error f _ => .error f

end RuleBench.Pattern
