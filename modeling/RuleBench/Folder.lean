set_option autoImplicit false

/-!
# Folders

Files are found and put by their paths.  A path is a row of steps with slashes between them; a step
names a file or a folder, or says to stay (`.`) or to go back (`..`).
-/

namespace RuleBench

/-- What is found at a path. -/
inductive Entry where
  | text (content : String)
  | folder
  /-- Nothing; the system says why. -/
  | absent (message : String)
  /-- Something that cannot be opened; the system says why. -/
  | closed (message : String)
  deriving DecidableEq

namespace Entry

def noSuchFile : String := "No such file or directory (os error 2)"

def notFolder : String := "Not a directory (os error 20)"

def isFolder : String := "Is a directory (os error 21)"

def isThere : Entry → Bool
  | .absent _ => false
  | _ => true

/-- The text of a file, or why there is none. -/
def read : Entry → Except String String
  | .text content => .ok content
  | .folder => .error isFolder
  | .absent message => .error message
  | .closed message => .error message

end Entry

/-- Files, each with the names on the way to it; the folders are those that files lie in. -/
structure Folder where
  files : List (List String × String)

/-- Where a path leads. -/
inductive Place where
  | file (way : List String) (content : String)
  | folder
  /-- Nothing is there, but a file can be put there. -/
  | vacant (way : List String)
  /-- The path cannot be followed to its end. -/
  | lost (message : String)

namespace Folder

def file? (f : Folder) (way : List String) : Option String :=
  (f.files.find? (·.1 = way)).map (·.2)

/-- Some file lies further along. -/
def leadsOn (f : Folder) (way : List String) : Bool :=
  f.files.any fun e => way.isPrefixOf e.1 && way.length < e.1.length

/-- Takes steps from `here` on. -/
def follow (f : Folder) (here : List String) : List String → Place
  | [] => .folder
  | step :: rest =>
    if step = "" ∨ step = "." then follow f here rest
    else if step = ".." then follow f here.dropLast rest
    else
      let there := here ++ [step]
      match f.file? there with
      | some content => if rest = [] then .file there content else .lost Entry.notFolder
      | none =>
        if f.leadsOn there then follow f there rest
        else if rest = [] then .vacant there
        else .lost Entry.noSuchFile

/-- The steps of a path. -/
def stepsOf : List Char → List (List Char)
  | [] => [[]]
  | c :: rest =>
    if c = '/' then [] :: stepsOf rest
    else
      match stepsOf rest with
      | [] => [[c]]
      | step :: more => (c :: step) :: more

def steps (path : String) : List String := (stepsOf path.toList).map String.ofList

def place (f : Folder) (path : String) : Place := f.follow [] (steps path)

def find (f : Folder) (path : String) : Entry :=
  match f.place path with
  | .file _ content => .text content
  | .folder => .folder
  | .vacant _ => .absent Entry.noSuchFile
  | .lost message => .absent message

/-- The file that stands first of its name gets the text; a new file stands last. -/
def replace (way : List String) (content : String) :
    List (List String × String) → List (List String × String)
  | [] => [(way, content)]
  | e :: rest => if e.1 = way then (way, content) :: rest else e :: replace way content rest

def set (f : Folder) (way : List String) (content : String) : Folder :=
  ⟨replace way content f.files⟩

theorem file?_set (f : Folder) (way other : List String) (content : String) :
    (f.set way content).file? other = if other = way then some content else f.file? other := by
  have h (files : List (List String × String)) :
      ((replace way content files).find? (·.1 = other)).map (·.2) =
        if other = way then some content else (files.find? (·.1 = other)).map (·.2) := by
    induction files with
    | nil => by_cases h : other = way <;> simp [replace, h, eq_comm]
    | cons e rest ih => by_cases h : e.1 = way <;> by_cases h' : e.1 = other <;> grind [replace]
  exact h f.files

theorem leadsOn_set (f : Folder) (way other : List String) (content : String)
    (h : f.leadsOn other = true) : (f.set way content).leadsOn other = true := by
  have step (files : List (List String × String)) (p : List String → Bool)
      (h : files.any (fun e => p e.1) = true) :
      (replace way content files).any (fun e => p e.1) = true := by
    induction files with
    | nil => simp at h
    | cons e rest ih => by_cases he : e.1 = way <;> grind [replace]
  exact step f.files (fun w => other.isPrefixOf w && other.length < w.length) h

/-- Where a file can be made, there is no folder. -/
theorem leadsOn_of_follow (f : Folder) (way : List String) (steps : List String) :
    ∀ here, ((∃ old, f.follow here steps = .file way old) ∨ f.follow here steps = .vacant way) →
      f.file? way = none → f.leadsOn way = false := by
  induction steps with
  | nil => simp [follow]
  | cons step rest ih =>
    intro here h
    unfold follow at h
    grind

/-- Where a file can be put, it is then found. -/
theorem follow_set (f : Folder) (way : List String) (content : String) (steps : List String) :
    ∀ here, ((∃ old, f.follow here steps = .file way old) ∨ f.follow here steps = .vacant way) →
      (f.set way content).follow here steps = .file way content := by
  induction steps with
  | nil => simp [follow]
  | cons step rest ih =>
    intro here h
    have lead := leadsOn_of_follow f way rest (here ++ [step])
    unfold follow at h ⊢
    grind [file?_set, leadsOn_set]

/-- Makes a file, or replaces the text of one. -/
def put (f : Folder) (path content : String) : Except String Folder :=
  match f.place path with
  | .file way _ => .ok (f.set way content)
  | .vacant way => .ok (f.set way content)
  | .folder => .error Entry.isFolder
  | .lost message => .error message

theorem find_put (f g : Folder) (path content : String) (h : f.put path content = .ok g) :
    g.find path = .text content := by
  have found := fun way => follow_set f way content (steps path) []
  unfold put place at h
  split at h
  case h_1 way old led =>
    obtain rfl := Except.ok.inj h
    simp [find, place, found way (.inl ⟨old, led⟩)]
  case h_2 way led =>
    obtain rfl := Except.ok.inj h
    simp [find, place, found way (.inr led)]
  all_goals simp at h

end Folder

end RuleBench
