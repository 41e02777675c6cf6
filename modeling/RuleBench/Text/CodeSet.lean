set_option autoImplicit false

/-!
# Sets of code points

A set of code points is a list of runs.  Long tables are kept as lines of text: whole numbers in
base 36, divided by blanks, a run being the gap after the run before and its length less one.
-/

namespace RuleBench.Text

/-- The value of a base 36 digit. -/
def digit36 (c : Char) : Nat :=
  if c.isDigit then c.toNat - '0'.toNat else c.toNat - 'a'.toNat + 10

/-- One word of a packed table. -/
def packedNumber : List Char → Int
  | '-' :: digits => -(digits.foldl (fun n c => 36 * n + digit36 c) 0 : Nat)
  | digits => (digits.foldl (fun n c => 36 * n + digit36 c) 0 : Nat)

/-- The words of a text; `word` holds the one being read, last character first. -/
def packedWords (word : List Char) : List Char → List (List Char)
  | [] => if word.isEmpty then [] else [word.reverse]
  | ' ' :: rest => if word.isEmpty then packedWords [] rest else word.reverse :: packedWords [] rest
  | c :: rest => packedWords (c :: word) rest

def packedNumbers (lines : List String) : List Int :=
  lines.flatMap fun line => (packedWords [] line.toList).map packedNumber

/-- A set of code points, as ascending runs with both ends included. -/
abbrev CodeSet := List (Nat × Nat)

namespace CodeSet

def contains (s : CodeSet) (n : Nat) : Bool := s.any fun run => run.1 ≤ n && n ≤ run.2

/-- Runs written as gap and length less one. -/
def collect (last : Nat) : List Int → CodeSet
  | gap :: length :: more =>
    (last + gap.toNat, last + gap.toNat + length.toNat) ::
      collect (last + gap.toNat + length.toNat) more
  | _ => []

def ofCode (lines : List String) : CodeSet := collect 0 (packedNumbers lines)

/-! ## Operations -/

/-- What lies from `next` to `last` and in none of the runs, which ascend. -/
def gaps (last next : Nat) : CodeSet → CodeSet
  | [] => if next ≤ last then [(next, last)] else []
  | (a, b) :: more =>
    (if next < a then [(next, a - 1)] else []) ++ gaps last (max next (b + 1)) more

/-- The numbers up to `last` that are not in a set. -/
def complement (last : Nat) (s : CodeSet) : CodeSet :=
  gaps last 0 (s.mergeSort fun a b => a.1 ≤ b.1)

def inter (last : Nat) (s t : CodeSet) : CodeSet :=
  complement last (complement last s ++ complement last t)

def diff (last : Nat) (s t : CodeSet) : CodeSet := complement last (complement last s ++ t)

def symmDiff (last : Nat) (s t : CodeSet) : CodeSet := diff last s t ++ diff last t s

end CodeSet

end RuleBench.Text
