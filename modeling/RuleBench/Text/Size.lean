set_option autoImplicit false

/-!
# Sizes of texts

How many bytes a text takes in UTF-8.
-/

namespace RuleBench.Text

def byteSize : List Char → Nat
  | [] => 0
  | c :: rest => c.utf8Size + byteSize rest

theorem byteSize_append (s t : List Char) : byteSize (s ++ t) = byteSize s + byteSize t := by
  induction s with
  | nil => simp [byteSize]
  | cons c s ih => simp [byteSize, ih, Nat.add_assoc]

end RuleBench.Text
