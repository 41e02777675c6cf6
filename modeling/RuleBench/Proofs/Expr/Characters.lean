import RuleBench.Expr.Parser

set_option autoImplicit false

/-!
# Characters of names, numerals and tokens

What the classes of characters have in common, without a look into a table.
-/

namespace RuleBench.Expr

theorem toNat_toLower (c : Char) : c.toLower.toNat =
    if 65 ≤ c.toNat ∧ c.toNat ≤ 90 then c.toNat + 32 else c.toNat := by
  unfold Char.toLower
  split
  · rename_i h
    have h1 : 65 ≤ c.toNat := h.1
    have h2 : c.toNat ≤ 90 := h.2
    rw [if_pos ⟨h1, h2⟩]
    change (c.val + 32).toNat = _
    rw [UInt32.toNat_add]
    change (c.toNat + 32) % 4294967296 = _
    omega
  · rename_i h
    rw [if_neg]
    exact h

theorem asciiLetter_iff (c : Char) : Text.asciiLetter c = true ↔
    (97 ≤ c.toNat ∧ c.toNat ≤ 122) ∨ (65 ≤ c.toNat ∧ c.toNat ≤ 90) := by
  simp only [Text.asciiLetter, Bool.or_eq_true, Bool.and_eq_true, decide_eq_true_eq]
  rfl

theorem toNat_of_sameLetter {a c : Char} (h : Text.sameLetter a c = true) :
    a.toLower.toNat = c.toLower.toNat := by
  rw [beq_iff_eq.mp h]

/-- A character that is not a letter is the same letter as itself only. -/
theorem eq_of_sameLetter {a c : Char} (h : Text.sameLetter a c = true)
    (ha : Text.asciiLetter a = false) : c = a := by
  have hn := toNat_of_sameLetter h
  have ha := mt (asciiLetter_iff a).mpr (by simp [ha])
  rw [toNat_toLower, toNat_toLower] at hn
  apply Char.ext
  apply UInt32.toNat_inj.mp
  change c.toNat = a.toNat
  split at hn <;> split at hn <;> omega

theorem asciiLetter_of_sameLetter {a c : Char} (h : Text.sameLetter a c = true)
    (ha : Text.asciiLetter a = true) : Text.asciiLetter c = true := by
  have hn := toNat_of_sameLetter h
  rw [asciiLetter_iff] at ha ⊢
  rw [toNat_toLower, toNat_toLower] at hn
  split at hn <;> split at hn <;> omega

theorem startsName_of_asciiLetter {c : Char} (h : Text.asciiLetter c = true) :
    startsName c = true := by
  have hc := (asciiLetter_iff c).mp h
  have hlt : c.toNat < 128 := by omega
  simp [startsName, Text.isLetter, hlt, h]

theorem inName_of_startsName {c : Char} (h : startsName c = true) : inName c = true := by
  simp only [startsName, inName, Text.isLetterOrNumeral, Bool.or_eq_true] at h ⊢
  exact h.imp_left .inl

theorem asciiDigit_iff (c : Char) :
    Text.asciiDigit c = true ↔ 48 ≤ c.toNat ∧ c.toNat ≤ 57 := by
  simp only [Text.asciiDigit, Bool.and_eq_true, decide_eq_true_eq]
  rfl

theorem inName_of_asciiDigit {c : Char} (h : Text.asciiDigit c = true) : inName c = true := by
  have hc := (asciiDigit_iff c).mp h
  have hlt : c.toNat < 128 := by omega
  simp [inName, Text.isLetterOrNumeral, Text.isNumeral, hlt, h]

theorem startsName_of_asciiDigit {c : Char} (h : Text.asciiDigit c = true) :
    startsName c = false := by
  have hc := (asciiDigit_iff c).mp h
  have hlt : c.toNat < 128 := by omega
  have hl : Text.asciiLetter c = false := by
    rw [Bool.eq_false_iff, ne_eq, asciiLetter_iff]
    omega
  have hu : c ≠ '_' := by
    rintro rfl
    exact absurd h (by decide)
  simp [startsName, Text.isLetter, hlt, hl, hu]

theorem eq_of_isSpace {c : Char} (h : isSpace c = true) :
    c = ' ' ∨ c = '\t' ∨ c = '\r' ∨ c = '\n' := by
  simpa [isSpace, or_assoc] using h

theorem inName_of_isSpace {c : Char} (h : isSpace c = true) : inName c = false := by
  rcases eq_of_isSpace h with rfl | rfl | rfl | rfl <;> decide

end RuleBench.Expr
