import RuleBench.Proofs.Json.Yields

set_option autoImplicit false

/-!
# Numbers read back

Every whole number is read back from its text.  Of a double this is a matter of arithmetic, left
open here: what is shown is that its text is read inside a larger one as it is read by itself.
-/

namespace RuleBench.Json

theorem Stops.asciiDigit {rest : List Char} (h : Stops rest) :
    rest.head?.map Text.asciiDigit ≠ some true := by
  match rest, h with
  | [], _ => nofun
  | c :: _, h => cases h <;> nofun

theorem digitsFrom_append {digits : List Char} (h : ∀ c ∈ digits, Text.asciiDigit c = true)
    (n count : Nat) {rest : List Char} (hrest : rest.head?.map Text.asciiDigit ≠ some true) :
    digitsFrom n count (digits ++ rest) =
      (Nat.ofDigitChars 10 digits n, count + digits.length, rest) := by
  induction digits generalizing n count with
  | nil =>
    cases rest with
    | nil => rfl
    | cons c rest =>
      have hc : ¬ Text.asciiDigit c = true := fun hc => hrest (congrArg some hc)
      simp only [List.nil_append, digitsFrom, if_neg hc]
      rfl
  | cons c digits ih =>
    obtain ⟨hc, hdigits⟩ := List.forall_mem_cons.mp h
    rw [List.cons_append, digitsFrom, if_pos hc, ih hdigits, Nat.ofDigitChars_cons,
      List.length_cons]
    congr 2
    omega

theorem asciiDigit_toDigits (n : Nat) : ∀ c ∈ Nat.toDigits 10 n, Text.asciiDigit c = true :=
  fun _ hc => Nat.isDigit_of_mem_toDigits (by decide) (by decide) hc

theorem digitChar_ne_zero : ∀ n : Fin 10, n ≠ 0 → Nat.digitChar n ≠ '0' := by decide

/-- Only the text of zero starts with a zero. -/
theorem toDigits_cases (n : Nat) : (n = 0 ∧ Nat.toDigits 10 n = ['0']) ∨
    ∃ c digits, Nat.toDigits 10 n = c :: digits ∧ c ≠ '0' := by
  induction n using Nat.strongRecOn with
  | ind n ih =>
    rw [Nat.toDigits_eq_if (by decide)]
    split
    · rename_i hlt
      by_cases hzero : n = 0
      · subst hzero
        exact .inl ⟨rfl, rfl⟩
      · exact .inr ⟨n.digitChar, [], rfl,
          digitChar_ne_zero ⟨n, hlt⟩ fun h => hzero (congrArg Fin.val h)⟩
    · rename_i hle
      rcases ih (n / 10) (by omega) with ⟨hzero, -⟩ | ⟨c, digits, heq, hc⟩
      · omega
      · exact .inr ⟨c, digits ++ [(n % 10).digitChar], by rw [heq]; rfl, hc⟩

namespace Scan.Yields

theorem digits (n : Nat) {text rest : List Char} (h : ∀ c ∈ text, Text.asciiDigit c = true)
    (hrest : Stops rest) :
    Yields (Scan.digits n) (text ++ rest) (Nat.ofDigitChars 10 text n, text.length) rest := by
  intro c hc
  refine ⟨{ c with rest, column := c.column + text.length, ahead := !rest.isEmpty }, ?_, rfl⟩
  rw [Scan.digits, hc, digitsFrom_append h n 0 hrest.asciiDigit, Nat.zero_add]

theorem wholePart (n : Nat) {rest : List Char} (h : Stops rest) :
    Yields Scan.wholePart (Nat.toDigits 10 n ++ rest) n rest := by
  refine (peek _).bind ?_
  rcases toDigits_cases n with ⟨rfl, hzero⟩ | ⟨c, digits, heq, hc⟩
  · rw [hzero]
    refine (take '0' rest).bind ((peek rest).bind ?_)
    split
    · rename_i hdigit
      exact absurd hdigit h.asciiDigit
    · exact pure 0 rest
  · have hall := asciiDigit_toDigits n
    have hdigits := Yields.digits 0 hall h
    rw [Nat.ofDigitChars_ten_toDigits] at hdigits
    rw [heq] at hall hdigits ⊢
    simp only [List.cons_append, List.head?_cons]
    rw [if_pos (hall c List.mem_cons_self)]
    exact hdigits.bind (pure n rest)

theorem skipWholePart (n : Nat) {rest : List Char} (h : Stops rest) :
    Yields Scan.skipWholePart (Nat.toDigits 10 n ++ rest) () rest := by
  refine (peek _).bind ?_
  rcases toDigits_cases n with ⟨rfl, hzero⟩ | ⟨c, digits, heq, hc⟩
  · rw [hzero]
    refine (take '0' rest).bind ((peek rest).bind ?_)
    rw [if_neg (by rw [beq_iff_eq]; exact h.asciiDigit)]
    exact pure () rest
  · have hall := asciiDigit_toDigits n
    have hdigits := Yields.digits 0 hall h
    rw [heq] at hall hdigits ⊢
    simp only [List.cons_append, List.head?_cons]
    rw [if_pos (hall c List.mem_cons_self)]
    exact hdigits.bind (pure () rest)

theorem skipNumber (n : Nat) {rest : List Char} (h : Stops rest) :
    Yields Scan.skipNumber (Nat.toDigits 10 n ++ rest) () rest := by
  refine (skipWholePart n h).bind ((peek rest).bind ?_)
  match rest, h with
  | [], _ => exact pure () []
  | c :: rest, h => cases h <;> exact pure () _

theorem wholeNumber (w : Whole) (text : List Char) :
    Yields (Scan.wholeNumber (w.val < 0) w.val.natAbs) text (.whole w) text := by
  have hval : (if decide (w.val < 0) = true then -(w.val.natAbs : Int) else w.val.natAbs) =
      w.val := by
    split
    · rename_i h
      have hneg := of_decide_eq_true h
      omega
    · rename_i h
      have hpos := mt decide_eq_true h
      omega
  have hzero : ¬ ((decide (w.val < 0) && decide (w.val.natAbs = 0)) = true) := by
    simp only [Bool.and_eq_true, decide_eq_true_eq]
    omega
  rw [Scan.wholeNumber, if_neg hzero, hval, Whole.ofInt?_val]
  exact pure _ text

theorem number (w : Whole) {rest : List Char} (h : Stops rest) :
    Yields (Scan.number (w.val < 0)) (Nat.toDigits 10 w.val.natAbs ++ rest) (.whole w) rest := by
  refine (wholePart _ h).bind ((peek rest).bind ?_)
  match rest, h with
  | [], _ => exact wholeNumber w []
  | c :: rest, h => cases h <;> exact wholeNumber w _

end Scan.Yields

end RuleBench.Json
