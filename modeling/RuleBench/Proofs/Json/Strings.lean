import Mathlib.Data.String.Basic
import RuleBench.Proofs.Json.Yields

set_option autoImplicit false

/-!
# Strings read back

Every string is read back from its text, whatever follows, and is passed over to its end.
-/

namespace RuleBench.Json

theorem hex4_control : ∀ n : Fin 32,
    hex4 n = ['0', '0', Nat.digitChar (n / 16), Nat.digitChar (n % 16)] ∧
      hexNumber? '0' '0' (Nat.digitChar (n / 16)) (Nat.digitChar (n % 16)) = some n.val := by
  decide

/-- What stands for a character in a string: a letter after a backslash, four hexadecimal digits
after one, or the character itself. -/
theorem escapeChar_cases (c : Char) :
    (∃ e, escapeChar c = ['\\', e] ∧ e ≠ 'u' ∧ simpleEscape? e = some c) ∨
    (∃ a b, escapeChar c = ['\\', 'u', '0', '0', a, b] ∧ hexNumber? '0' '0' a b = some c.toNat ∧
      c.toNat < 32) ∨
    (escapeChar c = [c] ∧ c ≠ '"' ∧ c ≠ '\\' ∧ 32 ≤ c.toNat) := by
  unfold escapeChar
  split
  · exact .inl ⟨_, rfl, by decide, rfl⟩
  · exact .inl ⟨_, rfl, by decide, rfl⟩
  · exact .inl ⟨_, rfl, by decide, rfl⟩
  · exact .inl ⟨_, rfl, by decide, rfl⟩
  · exact .inl ⟨_, rfl, by decide, rfl⟩
  · exact .inl ⟨_, rfl, by decide, rfl⟩
  · exact .inl ⟨_, rfl, by decide, rfl⟩
  · rename_i hquote hbackslash _ _ _ _ _
    by_cases h : c.toNat < 32
    · obtain ⟨hhex, hnumber⟩ := hex4_control ⟨c.toNat, h⟩
      rw [if_pos h, hhex]
      exact .inr (.inl ⟨_, _, rfl, hnumber, h⟩)
    · rw [if_neg h]
      exact .inr (.inr ⟨rfl, hquote, hbackslash, not_lt.mp h⟩)

theorem stringFrom_escapeChar (c : Char) (line column : Nat) (reversed rest : List Char) :
    ∃ column', stringFrom line column reversed (escapeChar c ++ rest) =
      stringFrom line column' (c :: reversed) rest := by
  rcases escapeChar_cases c with ⟨e, heq, hu, hsimple⟩ | ⟨a, b, heq, hnumber, hlt⟩ |
    ⟨heq, hquote, hbackslash, hle⟩
  · rw [heq, List.cons_append, List.cons_append, List.nil_append, stringFrom]
    · rw [hsimple]
      exact ⟨_, rfl⟩
    · exact fun _ _ _ _ _ h => absurd h hu
    · exact fun h => absurd h hu
  · have hlow : isLowSurrogate c.toNat = false := by
      rw [isLowSurrogate, Bool.and_eq_false_iff, decide_eq_false_iff_not]
      exact .inl (by omega)
    have hhigh : isHighSurrogate c.toNat = false := by
      rw [isHighSurrogate, Bool.and_eq_false_iff, decide_eq_false_iff_not]
      exact .inl (by omega)
    simp only [heq, List.cons_append, List.nil_append, stringFrom, hnumber, hlow, hhigh,
      Char.ofNat_toNat, Bool.false_eq_true, if_false]
    exact ⟨_, rfl⟩
  · rw [heq, List.cons_append, List.nil_append, stringFrom]
    · rw [if_neg (not_lt.mpr hle)]
      exact ⟨_, rfl⟩
    · exact hquote
    all_goals
      intros
      exact hbackslash ‹c = '\\'›

theorem skipStringFrom_escapeChar (c : Char) (drawn : Bool) (line column : Nat)
    (rest : List Char) :
    ∃ column', skipStringFrom drawn line column (escapeChar c ++ rest) =
      skipStringFrom drawn line column' rest := by
  rcases escapeChar_cases c with ⟨e, heq, hu, hsimple⟩ | ⟨a, b, heq, hnumber, -⟩ |
    ⟨heq, hquote, hbackslash, hle⟩
  · rw [heq, List.cons_append, List.cons_append, List.nil_append, skipStringFrom]
    · rw [hsimple]
      exact ⟨_, rfl⟩
    · exact fun _ _ _ _ _ h => absurd h hu
    · exact fun h => absurd h hu
  · simp only [heq, List.cons_append, List.nil_append, skipStringFrom, hnumber]
    exact ⟨_, rfl⟩
  · rw [heq, List.cons_append, List.nil_append, skipStringFrom]
    · rw [if_neg (not_lt.mpr hle)]
      exact ⟨_, rfl⟩
    · exact hquote
    all_goals
      intros
      exact hbackslash ‹c = '\\'›

theorem stringFrom_escaped (chars : List Char) (line column : Nat) (reversed rest : List Char) :
    ∃ column', stringFrom line column reversed (chars.flatMap escapeChar ++ '"' :: rest) =
      .ok ⟨chars.reverse ++ reversed, rest, column'⟩ := by
  induction chars generalizing column reversed with
  | nil => exact ⟨_, rfl⟩
  | cons c chars ih =>
    rw [List.flatMap_cons, List.append_assoc]
    obtain ⟨column', hc⟩ := stringFrom_escapeChar c line column reversed
      (chars.flatMap escapeChar ++ '"' :: rest)
    obtain ⟨column'', hrest⟩ := ih column' (c :: reversed)
    rw [hc, hrest, List.reverse_cons, List.append_assoc]
    exact ⟨_, rfl⟩

theorem skipStringFrom_escaped (chars : List Char) (drawn : Bool) (line column : Nat)
    (rest : List Char) :
    ∃ column', skipStringFrom drawn line column (chars.flatMap escapeChar ++ '"' :: rest) =
      .ok ⟨[], rest, column'⟩ := by
  induction chars generalizing column with
  | nil => exact ⟨_, rfl⟩
  | cons c chars ih =>
    rw [List.flatMap_cons, List.append_assoc]
    obtain ⟨column', hc⟩ := skipStringFrom_escapeChar c drawn line column
      (chars.flatMap escapeChar ++ '"' :: rest)
    rw [hc]
    exact ih column'

theorem stringText_append (s : String) (rest : List Char) :
    stringText s ++ rest = '"' :: (s.toList.flatMap escapeChar ++ '"' :: rest) := by
  simp [stringText]

namespace Scan.Yields

/-- What is made of the end of a string does not depend on its column. -/
theorem stringEnd {α : Type} {r : Cursor → Except Fault StringEnd} {f : StringEnd → Scan α}
    {text rest : List Char} {a : α} (reversed : List Char)
    (hr : ∀ c : Cursor, c.rest = text → ∃ column, r c = .ok ⟨reversed, rest, column⟩)
    (hf : ∀ column, Yields (f ⟨reversed, rest, column⟩) rest a rest) :
    Yields (Scan.stringEnd r >>= f) text a rest := by
  intro c hc
  obtain ⟨column, hend⟩ := hr c hc
  obtain ⟨c', hc', hrest⟩ := hf column { c with rest, column, ahead := false } rfl
  refine ⟨c', ?_, hrest⟩
  change EStateM.bind (Scan.stringEnd r) f c = _
  rw [EStateM.bind, Scan.stringEnd, hend]
  exact hc'

theorem string (s : String) (rest : List Char) :
    Yields Scan.string (s.toList.flatMap escapeChar ++ '"' :: rest) s rest := by
  refine stringEnd (s.toList.reverse ++ []) (fun c hc => ?_) fun column => ?_
  · rw [hc]
    exact stringFrom_escaped s.toList c.line c.column [] rest
  · rw [List.append_nil, List.reverse_reverse, String.ofList_toList]
    exact pure s rest

theorem skipString (s : String) (rest : List Char) :
    Yields Scan.skipString (s.toList.flatMap escapeChar ++ '"' :: rest) () rest := by
  refine stringEnd [] (fun c hc => ?_) fun column => pure () rest
  rw [hc]
  exact skipStringFrom_escaped s.toList c.drawn c.line c.column rest

theorem memberName (s : String) (rest : List Char) :
    Yields Scan.memberName (stringText s ++ rest) s rest := by
  rw [stringText_append]
  exact (take _ _).bind (string s rest)

end Scan.Yields

end RuleBench.Json
