import Mathlib.Data.List.TakeWhile
import RuleBench.Proofs.Expr.Characters
import RuleBench.Proofs.Expr.Grammar

set_option autoImplicit false

/-!
# Tokens at the front of a text

Where a token stands at the front of a text, reading it leaves what follows.  Two tokens stand at
one front only if they agree as far as the shorter one goes.
-/

namespace RuleBench.Expr

/-! ## Blanks -/

theorem spaces_nil : Spaces [] := fun _ h => absurd h List.not_mem_nil

theorem spaces_blank : Spaces [' '] := by simp [Spaces, isSpace]

theorem skipSpaces_append {w : List Char} (h : Spaces w) (s : List Char) :
    skipSpaces (w ++ s) = skipSpaces s :=
  List.dropWhile_append_of_pos h

theorem skipSpaces_cons {c : Char} (h : isSpace c = false) (s : List Char) :
    skipSpaces (c :: s) = c :: s := by
  rw [skipSpaces, List.dropWhile_cons, if_neg (by simp [h])]

theorem exists_spaces (s : List Char) : ∃ w, Spaces w ∧ s = w ++ skipSpaces s :=
  ⟨s.takeWhile isSpace, fun _ h => List.mem_takeWhile_imp h, List.takeWhile_append_dropWhile.symm⟩

theorem skipSpaces_cases (s : List Char) :
    skipSpaces s = [] ∨ ∃ c rest, skipSpaces s = c :: rest ∧ isSpace c = false := by
  have hc := List.head?_dropWhile_not isSpace s
  cases h : s.dropWhile isSpace with
  | nil => exact .inl h
  | cons c rest =>
    rw [h] at hc
    exact .inr ⟨c, rest, h, hc⟩

theorem skipSpaces_skipSpaces (s : List Char) : skipSpaces (skipSpaces s) = skipSpaces s := by
  rcases skipSpaces_cases s with h | ⟨c, rest, h, hc⟩
  · rw [h]
    rfl
  · rw [h, skipSpaces_cons hc]

theorem Spaces.append {w v : List Char} (hw : Spaces w) (hv : Spaces v) : Spaces (w ++ v) := by
  intro c hc
  rcases List.mem_append.mp hc with hc | hc
  · exact hw c hc
  · exact hv c hc

/-! ## One token -/

theorem afterToken?_eq_some_iff {token s rest : List Char} :
    afterToken? token s = some rest ↔
      ∃ w, s = w ++ rest ∧ Text.sameLetters token w = true := by
  induction token generalizing s with
  | nil =>
    constructor
    · intro h
      exact ⟨[], Option.some.inj h, rfl⟩
    · rintro ⟨w, rfl, hw⟩
      cases w with
      | nil => rfl
      | cons c w => cases hw
  | cons t ts ih =>
    constructor
    · intro h
      cases s with
      | nil => cases h
      | cons c s =>
        simp only [afterToken?] at h
        split at h
        · rename_i hc
          obtain ⟨w, rfl, hw⟩ := ih.mp h
          exact ⟨c :: w, rfl, by simp [Text.sameLetters, hc, hw]⟩
        · cases h
    · rintro ⟨w, rfl, hw⟩
      cases w with
      | nil => cases hw
      | cons c w =>
        simp only [Text.sameLetters, Bool.and_eq_true] at hw
        simp only [List.cons_append, afterToken?, hw.1, ↓reduceIte]
        exact ih.mpr ⟨w, rfl, hw.2⟩

theorem afterToken?_append {spelling : String} {w : List Char} (h : Spells spelling w)
    (rest : List Char) : afterToken? spelling.toList (w ++ rest) = some rest :=
  afterToken?_eq_some_iff.mpr ⟨w, rfl, h⟩

/-- A token that does not begin with a blank. -/
def isSolid : List Char → Bool
  | [] => false
  | t :: _ => [' ', '\t', '\r', '\n'].all fun c => !Text.sameLetter t c

theorem Spells.exists_cons {spelling : String} {w : List Char}
    (solid : isSolid spelling.toList = true) (h : Spells spelling w) :
    ∃ c rest, w = c :: rest ∧ isSpace c = false := by
  unfold Spells at h
  cases hs : spelling.toList with
  | nil => simp [hs, isSolid] at solid
  | cons t ts =>
    rw [hs] at h solid
    cases w with
    | nil => cases h
    | cons c w =>
      refine ⟨c, w, rfl, Bool.eq_false_iff.mpr fun hc => ?_⟩
      have hsame : Text.sameLetter t c = true := by
        simp only [Text.sameLetters, Bool.and_eq_true] at h
        exact h.1
      simp only [isSolid, List.all_cons, List.all_nil, Bool.and_true, Bool.and_eq_true,
        Bool.not_eq_true'] at solid
      rcases eq_of_isSpace hc with rfl | rfl | rfl | rfl <;> simp_all

theorem skipSpaces_spells {spelling : String} {w : List Char}
    (solid : isSolid spelling.toList = true) (h : Spells spelling w) (rest : List Char) :
    skipSpaces (w ++ rest) = w ++ rest := by
  obtain ⟨c, v, rfl, hc⟩ := h.exists_cons solid
  exact skipSpaces_cons hc _

theorem Spaced.skipSpaces_append {spelling : String} {w : List Char}
    (solid : isSolid spelling.toList = true) (h : Spaced (Spells spelling) w) (rest : List Char) :
    ∃ core after, Spells spelling core ∧ Spaces after ∧
      skipSpaces (w ++ rest) = core ++ (after ++ rest) := by
  obtain ⟨before, core, after, hb, hc, ha, rfl⟩ := h
  refine ⟨core, after, hc, ha, ?_⟩
  rw [List.append_assoc, List.append_assoc, Expr.skipSpaces_append hb, skipSpaces_spells solid hc]

theorem spaced_self (spelling : String) (h : Spells spelling spelling.toList) :
    Spaced (Spells spelling) spelling.toList :=
  ⟨[], spelling.toList, [], spaces_nil, h, spaces_nil, by simp⟩

theorem afterSpaced?_append {spelling : String} {w : List Char}
    (solid : isSolid spelling.toList = true) (h : Spaced (Spells spelling) w) (rest : List Char) :
    afterSpaced? spelling (w ++ rest) = some (skipSpaces rest) := by
  obtain ⟨core, after, hc, ha, hskip⟩ := h.skipSpaces_append solid rest
  rw [afterSpaced?, hskip, afterToken?_append hc, Option.map_some, skipSpaces_append ha]

/-- A token takes at least one character away. -/
theorem Spaced.length_lt {spelling : String} {w : List Char}
    (solid : isSolid spelling.toList = true) (h : Spaced (Spells spelling) w) (rest : List Char) :
    rest.length < (skipSpaces (w ++ rest)).length := by
  obtain ⟨core, after, hc, -, hskip⟩ := h.skipSpaces_append solid rest
  obtain ⟨c, core, rfl, -⟩ := hc.exists_cons solid
  rw [hskip]
  simp only [List.cons_append, List.length_cons, List.length_append]
  omega

theorem Spells.eq_of_symbol {spelling : String} {c : Char} {w : List Char}
    (hs : spelling.toList = [c]) (hc : Text.asciiLetter c = false) (h : Spells spelling w) :
    w = [c] := by
  unfold Spells at h
  rw [hs] at h
  cases w with
  | nil => cases h
  | cons d w =>
    simp only [Text.sameLetters, Bool.and_eq_true] at h
    rw [eq_of_sameLetter h.1 hc]
    cases w with
    | nil => rfl
    | cons => cases h.2

theorem afterSpaced?_congr {s s' : List Char} (h : skipSpaces s = skipSpaces s')
    (spelling : String) : afterSpaced? spelling s = afterSpaced? spelling s' := by
  rw [afterSpaced?, afterSpaced?, h]

theorem afterSpaced?_sound {spelling : String} {s rest : List Char}
    (h : afterSpaced? spelling s = some rest) :
    skipSpaces rest = rest ∧ ∃ w, s = w ++ rest ∧ Spaced (Spells spelling) w := by
  obtain ⟨r, hr, rfl⟩ := Option.map_eq_some_iff.mp h
  obtain ⟨core, hcore, hspells⟩ := afterToken?_eq_some_iff.mp hr
  obtain ⟨before, hb, hs⟩ := exists_spaces s
  obtain ⟨after, ha, hrest⟩ := exists_spaces r
  refine ⟨skipSpaces_skipSpaces r, before ++ core ++ after, ?_, before, core, after, hb, hspells,
    ha, rfl⟩
  rw [hs, hcore]
  simp only [List.append_assoc, ← hrest]

/-! ## Several tokens -/

/-- Two tokens agree as far as the shorter one goes. -/
def agree : List Char → List Char → Bool
  | a :: s, b :: t => Text.sameLetter a b && agree s t
  | _, _ => true

theorem agree_of_afterToken? {t u s r r' : List Char} (ht : afterToken? t s = some r)
    (hu : afterToken? u s = some r') : agree t u = true := by
  induction t generalizing u s with
  | nil => cases u <;> rfl
  | cons a t ih =>
    cases u with
    | nil => rfl
    | cons b u =>
      cases s with
      | nil => cases ht
      | cons c s =>
        simp only [afterToken?] at ht hu
        split at ht
        · rename_i ha
          split at hu
          · rename_i hb
            simp only [agree, Bool.and_eq_true]
            refine ⟨?_, ih ht hu⟩
            simp only [Text.sameLetter, beq_iff_eq] at ha hb ⊢
            rw [ha, hb]
          · cases hu
        · cases ht

theorem afterToken?_eq_none {t u s r : List Char} (hu : afterToken? u s = some r)
    (h : agree t u = false) : afterToken? t s = none := by
  cases ht : afterToken? t s with
  | none => rfl
  | some r' =>
    rw [agree_of_afterToken? ht hu] at h
    cases h

theorem afterSpaced?_eq_none {t u : String} {s r : List Char} (hu : afterSpaced? u s = some r)
    (h : agree t.toList u.toList = false) : afterSpaced? t s = none := by
  obtain ⟨r', hr, -⟩ := Option.map_eq_some_iff.mp hu
  rw [afterSpaced?, afterToken?_eq_none hr h, Option.map_none]

theorem firstToken?_sound {α : Type} {table : List (String × α)} {s rest : List Char} {a : α}
    (h : firstToken? table s = some (a, rest)) :
    ∃ spelling, (spelling, a) ∈ table ∧ afterSpaced? spelling s = some rest := by
  induction table with
  | nil => cases h
  | cons entry table ih =>
    obtain ⟨spelling, b⟩ := entry
    simp only [firstToken?] at h
    split at h
    · rename_i r hr
      cases h
      exact ⟨spelling, List.mem_cons_self, hr⟩
    · obtain ⟨spelling', hm, hs⟩ := ih h
      exact ⟨spelling', List.mem_cons_of_mem _ hm, hs⟩

/-- The first token that stands at the front is found, where none before it in the table does. -/
theorem firstToken?_of_mem {α : Type} {table : List (String × α)} {spelling : String} {a : α}
    {s rest : List Char}
    (hp : table.Pairwise fun a b =>
      afterSpaced? b.1 s = some rest → afterSpaced? a.1 s = none)
    (hm : (spelling, a) ∈ table) (h : afterSpaced? spelling s = some rest) :
    firstToken? table s = some (a, rest) := by
  induction table with
  | nil => cases hm
  | cons entry table ih =>
    obtain ⟨hfirst, hrest⟩ := List.pairwise_cons.mp hp
    rcases List.mem_cons.mp hm with rfl | hm
    · simp only [firstToken?, h]
    · have hnone := hfirst (spelling, a) hm h
      simp only [firstToken?, hnone]
      exact ih hrest hm

theorem firstToken?_eq_none {α : Type} {table : List (String × α)} {s : List Char}
    (h : ∀ entry ∈ table, afterSpaced? entry.1 s = none) : firstToken? table s = none := by
  induction table with
  | nil => rfl
  | cons entry table ih =>
    obtain ⟨spelling, b⟩ := entry
    have hnone : afterSpaced? spelling s = none := h _ List.mem_cons_self
    simp only [firstToken?, hnone]
    exact ih fun entry' hm => h entry' (List.mem_cons_of_mem _ hm)

/-! ## Names -/

theorem name?_sound {s n rest : List Char} (h : name? s = some (n, rest)) :
    s = n ++ rest ∧ Name n := by
  unfold name? at h
  split at h
  · cases h
  · rename_i c s
    split at h
    · rename_i hc
      cases h
      refine ⟨?_, c, _, rfl, hc, fun d hd => List.mem_takeWhile_imp hd⟩
      rw [List.cons_append, List.takeWhile_append_dropWhile]
    · cases h

theorem takeWhile_append_stop {p : Char → Bool} {w rest : List Char} (hw : ∀ c ∈ w, p c = true)
    (hr : ∀ c ∈ rest.head?, p c = false) : (w ++ rest).takeWhile p = w := by
  rw [List.takeWhile_append_of_pos hw]
  cases rest with
  | nil => simp
  | cons c rest => simp [hr c rfl]

theorem dropWhile_append_stop {p : Char → Bool} {w rest : List Char} (hw : ∀ c ∈ w, p c = true)
    (hr : ∀ c ∈ rest.head?, p c = false) : (w ++ rest).dropWhile p = rest := by
  rw [List.dropWhile_append_of_pos hw]
  cases rest with
  | nil => rfl
  | cons c rest => simp [hr c rfl]

theorem Name.name?_append {n rest : List Char} (h : Name n)
    (hr : ∀ c ∈ rest.head?, inName c = false) : name? (n ++ rest) = some (n, rest) := by
  obtain ⟨c, n, rfl, hc, hn⟩ := h
  simp only [List.cons_append, name?, hc, ↓reduceIte, takeWhile_append_stop hn hr,
    dropWhile_append_stop hn hr]

end RuleBench.Expr
