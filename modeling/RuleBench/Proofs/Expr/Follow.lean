import RuleBench.Proofs.Expr.Atoms
import RuleBench.Proofs.Expr.Layers

set_option autoImplicit false

/-!
# What may follow a phrase

After a phrase comes the end, a closing parenthesis, a comma or an operator of a layer that is
looser.  None of them goes on with an atom, or is an operator of the phrase's own layer.
-/

namespace RuleBench.Expr

namespace Layer

def tokens (layer : Layer) : List String := layer.operators.flatMap spellings

def looser : Layer → List Layer
  | .disjunction => []
  | .conjunction => [.disjunction]
  | .negation | .comparison => [.disjunction, .conjunction]
  | .sum => [.disjunction, .conjunction, .comparison]
  | .product => [.disjunction, .conjunction, .comparison, .sum]
  | _ => [.disjunction, .conjunction, .comparison, .sum, .product]

def followers (layer : Layer) : List String := ")" :: "," :: layer.looser.flatMap tokens

end Layer

def Follows (layer : Layer) (s : List Char) : Prop :=
  s = [] ∨ ∃ token ∈ layer.followers, ∃ r, afterToken? token.toList s = some r

theorem Follows.of_spaced {layer : Layer} {token : String} (hm : token ∈ layer.followers)
    (solid : isSolid token.toList = true) {t : List Char} (h : Spaced (Spells token) t)
    (rest : List Char) : Follows layer (skipSpaces (t ++ rest)) := by
  obtain ⟨r, hr, -⟩ := Option.map_eq_some_iff.mp (afterSpaced?_append solid h rest)
  exact .inr ⟨token, hm, r, hr⟩

theorem Follows.mono {layer layer' : Layer} (hl : layer.followers ⊆ layer'.followers)
    {s : List Char} (h : Follows layer s) : Follows layer' s :=
  h.imp_right fun ⟨token, hm, hr⟩ => ⟨token, hl hm, hr⟩

theorem Layer.followers_subset_next (layer : Layer) :
    layer.followers ⊆ layer.next.followers := by
  have hall : ∀ token ∈ layer.followers, token ∈ layer.next.followers := by
    cases layer <;> decide
  exact fun token hm => hall token hm

theorem Follows.next {layer : Layer} {s : List Char} (h : Follows layer s) :
    Follows layer.next s :=
  h.mono layer.followers_subset_next

theorem isSolid_of_mem_spellings {op : BinaryOp} {spelling : String}
    (h : spelling ∈ spellings op) : isSolid spelling.toList = true := by
  have hall : ∀ spelling ∈ spellings op, isSolid spelling.toList = true := by
    cases op <;> decide
  exact hall spelling h

theorem Layer.mem_followers_next {layer : Layer} {op : BinaryOp} (ho : op ∈ layer.operators)
    {spelling : String} (hs : spelling ∈ spellings op) : spelling ∈ layer.next.followers := by
  have hall : ∀ op ∈ layer.operators, ∀ spelling ∈ spellings op,
      spelling ∈ layer.next.followers := by
    cases layer <;> decide
  exact hall op ho spelling hs

theorem Operator.follows {layer : Layer} {op : BinaryOp} {t : List Char}
    (h : Operator layer op t) (rest : List Char) :
    Follows layer.next (skipSpaces (t ++ rest)) := by
  obtain ⟨ho, spelling, hs, ht⟩ := h
  exact .of_spaced (Layer.mem_followers_next ho hs) (isSolid_of_mem_spellings hs) ht rest

/-- No operator of a layer stands where something follows that layer. -/
theorem Follows.firstToken?_table {layer : Layer} {s : List Char}
    (h : Follows layer (skipSpaces s)) : firstToken? layer.table s = none := by
  refine firstToken?_eq_none fun entry hm => ?_
  unfold afterSpaced?
  rcases h with h | ⟨token, htoken, r, hr⟩
  · have hsolid : isSolid entry.1.toList = true :=
      isSolid_of_mem_spellings (Layer.mem_table_iff.mp hm).2
    rw [h]
    cases hs : entry.1.toList with
    | nil => simp [hs, isSolid] at hsolid
    | cons => rfl
  · have hall : ∀ token ∈ layer.followers, ∀ entry ∈ layer.table,
        agree entry.1.toList token.toList = false := by
      cases layer <;> decide
    rw [afterToken?_eq_none hr (hall token htoken entry hm)]
    rfl

/-! ## The ends of atoms -/

/-- A token before which an atom ends. -/
def endsAtom : List Char → Bool
  | '.' :: t :: _ => Text.asciiLetter t
  | t :: _ => t != '.' && !Text.asciiLetter t && !inName t
  | [] => false

theorem endsAtom_of_mem_followers {token : String} (h : token ∈ Layer.primary.followers) :
    endsAtom token.toList = true := by
  revert token
  decide

theorem head_of_endsAtom {token s r : List Char} (he : endsAtom token = true)
    (h : afterToken? token s = some r) :
    ∃ c tail, s = c :: tail ∧ inName c = false ∧
      (c = '.' → ∀ d ∈ tail.head?, Text.asciiDigit d = false) := by
  obtain ⟨w, rfl, hw⟩ := afterToken?_eq_some_iff.mp h
  unfold endsAtom at he
  split at he
  · rename_i t ts
    cases w with
    | nil => cases hw
    | cons c w =>
      simp only [Text.sameLetters, Bool.and_eq_true] at hw
      have hc := eq_of_sameLetter hw.1 (by decide)
      subst hc
      refine ⟨'.', w ++ r, rfl, by decide, ?_⟩
      intro _ d hd
      cases w with
      | nil => cases hw.2
      | cons d' w =>
        cases hd
        simp only [Text.sameLetters, Bool.and_eq_true] at hw
        refine Bool.eq_false_iff.mpr fun hdigit => ?_
        have hstart := startsName_of_asciiLetter (asciiLetter_of_sameLetter hw.2.1 he)
        rw [startsName_of_asciiDigit hdigit] at hstart
        cases hstart
  · rename_i t ts hpoint
    simp only [Bool.and_eq_true, bne_iff_ne, ne_eq, Bool.not_eq_true'] at he
    obtain ⟨⟨hdot, hletter⟩, hin⟩ := he
    cases w with
    | nil => cases hw
    | cons c w =>
      simp only [Text.sameLetters, Bool.and_eq_true] at hw
      have hc := eq_of_sameLetter hw.1 hletter
      subst hc
      exact ⟨c, w ++ r, rfl, hin, fun heq => absurd heq hdot⟩
  · cases he

theorem startsName_eq_false_of_inName {c : Char} (h : inName c = false) :
    startsName c = false := by
  refine Bool.eq_false_iff.mpr fun hs => ?_
  rw [inName_of_startsName hs] at h
  cases h

theorem Follows.stops {rest : List Char} (h : Follows .primary (skipSpaces rest)) :
    Stops rest := by
  have head : ∀ c tail, skipSpaces rest = c :: tail → inName c = false ∧
      (c = '.' → ∀ d ∈ tail.head?, Text.asciiDigit d = false) := by
    intro c tail hs
    rcases h with h | ⟨token, hm, r, hr⟩
    · rw [h] at hs
      cases hs
    · obtain ⟨c', tail', hs', hin⟩ := head_of_endsAtom (endsAtom_of_mem_followers hm) hr
      rw [hs] at hs'
      cases hs'
      exact hin
  constructor
  · intro c hc
    obtain ⟨tail, hs⟩ := List.head?_eq_some_iff.mp hc
    by_cases hspace : isSpace c = true
    · exact inName_of_isSpace hspace
    · refine (head c tail ?_).1
      rw [hs]
      exact skipSpaces_cons (Bool.eq_false_iff.mpr hspace) tail
  · intro tail hs
    refine (head '.' tail ?_).2 rfl
    rw [hs]
    exact skipSpaces_cons (by decide) tail
  · cases hs : skipSpaces rest with
    | nil => rfl
    | cons c tail =>
      simp [name?, startsName_eq_false_of_inName (head c tail hs).1]
  · unfold afterSpaced?
    rcases h with h | ⟨token, hm, r, hr⟩
    · rw [h]
      rfl
    · have hall : ∀ token ∈ Layer.primary.followers,
          agree "(".toList token.toList = false := by decide
      rw [afterToken?_eq_none hr (hall token hm)]
      rfl

end RuleBench.Expr
