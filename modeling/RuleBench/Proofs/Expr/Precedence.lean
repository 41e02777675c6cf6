import RuleBench.Proofs.Expr.Follow

set_option autoImplicit false

/-!
# Precedence

What is derived in one layer is derived in every looser one, and a chain takes a further operator of
its layer at its right end.
-/

namespace RuleBench

namespace BinaryOp

def layer : BinaryOp → Expr.Layer
  | .or => .disjunction
  | .and => .conjunction
  | .equal | .notEqual | .less | .lessEqual | .greater | .greaterEqual | .contains => .comparison
  | .add | .subtract => .sum
  | .multiply | .divide => .product

/-- The layer of a left operand; a comparison takes no other one there. -/
def leftLayer (op : BinaryOp) : Expr.Layer :=
  match op.layer with
  | .comparison => .sum
  | layer => layer

theorem layer_of_mem_operators {op : BinaryOp} {layer : Expr.Layer} (h : op ∈ layer.operators) :
    op.layer = layer := by
  have hall : ∀ op ∈ layer.operators, op.layer = layer := by
    cases layer <;> simp [Expr.Layer.operators, BinaryOp.layer]
  exact hall op h

theorem mem_operators (op : BinaryOp) : op ∈ op.layer.operators := by cases op <;> decide

theorem leftLayer_of_isChain {op : BinaryOp} (h : op.layer.IsChain) : op.leftLayer = op.layer := by
  cases op <;> first | rfl | exact h.elim

theorem isChain_or_comparison (op : BinaryOp) :
    op.layer.IsChain ∨ op.layer = .comparison := by
  cases op <;> first | exact .inl trivial | exact .inr rfl

theorem symbol_mem_spellings (op : BinaryOp) : op.symbol ∈ Expr.spellings op := by
  cases op <;> decide

end BinaryOp

namespace Expr

/-- The tightest layer of a tree. -/
def layer : Expr → Layer
  | .not _ => .negation
  | .negate _ => .unary
  | .binary op _ _ => op.layer
  | _ => .primary

namespace Layer

/-- The place of a layer, from the loosest on. -/
def rank : Layer → Nat
  | .disjunction => 0
  | .conjunction => 1
  | .negation => 2
  | .comparison => 3
  | .sum => 4
  | .product => 5
  | .unary => 6
  | .primary => 7

theorem rank_le_rank_primary (layer : Layer) : layer.rank ≤ Layer.primary.rank := by
  cases layer <;> decide

theorem eq_of_rank_eq {layer layer' : Layer} (h : layer.rank = layer'.rank) : layer = layer' := by
  cases layer <;> cases layer' <;> first | rfl | exact absurd h (by decide)

theorem rank_next {layer : Layer} (h : layer ≠ .primary) : layer.next.rank = layer.rank + 1 := by
  cases layer <;> first | rfl | exact absurd rfl h

end Layer

variable {level : Nat} {layer : Layer} {e : Expr} {w v t : List Char}

theorem Derives.loosen (h : Derives level (.tree layer.next e) w) :
    Derives level (.tree layer e) w := by
  have alone : layer.IsChain → Derives level (.tree layer e) w := by
    intro hl
    have hchain := Derives.chain hl h .noLink
    rwa [List.append_nil] at hchain
  cases layer with
  | disjunction | conjunction | sum | product => exact alone trivial
  | negation => exact .unnegated h
  | comparison => exact .uncompared h
  | unary => exact .unsigned h
  | primary => exact h

theorem Derives.of_rank_le (layer' : Layer) (h : Derives level (.tree layer e) w)
    (hr : layer'.rank ≤ layer.rank) : Derives level (.tree layer' e) w := by
  rcases Nat.eq_or_lt_of_le hr with heq | hlt
  · rwa [Layer.eq_of_rank_eq heq]
  · have hne : layer' ≠ .primary := by
      rintro rfl
      exact absurd (Layer.rank_le_rank_primary layer) (Nat.not_le.mpr hlt)
    have hnext := Layer.rank_next hne
    exact (h.of_rank_le layer'.next (by omega)).loosen
termination_by layer.rank - layer'.rank

/-! ## Chains -/

theorem Derives.exists_chain (hl : layer.IsChain) (h : Derives level (.tree layer e) w) :
    ∃ first more u v, e = foldChain first more ∧ w = u ++ v ∧
      Derives level (.tree layer.next first) u ∧ Derives level (.links layer more) v := by
  cases h with
  | chain _ first rest => exact ⟨_, _, _, _, rfl, rfl, first, rest⟩
  | not | unnegated | compare | uncompared | minus | unsigned | parentheses | atom | call =>
    exact hl.elim

theorem Derives.append_links {more more' : List (BinaryOp × Expr)}
    (h : Derives level (.links layer more) w) (h' : Derives level (.links layer more') v) :
    Derives level (.links layer (more ++ more')) (w ++ v) := by
  generalize hphrase : Phrase.links layer more = phrase at h
  induction h generalizing more with
  | noLink =>
    cases hphrase
    exact h'
  | link ht operand _ _ ih =>
    cases hphrase
    rw [List.append_assoc, List.append_assoc]
    exact .link ht operand (ih h' rfl)
  | _ => cases hphrase

theorem Derives.snoc {op : BinaryOp} {x y : Expr} (hl : layer.IsChain)
    (hx : Derives level (.tree layer x) w) (ht : Operator layer op t)
    (hy : Derives level (.tree layer.next y) v) :
    Derives level (.tree layer (.binary op x y)) (w ++ (t ++ v)) := by
  obtain ⟨first, more, u, u', rfl, rfl, hfirst, hmore⟩ := hx.exists_chain hl
  have hlinks := hmore.append_links (.link ht hy .noLink)
  have hchain := Derives.chain hl hfirst hlinks
  rw [List.append_nil] at hchain
  rw [List.append_assoc]
  simpa only [foldChain, List.foldl_append, List.foldl_cons, List.foldl_nil] using hchain

end Expr

end RuleBench
