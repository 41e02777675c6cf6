import RuleBench.Proofs.Expr.Soundness

set_option autoImplicit false

/-!
# Chains

What the layers of the parser join are trees that fit.  So it is the height of its tree alone that
lets a chain be read or not: one that is too long leaves no room even for a leaf at its front.
-/

namespace RuleBench.Expr

/-! ## What is joined -/

theorem Layers.sound_ofLevel {level : Nat} (h : level ≤ maxDepth) :
    (Layers.ofLevel (level + 1)).Sound (level + 1) := by
  rw [ofLevel, Nat.add_sub_add_right]
  rcases Nat.lt_or_eq_of_le h with hlt | rfl
  · obtain ⟨room, hroom⟩ : ∃ room, maxDepth - level = room + 1 :=
      Nat.exists_eq_succ_of_ne_zero (by omega)
    rw [hroom, below]
    exact withRoom_sound (by omega)
  · rw [Nat.sub_self, below]
    exact sound_closed _

theorem Layer.sound_parser {level : Nat} (h : level ≤ maxDepth) (layer : Layer) :
    Sound level layer (layer.parser (.ofLevel (level + 1))) := by
  have hbelow := Layers.sound_ofLevel h
  have hunary := unaryAt_sound h hbelow
  have hproduct := chain_sound .product trivial hunary
  have hsum := chain_sound .sum trivial hproduct
  have hnegation := negationAt_sound h hbelow
  cases layer with
  | disjunction => exact disjunctionAt_sound h hbelow
  | conjunction => exact chain_sound .conjunction trivial hnegation
  | negation => exact hnegation
  | comparison => exact comparison_sound hsum
  | sum => exact hsum
  | product => exact hproduct
  | unary => exact hunary
  | primary => exact primary_sound h hbelow

/-- Each right operand is one that the parser of operands has read. -/
theorem exists_read_of_mem_operands {ops : List (String × BinaryOp)} {operand : Parser Expr}
    {fuel : Nat} {s rest : List Char} {more : List (BinaryOp × Expr)}
    (h : operands ops operand fuel s = .done more rest) {m : BinaryOp × Expr} (hm : m ∈ more) :
    ∃ t r, operand t = .done m.2 r := by
  have stop : ∀ {s rest : List Char} {more : List (BinaryOp × Expr)}, m ∈ more →
      Outcome.done [] s = Outcome.done more rest → ∃ t r, operand t = .done m.2 r := by
    intro s rest more hm h
    cases h
    exact absurd hm List.not_mem_nil
  induction fuel generalizing s more with
  | zero => exact stop hm h
  | succ fuel ih =>
    simp only [operands] at h
    split at h
    · exact stop hm h
    · rename_i op r hop
      split at h
      · rename_i e r' he
        obtain ⟨more', r'', hmore, hdone⟩ := andThen_eq_done_iff.mp h
        cases hdone
        rcases List.mem_cons.mp hm with rfl | hm
        · exact ⟨r, r', he⟩
        · exact ih hmore hm
      · exact stop hm h
      · cases h

theorem Layer.joins {level : Nat} {layer : Layer} (hlevel : level ≤ maxDepth)
    (hl : layer.IsChain) {s r rest : List Char} {first : Expr} {more : List (BinaryOp × Expr)}
    (hfirst : layer.next.parser (.ofLevel (level + 1)) s = .done first r)
    (hmore : operands layer.table (layer.next.parser (.ofLevel (level + 1))) r.length r =
      .done more rest) :
    first.height ≤ maxDepth ∧ (∀ m ∈ more, m.2.height ≤ maxDepth) ∧
      layer.parser (.ofLevel (level + 1)) s = chainTree first more rest := by
  have hsound := layer.next.sound_parser hlevel
  refine ⟨(hsound _ _ _ hfirst).2.1, fun m hm => ?_, ?_⟩
  · obtain ⟨t, r', hread⟩ := exists_read_of_mem_operands hmore hm
    exact (hsound _ _ _ hread).2.1
  · rw [Layer.parser_of_isChain hl, chain, hfirst, Outcome.andThen, hmore, Outcome.andThen]

/-! ## What becomes of a chain -/

/-- To look at the length of a chain before its tree is built changes nothing, whatever its
operands.  So a chain is read exactly if its tree is not too high, as that tree and with the text
behind it as it was, and is too deep otherwise; the tree is not too high exactly if each operand
leaves room for the operators above it.  That much needs no more than an operand standing alone to
fit, and wherever a layer has operands to join, all of them do. -/
theorem chains_are_refused_for_height_alone :
    (∀ first more s, chainTree first more s =
      if more.isEmpty then .done first s else bounded (foldChain first more) s) ∧
    (∀ first more s, (more = [] → first.height ≤ maxDepth) →
      (∀ e rest, chainTree first more s = .done e rest ↔
        (foldChain first more).height ≤ maxDepth ∧ e = foldChain first more ∧ rest = s) ∧
      (chainTree first more s = .tooDeep ↔ maxDepth < (foldChain first more).height)) ∧
    (∀ first more, (foldChain first more).height ≤ maxDepth ↔
      first.height + more.length ≤ maxDepth ∧
        ∀ i (h : i < more.length), more[i].2.height + (more.length - i) ≤ maxDepth) ∧
    ∀ level layer, level ≤ maxDepth → Layer.IsChain layer → ∀ s first r more rest,
      layer.next.parser (.ofLevel (level + 1)) s = .done first r →
      operands layer.table (layer.next.parser (.ofLevel (level + 1))) r.length r =
        .done more rest →
      first.height ≤ maxDepth ∧ (∀ m ∈ more, m.2.height ≤ maxDepth) ∧
        layer.parser (.ofLevel (level + 1)) s = chainTree first more rest := by
  refine ⟨chainTree_eq_ite, fun first more s h => ?_,
    fun first more => height_foldChain_le_iff first more maxDepth, ?_⟩
  · rw [chainTree_eq_bounded h]
    exact ⟨fun e rest => bounded_eq_done_iff, (bounded_ends _ s).eq_tooDeep_iff⟩
  · intro level layer hlevel hl s first r more rest hfirst hmore
    exact Layer.joins hlevel hl hfirst hmore

/-- The last of 63 operators leaves its right operand a height of 63, and none higher. -/
theorem last_of_63_operators_joins_height_63 :
    let leaf : Expr := .field "a"
    let links (minuses : Nat) : List (BinaryOp × Expr) :=
      List.replicate 62 (.add, leaf) ++ [(.add, Nat.repeat .negate minuses leaf)]
    leaf.height ≤ maxDepth ∧ (∀ m ∈ links 62 ++ links 63, m.2.height ≤ maxDepth) ∧
      chainTree leaf (links 62) [] = .done (foldChain leaf (links 62)) [] ∧
      chainTree leaf (links 63) [] = .tooDeep ∧
      Layer.product.parser (.ofLevel 2) "a + b".toList = .done (.field "a") "+ b".toList ∧
      operands sumOps (Layer.product.parser (.ofLevel 2)) 3 "+ b".toList =
        .done [(.add, .field "b")] [] ∧
      Layer.sum.parser (.ofLevel 2) "a + b".toList =
        chainTree (.field "a") [(.add, .field "b")] [] := by
  intro leaf links
  obtain ⟨-, houtcome, -, hjoins⟩ := chains_are_refused_for_height_alone
  have hleaf : leaf.height ≤ maxDepth := by decide
  have hlinks : ∀ m ∈ links 62 ++ links 63, m.2.height ≤ maxDepth := by decide +kernel
  have hfits : (foldChain leaf (links 62)).height ≤ maxDepth := by decide +kernel
  have hhigh : maxDepth < (foldChain leaf (links 63)).height := by decide +kernel
  have hfirst : Layer.product.parser (.ofLevel 2) "a + b".toList =
      .done (.field "a") "+ b".toList := rfl
  have hmore : operands sumOps (Layer.product.parser (.ofLevel 2)) 3 "+ b".toList =
      .done [(.add, .field "b")] [] := rfl
  exact ⟨hleaf, hlinks, ((houtcome _ _ _ fun _ => hleaf).1 _ _).mpr ⟨hfits, rfl, rfl⟩,
    (houtcome _ _ _ fun _ => hleaf).2.mpr hhigh, hfirst, hmore,
    (hjoins 1 .sum (by decide) trivial _ _ _ _ _ hfirst hmore).2.2⟩

end RuleBench.Expr
