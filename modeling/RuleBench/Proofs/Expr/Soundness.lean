import RuleBench.Proofs.Expr.Atoms
import RuleBench.Proofs.Expr.Layers

set_option autoImplicit false

/-!
# What is read is derived

The tree that a parser of a layer builds is one that the layer derives from the text it has used up,
and the blanks after that are used up too.
-/

namespace RuleBench.Expr

def Sound (level : Nat) (layer : Layer) (p : Parser Expr) : Prop :=
  ∀ s e rest, p s = .done e rest → level ≤ maxDepth ∧ e.height ≤ maxDepth ∧
    skipSpaces rest = rest ∧ ∃ w, s = w ++ rest ∧ Derives level (.tree layer e) w

/-- The layers of this level. -/
structure Layers.Sound (level : Nat) (layers : Layers) : Prop where
  disjunction : Expr.Sound level .disjunction layers.disjunction
  negation : Expr.Sound level .negation layers.negation
  unary : Expr.Sound level .unary layers.unary

theorem Layers.sound_closed (level : Nat) : Layers.closed.Sound level := by
  constructor <;> exact fun _ _ _ h => nomatch h

theorem Operator.of_firstToken? {l : Layer} {op : BinaryOp} {s rest : List Char}
    (h : firstToken? l.table s = some (op, rest)) :
    skipSpaces rest = rest ∧ ∃ t, s = t ++ rest ∧ Operator l op t := by
  obtain ⟨spelling, hm, hs⟩ := firstToken?_sound h
  obtain ⟨hskip, t, rfl, ht⟩ := afterSpaced?_sound hs
  obtain ⟨ho, hsp⟩ := Layer.mem_table_iff.mp hm
  exact ⟨hskip, t, rfl, ho, spelling, hsp, ht⟩

/-! ## Chains and comparisons -/

theorem operands_sound {level : Nat} {layer : Layer} {operand : Parser Expr}
    (hoperand : Sound level layer.next operand) {fuel : Nat} {s rest : List Char}
    {more : List (BinaryOp × Expr)} (hs : skipSpaces s = s)
    (h : operands layer.table operand fuel s = .done more rest) :
    skipSpaces rest = rest ∧ ∃ v, s = v ++ rest ∧ Derives level (.links layer more) v := by
  have stop : ∀ {s rest : List Char} {more : List (BinaryOp × Expr)}, skipSpaces s = s →
      Outcome.done [] s = Outcome.done more rest →
      skipSpaces rest = rest ∧ ∃ v, s = v ++ rest ∧ Derives level (.links layer more) v := by
    intro s rest more hs h
    cases h
    exact ⟨hs, [], rfl, .noLink⟩
  induction fuel generalizing s more with
  | zero => exact stop hs h
  | succ fuel ih =>
    simp only [operands] at h
    split at h
    · exact stop hs h
    · rename_i op r hop
      obtain ⟨-, t, rfl, ht⟩ := Operator.of_firstToken? hop
      split at h
      · rename_i e r' he
        obtain ⟨-, -, hskip, w, rfl, hw⟩ := hoperand r e r' he
        obtain ⟨more', r'', hmore, hdone⟩ := andThen_eq_done_iff.mp h
        cases hdone
        obtain ⟨hrest, v, rfl, hv⟩ := ih hskip hmore
        exact ⟨hrest, t ++ (w ++ v), by simp, .link ht hw hv⟩
      · exact stop hs h
      · cases h

theorem chain_sound {level : Nat} (layer : Layer) (hl : layer.IsChain) {operand : Parser Expr}
    (hoperand : Sound level layer.next operand) :
    Sound level layer (chain layer.table operand) := by
  intro s e rest h
  obtain ⟨first, r, hfirst, hrun⟩ := andThen_eq_done_iff.mp h
  obtain ⟨more, r', hmore, htree⟩ := andThen_eq_done_iff.mp hrun
  obtain ⟨hlevel, hheight, hskip, w, rfl, hw⟩ := hoperand s first r hfirst
  obtain ⟨hrest, v, rfl, hv⟩ := operands_sound hoperand hskip hmore
  obtain ⟨rfl, rfl, hle⟩ := chainTree_eq_done hheight htree
  exact ⟨hlevel, hle, hrest, w ++ v, by simp, .chain hl hw hv⟩

theorem comparison_sound {level : Nat} {operand : Parser Expr}
    (hoperand : Sound level .sum operand) :
    Sound level .comparison (comparison operand) := by
  intro s e rest h
  obtain ⟨left, r, hleft, hrun⟩ := andThen_eq_done_iff.mp h
  obtain ⟨hlevel, hheight, hskip, w, rfl, hw⟩ := hoperand s left r hleft
  have single : Outcome.done left r = Outcome.done e rest →
      level ≤ maxDepth ∧ e.height ≤ maxDepth ∧ skipSpaces rest = rest ∧
        ∃ v, w ++ r = v ++ rest ∧ Derives level (.tree .comparison e) v := by
    intro h
    cases h
    exact ⟨hlevel, hheight, hskip, w, rfl, .uncompared hw⟩
  split at hrun
  · exact single hrun
  · rename_i op more hop
    obtain ⟨-, t, rfl, ht⟩ := Operator.of_firstToken? (l := .comparison) hop
    split at hrun
    · rename_i right r' hright
      obtain ⟨-, -, hrest, v, rfl, hv⟩ := hoperand more right r' hright
      obtain ⟨hle, rfl, rfl⟩ := bounded_eq_done_iff.mp hrun
      exact ⟨hlevel, hle, hrest, w ++ (t ++ v), by simp, .compare hw ht hv⟩
    · exact single hrun
    · cases hrun

/-! ## What stands alone -/

section

variable {level : Nat} {below : Layers} (hlevel : level ≤ maxDepth)
  (hbelow : below.Sound (level + 1))

include hbelow in
theorem parenthesized_sound {before s rest : List Char} {e : Expr} (hb : Spaces before)
    (h : parenthesized below s = .done e rest) :
    e.height ≤ maxDepth ∧ skipSpaces rest = rest ∧
      ∃ w, s = w ++ rest ∧ Derives level (.tree .primary e) (before ++ w) := by
  unfold parenthesized at h
  split at h
  · rename_i s
    obtain ⟨e', r, he, hrun⟩ := andThen_eq_done_iff.mp h
    obtain ⟨hroom, hheight, -, w, rfl, hw⟩ := hbelow.disjunction _ _ _ he
    split at hrun
    · rename_i r' hclose
      cases hrun
      obtain ⟨hskip, u, rfl, hu⟩ := afterSpaced?_sound hclose
      have ht : Spaced (Spells "(") (before ++ ['(']) :=
        ⟨before, ['('], [], hb, rfl, by simp [Spaces], by simp⟩
      have hd := Derives.parentheses hroom ht hw hu
      exact ⟨hheight, hskip, '(' :: (w ++ u), by simp, by simpa using hd⟩
    · cases hrun
  · cases h

include hbelow in
theorem moreArguments_sound {fuel : Nat} {s rest : List Char} {args : List Expr}
    (h : moreArguments below.disjunction fuel s = .done args rest) :
    ∃ w, s = w ++ rest ∧ Derives level (.furtherArguments args) w := by
  induction fuel generalizing s args with
  | zero =>
    cases h
    exact ⟨[], rfl, .noFurtherArguments⟩
  | succ fuel ih =>
    simp only [moreArguments] at h
    split at h
    · rename_i r
      split at h
      · rename_i e r' he
        obtain ⟨hroom, -, -, w, rfl, hw⟩ := hbelow.disjunction _ _ _ he
        obtain ⟨more, r'', hmore, hdone⟩ := andThen_eq_done_iff.mp h
        cases hdone
        obtain ⟨v, rfl, hv⟩ := ih hmore
        have ht : Spaced (Spells ",") [','] :=
          ⟨[], [','], [], by simp [Spaces], rfl, by simp [Spaces], rfl⟩
        exact ⟨[','] ++ (w ++ v), by simp, .furtherArgument hroom ht hw hv⟩
      · cases h
        exact ⟨[], rfl, .noFurtherArguments⟩
      · cases h
    · cases h
      exact ⟨[], rfl, .noFurtherArguments⟩

include hbelow in
theorem arguments_sound {s rest : List Char} {args : List Expr}
    (h : arguments below.disjunction s = .done args rest) :
    ∃ w, s = w ++ rest ∧ Derives level (.arguments args) w := by
  unfold arguments at h
  split at h
  · rename_i e r he
    obtain ⟨hroom, -, -, w, rfl, hw⟩ := hbelow.disjunction _ _ _ he
    obtain ⟨more, r', hmore, hdone⟩ := andThen_eq_done_iff.mp h
    cases hdone
    obtain ⟨v, rfl, hv⟩ := moreArguments_sound hbelow hmore
    exact ⟨w ++ v, by simp, .someArguments hroom hw hv⟩
  · cases h
    exact ⟨[], rfl, .noArguments⟩
  · cases h

include hbelow in
theorem functionCall_sound {before s rest : List Char} {e : Expr} (hb : Spaces before)
    (h : functionCall below s = .done e rest) :
    e.height ≤ maxDepth ∧ skipSpaces rest = rest ∧
      ∃ w, s = w ++ rest ∧ Derives level (.tree .primary e) (before ++ w) := by
  unfold functionCall at h
  split at h
  · cases h
  · rename_i n r hname
    obtain ⟨rfl, -⟩ := name?_sound hname
    split at h
    · cases h
    · rename_i f hf
      split at h
      · cases h
      · rename_i r' hopen
        obtain ⟨-, t, rfl, ht⟩ := afterSpaced?_sound hopen
        obtain ⟨args, r'', hargs, hrun⟩ := andThen_eq_done_iff.mp h
        obtain ⟨w, rfl, hw⟩ := arguments_sound hbelow hargs
        split at hrun
        · rename_i r''' hclose
          obtain ⟨hskip, u, rfl, hu⟩ := afterSpaced?_sound hclose
          obtain ⟨hle, rfl, rfl⟩ := bounded_eq_done_iff.mp hrun
          refine ⟨hle, hskip, n ++ (t ++ (w ++ u)), by simp, ?_⟩
          exact .call hb (Function.spells_of_ofName? hf) ht hw hu
        · cases hrun

theorem fieldName_sound {s rest : List Char} {e : Expr} (h : fieldName s = .done e rest) :
    ∃ w, s = w ++ rest ∧ Atom e w := by
  unfold fieldName at h
  split at h
  · rename_i n r hname
    cases h
    obtain ⟨rfl, hn⟩ := name?_sound hname
    exact ⟨n, rfl, .field hn⟩
  · cases h

include hlevel hbelow in
theorem primary_sound : Sound level .primary (primary below) := by
  intro s e rest h
  obtain ⟨e', r, hhere, hdone⟩ := andThen_eq_done_iff.mp h
  cases hdone
  obtain ⟨before, hb, hs⟩ := exists_spaces s
  obtain ⟨after, ha, hr⟩ := exists_spaces r
  have used : (e.height ≤ maxDepth ∧ skipSpaces r = r ∧
      ∃ w, skipSpaces s = w ++ r ∧ Derives level (.tree .primary e) (before ++ w)) →
      level ≤ maxDepth ∧ e.height ≤ maxDepth ∧ skipSpaces (skipSpaces r) = skipSpaces r ∧
        ∃ w, s = w ++ skipSpaces r ∧ Derives level (.tree .primary e) w := by
    rintro ⟨hle, hskip, w, hw, hd⟩
    refine ⟨hlevel, hle, skipSpaces_skipSpaces r, before ++ w, ?_, hd⟩
    rw [hskip, List.append_assoc, ← hw]
    exact hs
  have alone : (∃ w, skipSpaces s = w ++ r ∧ Atom e w) →
      level ≤ maxDepth ∧ e.height ≤ maxDepth ∧ skipSpaces (skipSpaces r) = skipSpaces r ∧
        ∃ w, s = w ++ skipSpaces r ∧ Derives level (.tree .primary e) w := by
    rintro ⟨w, hw, hatom⟩
    refine ⟨hlevel, ?_, skipSpaces_skipSpaces r, before ++ w ++ after, ?_,
      .atom ⟨before, w, after, hb, hatom, ha, rfl⟩⟩
    · rw [hatom.height_eq]
      decide
    · rw [List.append_assoc, List.append_assoc, ← hr, ← hw]
      exact hs
  unfold primaryHere at hhere
  split at hhere
  · split at hhere
    · rename_i x r' hatom
      cases hhere
      exact alone (atom?_sound hatom)
    · split at hhere
      · exact alone (fieldName_sound hhere)
      · exact used (functionCall_sound hbelow hb hhere)
  · exact used (parenthesized_sound hbelow hb hhere)

include hlevel hbelow in
theorem unaryAt_sound : Sound level .unary (unaryAt below) := by
  intro s e rest h
  unfold unaryAt at h
  split at h
  · rename_i r hminus
    obtain ⟨-, t, rfl, ht⟩ := afterSpaced?_sound hminus
    obtain ⟨x, r', hx, hrun⟩ := andThen_eq_done_iff.mp h
    obtain ⟨hroom, -, hskip, w, rfl, hw⟩ := hbelow.unary _ _ _ hx
    obtain ⟨hle, rfl, rfl⟩ := bounded_eq_done_iff.mp hrun
    exact ⟨hlevel, hle, hskip, t ++ w, by simp, .minus hroom ht hw⟩
  · obtain ⟨-, hle, hskip, w, rfl, hw⟩ := primary_sound hlevel hbelow s e rest h
    exact ⟨hlevel, hle, hskip, w, rfl, .unsigned hw⟩

include hlevel hbelow in
theorem negationAt_sound : Sound level .negation (negationAt below) := by
  intro s e rest h
  unfold negationAt at h
  split at h
  · rename_i r hnot
    obtain ⟨-, t, rfl, ht⟩ := afterSpaced?_sound hnot
    obtain ⟨x, r', hx, hrun⟩ := andThen_eq_done_iff.mp h
    obtain ⟨hroom, -, hskip, w, rfl, hw⟩ := hbelow.negation _ _ _ hx
    obtain ⟨hle, rfl, rfl⟩ := bounded_eq_done_iff.mp hrun
    exact ⟨hlevel, hle, hskip, t ++ w, by simp, .not hroom ht hw⟩
  · have hproduct := chain_sound .product trivial (unaryAt_sound hlevel hbelow)
    have hsum := chain_sound .sum trivial hproduct
    obtain ⟨-, hle, hskip, w, rfl, hw⟩ := comparison_sound hsum s e rest h
    exact ⟨hlevel, hle, hskip, w, rfl, .unnegated hw⟩

include hlevel hbelow in
theorem disjunctionAt_sound : Sound level .disjunction (disjunctionAt below) :=
  chain_sound .disjunction trivial
    (chain_sound .conjunction trivial (negationAt_sound hlevel hbelow))

end

theorem Layers.withRoom_sound {level room : Nat} (h : level + room = maxDepth) :
    (Layers.withRoom room).Sound level := by
  induction room generalizing level with
  | zero =>
    have hlevel : level ≤ maxDepth := by omega
    have hbelow := Layers.sound_closed (level + 1)
    exact ⟨disjunctionAt_sound hlevel hbelow, negationAt_sound hlevel hbelow,
      unaryAt_sound hlevel hbelow⟩
  | succ room ih =>
    have hlevel : level ≤ maxDepth := by omega
    have hbelow := ih (show level + 1 + room = maxDepth by omega)
    exact ⟨disjunctionAt_sound hlevel hbelow, negationAt_sound hlevel hbelow,
      unaryAt_sound hlevel hbelow⟩

end RuleBench.Expr
