import RuleBench.Proofs.Expr.Atoms
import RuleBench.Proofs.Expr.Layers

set_option autoImplicit false

/-!
# Derivations at any depth

The grammar without its limit on levels.  A derivation shows its points: where a text has nothing
further within it.  No point lies above the phrase it belongs to, and the trees at the points of a
derivation are, in their order, what the derived tree is built of.
-/

namespace RuleBench.Expr

structure Tip where
  tree : Expr
  token : List Char
  isAtom : Atom tree token

/-- The place of an atom, or of the arguments of a call that has none. -/
structure Point where
  level : Nat
  tip : Option Tip

/-- As `Derives`, at any level. -/
inductive Derivation : Nat → Phrase → List Char → List Point → Prop where
  | chain {level : Nat} {layer : Layer} {e : Expr} {more : List (BinaryOp × Expr)}
      {w v : List Char} {ps qs : List Point} (hl : layer.IsChain)
      (first : Derivation level (.tree layer.next e) w ps)
      (rest : Derivation level (.links layer more) v qs) :
      Derivation level (.tree layer (foldChain e more)) (w ++ v) (ps ++ qs)
  | noLink {level : Nat} {layer : Layer} : Derivation level (.links layer []) [] []
  | link {level : Nat} {layer : Layer} {op : BinaryOp} {e : Expr}
      {more : List (BinaryOp × Expr)} {t w v : List Char} {ps qs : List Point}
      (ht : Operator layer op t) (operand : Derivation level (.tree layer.next e) w ps)
      (rest : Derivation level (.links layer more) v qs) :
      Derivation level (.links layer ((op, e) :: more)) (t ++ (w ++ v)) (ps ++ qs)
  | not {level : Nat} {e : Expr} {t w : List Char} {ps : List Point}
      (ht : Spaced (Spells ".NOT.") t) (h : Derivation (level + 1) (.tree .negation e) w ps) :
      Derivation level (.tree .negation (.not e)) (t ++ w) ps
  | unnegated {level : Nat} {e : Expr} {w : List Char} {ps : List Point}
      (h : Derivation level (.tree .comparison e) w ps) :
      Derivation level (.tree .negation e) w ps
  | compare {level : Nat} {op : BinaryOp} {x y : Expr} {w t v : List Char} {ps qs : List Point}
      (left : Derivation level (.tree .sum x) w ps) (ht : Operator .comparison op t)
      (right : Derivation level (.tree .sum y) v qs) :
      Derivation level (.tree .comparison (.binary op x y)) (w ++ (t ++ v)) (ps ++ qs)
  | uncompared {level : Nat} {e : Expr} {w : List Char} {ps : List Point}
      (h : Derivation level (.tree .sum e) w ps) : Derivation level (.tree .comparison e) w ps
  | minus {level : Nat} {e : Expr} {t w : List Char} {ps : List Point}
      (ht : Spaced (Spells "-") t) (h : Derivation (level + 1) (.tree .unary e) w ps) :
      Derivation level (.tree .unary (.negate e)) (t ++ w) ps
  | unsigned {level : Nat} {e : Expr} {w : List Char} {ps : List Point}
      (h : Derivation level (.tree .primary e) w ps) : Derivation level (.tree .unary e) w ps
  | parentheses {level : Nat} {e : Expr} {t w u : List Char} {ps : List Point}
      (ht : Spaced (Spells "(") t) (h : Derivation (level + 1) (.tree .disjunction e) w ps)
      (hu : Spaced (Spells ")") u) : Derivation level (.tree .primary e) (t ++ (w ++ u)) ps
  | atom {level : Nat} {before after : List Char} (tip : Tip) (hb : Spaces before)
      (ha : Spaces after) :
      Derivation level (.tree .primary tip.tree) (before ++ tip.token ++ after) [⟨level, some tip⟩]
  | call {level : Nat} {f : Function} {args : List Expr} {before n t w u : List Char}
      {ps : List Point} (hb : Spaces before) (hn : Spells f.name n) (ht : Spaced (Spells "(") t)
      (h : Derivation level (.arguments args) w ps) (hu : Spaced (Spells ")") u) :
      Derivation level (.tree .primary (.call f args)) (before ++ (n ++ (t ++ (w ++ u)))) ps
  | noArguments {level : Nat} : Derivation level (.arguments []) [] [⟨level + 1, none⟩]
  | someArguments {level : Nat} {e : Expr} {args : List Expr} {w v : List Char}
      {ps qs : List Point} (h : Derivation (level + 1) (.tree .disjunction e) w ps)
      (rest : Derivation level (.furtherArguments args) v qs) :
      Derivation level (.arguments (e :: args)) (w ++ v) (ps ++ qs)
  | noFurtherArguments {level : Nat} : Derivation level (.furtherArguments []) [] []
  | furtherArgument {level : Nat} {e : Expr} {args : List Expr} {t w v : List Char}
      {ps qs : List Point} (ht : Spaced (Spells ",") t)
      (h : Derivation (level + 1) (.tree .disjunction e) w ps)
      (rest : Derivation level (.furtherArguments args) v qs) :
      Derivation level (.furtherArguments (e :: args)) (t ++ (w ++ v)) (ps ++ qs)

theorem Derivation.alone {level : Nat} (layer : Layer) {e : Expr} {w : List Char}
    {ps : List Point} (hl : layer.IsChain) (h : Derivation level (.tree layer.next e) w ps) :
    Derivation level (.tree layer e) w ps := by
  have hchain := Derivation.chain hl h .noLink
  rwa [List.append_nil, List.append_nil] at hchain

theorem Derivation.disjunction_of_unary {level : Nat} {e : Expr} {w : List Char} {ps : List Point}
    (h : Derivation level (.tree .unary e) w ps) :
    Derivation level (.tree .disjunction e) w ps :=
  .alone .disjunction trivial (.alone .conjunction trivial (.unnegated (.uncompared
    (.alone .sum trivial (.alone .product trivial h)))))

/-! ## Points -/

/-- Some point lies beyond the deepest level. -/
def Beyond (ps : List Point) : Prop := ∃ p ∈ ps, maxDepth < p.level

theorem beyond_append {ps qs : List Point} : Beyond (ps ++ qs) ↔ Beyond ps ∨ Beyond qs := by
  unfold Beyond
  constructor
  · rintro ⟨p, hp, hlt⟩
    exact (List.mem_append.mp hp).imp (fun h => ⟨p, h, hlt⟩) (fun h => ⟨p, h, hlt⟩)
  · rintro (⟨p, hp, hlt⟩ | ⟨p, hp, hlt⟩)
    · exact ⟨p, List.mem_append_left _ hp, hlt⟩
    · exact ⟨p, List.mem_append_right _ hp, hlt⟩

/-- Operators with operands, and arguments after the first, may be none. -/
def Phrase.IsSeries : Phrase → Prop
  | .links _ _ | .furtherArguments _ => True
  | _ => False

theorem Derivation.exists_point {level : Nat} {phrase : Phrase} {w : List Char} {ps : List Point}
    (h : Derivation level phrase w ps) (hp : ¬ phrase.IsSeries) : ∃ p ∈ ps, level ≤ p.level := by
  have left : ∀ {ps qs : List Point} {l : Nat}, (∃ p ∈ ps, l ≤ p.level) →
      ∃ p ∈ ps ++ qs, l ≤ p.level :=
    fun ⟨p, hp, hle⟩ => ⟨p, List.mem_append_left _ hp, hle⟩
  have above : ∀ {ps : List Point} {l : Nat}, (∃ p ∈ ps, l + 1 ≤ p.level) →
      ∃ p ∈ ps, l ≤ p.level :=
    fun ⟨p, hp, hle⟩ => ⟨p, hp, Nat.le_of_succ_le hle⟩
  induction h with
  | chain _ _ _ ih _ => exact left (ih id)
  | compare _ _ _ ih _ => exact left (ih id)
  | someArguments _ _ ih _ => exact left (above (ih id))
  | not _ _ ih => exact above (ih id)
  | minus _ _ ih => exact above (ih id)
  | parentheses _ _ _ ih => exact above (ih id)
  | unnegated _ ih => exact ih id
  | uncompared _ ih => exact ih id
  | unsigned _ ih => exact ih id
  | call _ _ _ _ _ ih => exact ih id
  | atom => exact ⟨_, List.mem_singleton_self _, Nat.le_refl _⟩
  | noArguments => exact ⟨_, List.mem_singleton_self _, Nat.le_succ _⟩
  | noLink | link | noFurtherArguments | furtherArgument => exact absurd trivial hp

theorem Derivation.beyond_of_lt {level : Nat} {phrase : Phrase} {w : List Char} {ps : List Point}
    (h : Derivation level phrase w ps) (hp : ¬ phrase.IsSeries) (hl : maxDepth < level) :
    Beyond ps := by
  obtain ⟨p, hmem, hle⟩ := h.exists_point hp
  exact ⟨p, hmem, hl.trans_le hle⟩

/-! ## What a tree is built of -/

mutual

/-- The trees at the tips of a tree, from left to right. -/
def atoms : Expr → List Expr
  | .not x => atoms x
  | .negate x => atoms x
  | .binary _ l r => atoms l ++ atoms r
  | .call _ args => atomsOfAll args
  | e => [e]

def atomsOfAll : List Expr → List Expr
  | [] => []
  | x :: rest => atoms x ++ atomsOfAll rest

end

theorem atoms_foldChain (first : Expr) (more : List (BinaryOp × Expr)) :
    (foldChain first more).atoms = first.atoms ++ more.flatMap fun m => m.2.atoms := by
  induction more generalizing first with
  | nil => exact (List.append_nil _).symm
  | cons m more ih =>
    change (foldChain (.binary m.1 first m.2) more).atoms = _
    rw [ih, atoms, List.flatMap_cons, List.append_assoc]

theorem Atom.atoms_eq {e : Expr} {w : List Char} (h : Atom e w) : e.atoms = [e] := by
  cases h with
  | constant h =>
    simp only [constants, List.mem_cons, Prod.mk.injEq, List.not_mem_nil, or_false] at h
    rcases h with ⟨-, rfl⟩ | ⟨-, rfl⟩ | ⟨-, rfl⟩ | ⟨-, rfl⟩ | ⟨-, rfl⟩ <;> rfl
  | integer | decimal | string | last | field => rfl

def Phrase.atoms : Phrase → List Expr
  | .tree _ e => e.atoms
  | .links _ more => more.flatMap fun m => m.2.atoms
  | .arguments args | .furtherArguments args => atomsOfAll args

/-- The trees at some points. -/
def pointTrees (ps : List Point) : List Expr := ps.filterMap fun p => p.tip.map Tip.tree

theorem pointTrees_append (ps qs : List Point) :
    pointTrees (ps ++ qs) = pointTrees ps ++ pointTrees qs :=
  List.filterMap_append

theorem Derivation.pointTrees_eq {level : Nat} {phrase : Phrase} {w : List Char}
    {ps : List Point} (h : Derivation level phrase w ps) : pointTrees ps = phrase.atoms := by
  induction h with
  | chain _ _ _ ihfirst ihrest =>
    rw [pointTrees_append, ihfirst, ihrest]
    exact (atoms_foldChain _ _).symm
  | link _ _ _ ihoperand ihrest => rw [pointTrees_append, ihoperand, ihrest]; rfl
  | compare _ _ _ ihleft ihright => rw [pointTrees_append, ihleft, ihright]; rfl
  | someArguments _ _ ih ihrest => rw [pointTrees_append, ih, ihrest]; rfl
  | furtherArgument _ _ _ ih ihrest => rw [pointTrees_append, ih, ihrest]; rfl
  | not _ _ ih => exact ih
  | unnegated _ ih => exact ih
  | uncompared _ ih => exact ih
  | minus _ _ ih => exact ih
  | unsigned _ ih => exact ih
  | parentheses _ _ _ ih => exact ih
  | call _ _ _ _ _ ih => exact ih
  | atom tip => exact tip.isAtom.atoms_eq.symm
  | noLink | noArguments | noFurtherArguments => rfl

/-! ## Within the limit -/

/-- Every call in a phrase has as many arguments as its function takes, which is never none. -/
def Phrase.Fits : Phrase → Prop
  | .tree _ e => e.Fits
  | .links _ more => ∀ m ∈ more, m.2.Fits
  | .arguments args => args ≠ [] ∧ AllFit args
  | .furtherArguments args => AllFit args

/-- What the grammar derives has a derivation with all its points within the limit. -/
theorem Derives.derivation {level : Nat} {phrase : Phrase} {w : List Char}
    (h : Derives level phrase w) (hl : level ≤ maxDepth) (hf : phrase.Fits) :
    ∃ ps, Derivation level phrase w ps ∧ ¬ Beyond ps := by
  have neither : ∀ {ps qs : List Point}, ¬ Beyond ps → ¬ Beyond qs → ¬ Beyond (ps ++ qs) :=
    fun hps hqs h => (beyond_append.mp h).elim hps hqs
  have none : ¬ Beyond [] := fun ⟨_, hp, _⟩ => absurd hp List.not_mem_nil
  induction h with
  | chain hchain _ _ ihfirst ihrest =>
    obtain ⟨hfirst, hmore⟩ := fits_foldChain hf
    obtain ⟨ps, hps, hp⟩ := ihfirst hl hfirst
    obtain ⟨qs, hqs, hq⟩ := ihrest hl hmore
    exact ⟨ps ++ qs, .chain hchain hps hqs, neither hp hq⟩
  | noLink => exact ⟨[], .noLink, none⟩
  | link ht _ _ ihoperand ihrest =>
    obtain ⟨ho, hmore⟩ := List.forall_mem_cons.mp hf
    obtain ⟨ps, hps, hp⟩ := ihoperand hl ho
    obtain ⟨qs, hqs, hq⟩ := ihrest hl hmore
    exact ⟨ps ++ qs, .link ht hps hqs, neither hp hq⟩
  | not room ht _ ih =>
    obtain ⟨ps, hps, hp⟩ := ih room hf
    exact ⟨ps, .not ht hps, hp⟩
  | unnegated _ ih =>
    obtain ⟨ps, hps, hp⟩ := ih hl hf
    exact ⟨ps, .unnegated hps, hp⟩
  | compare _ ht _ ihleft ihright =>
    obtain ⟨ps, hps, hp⟩ := ihleft hl hf.1
    obtain ⟨qs, hqs, hq⟩ := ihright hl hf.2
    exact ⟨ps ++ qs, .compare hps ht hqs, neither hp hq⟩
  | uncompared _ ih =>
    obtain ⟨ps, hps, hp⟩ := ih hl hf
    exact ⟨ps, .uncompared hps, hp⟩
  | minus room ht _ ih =>
    obtain ⟨ps, hps, hp⟩ := ih room hf
    exact ⟨ps, .minus ht hps, hp⟩
  | unsigned _ ih =>
    obtain ⟨ps, hps, hp⟩ := ih hl hf
    exact ⟨ps, .unsigned hps, hp⟩
  | parentheses room ht _ hu ih =>
    obtain ⟨ps, hps, hp⟩ := ih room hf
    exact ⟨ps, .parentheses ht hps hu, hp⟩
  | atom h =>
    obtain ⟨before, token, after, hb, hatom, ha, rfl⟩ := h
    refine ⟨_, .atom ⟨_, token, hatom⟩ hb ha, ?_⟩
    rintro ⟨p, hp, hlt⟩
    rw [List.mem_singleton.mp hp] at hlt
    exact absurd hl (Nat.not_le.mpr hlt)
  | @call _ f args _ _ _ _ _ hb hn ht _ hu ih =>
    have hne : args ≠ [] := by
      rintro rfl
      exact absurd hf.1 (by cases f <;> decide)
    obtain ⟨ps, hps, hp⟩ := ih hl ⟨hne, hf.2⟩
    exact ⟨ps, .call hb hn ht hps hu, hp⟩
  | noArguments => exact absurd rfl hf.1
  | someArguments room _ _ ih ihrest =>
    obtain ⟨ps, hps, hp⟩ := ih room hf.2.1
    obtain ⟨qs, hqs, hq⟩ := ihrest hl hf.2.2
    exact ⟨ps ++ qs, .someArguments hps hqs, neither hp hq⟩
  | noFurtherArguments => exact ⟨[], .noFurtherArguments, none⟩
  | furtherArgument room ht _ _ ih ihrest =>
    obtain ⟨ps, hps, hp⟩ := ih room hf.1
    obtain ⟨qs, hqs, hq⟩ := ihrest hl hf.2
    exact ⟨ps ++ qs, .furtherArgument ht hps hqs, neither hp hq⟩

end RuleBench.Expr
