import RuleBench.Proofs.Expr.Grammar

set_option autoImplicit false

/-!
# The layers of the parser

Each layer of the grammar has a parser at each depth, and a table of the spellings of its operators.
-/

namespace RuleBench.Expr

/-- The layers below those that have this many levels below them. -/
def Layers.below : Nat → Layers
  | 0 => .closed
  | room + 1 => .withRoom room

theorem Layers.withRoom_eq (room : Nat) : Layers.withRoom room =
    ⟨disjunctionAt (below room), negationAt (below room), unaryAt (below room)⟩ := by
  cases room <;> rfl

namespace Layer

def table : Layer → List (String × BinaryOp)
  | .disjunction => orOps
  | .conjunction => andOps
  | .comparison => comparisonOps
  | .sum => sumOps
  | .product => productOps
  | _ => []

theorem mem_table_iff {layer : Layer} {spelling : String} {op : BinaryOp} :
    (spelling, op) ∈ layer.table ↔ op ∈ layer.operators ∧ spelling ∈ spellings op := by
  constructor
  · intro h
    have hall : ∀ entry ∈ layer.table,
        entry.2 ∈ layer.operators ∧ entry.1 ∈ spellings entry.2 := by
      cases layer <;> decide
    exact hall _ h
  · rintro ⟨ho, hs⟩
    have hall : ∀ op ∈ layer.operators, ∀ spelling ∈ spellings op,
        (spelling, op) ∈ layer.table := by
      cases layer <;> decide
    exact hall op ho spelling hs

def parser (below : Layers) : Layer → Parser Expr
  | .disjunction => disjunctionAt below
  | .conjunction => chain andOps (negationAt below)
  | .negation => negationAt below
  | .comparison => Expr.comparison (chain sumOps (chain productOps (unaryAt below)))
  | .sum => chain sumOps (chain productOps (unaryAt below))
  | .product => chain productOps (unaryAt below)
  | .unary => unaryAt below
  | .primary => Expr.primary below

theorem parser_of_isChain {layer : Layer} (h : layer.IsChain) (below : Layers) :
    layer.parser below = chain layer.table (layer.next.parser below) := by
  cases layer <;> first | rfl | exact h.elim

end Layer

/-! ## Entries -/

/-- Where a text one level further down begins: in parentheses or an argument, after `.NOT.`, or
after a minus. -/
inductive Entry where
  | disjunction
  | negation
  | unary

def Entry.layer : Entry → Layer
  | .disjunction => .disjunction
  | .negation => .negation
  | .unary => .unary

namespace Layers

def run (layers : Layers) : Entry → Parser Expr
  | .disjunction => layers.disjunction
  | .negation => layers.negation
  | .unary => layers.unary

/-- The layers of a level. -/
def ofLevel (level : Nat) : Layers := below (maxDepth + 1 - level)

theorem run_ofLevel_of_le {level : Nat} (h : level ≤ maxDepth) (entry : Entry) :
    (Layers.ofLevel level).run entry = entry.layer.parser (.ofLevel (level + 1)) := by
  obtain ⟨room, hroom⟩ : ∃ room, maxDepth + 1 - level = room + 1 :=
    ⟨maxDepth - level, Nat.succ_sub h⟩
  have hnext : maxDepth + 1 - (level + 1) = room := by omega
  rw [Layers.ofLevel, Layers.ofLevel, hroom, hnext, below, withRoom_eq]
  cases entry <;> rfl

/-- Beyond the deepest level every text is refused. -/
theorem run_ofLevel_of_lt {level : Nat} (h : maxDepth < level) (entry : Entry) (s : List Char) :
    (Layers.ofLevel level).run entry s = .tooDeep := by
  rw [Layers.ofLevel, Nat.sub_eq_zero_of_le h]
  cases entry <;> rfl

end Layers

/-! ## Outcomes -/

/-- A piece is read to its end, or is too deep, as `deep` says. -/
def Outcome.Ends {α : Type} (o : Outcome α) (deep : Prop) (a : α) (rest : List Char) : Prop :=
  o = .done a rest ∧ ¬ deep ∨ o = .tooDeep ∧ deep

namespace Outcome.Ends

variable {α β : Type} {o : Outcome α} {deep deep' : Prop} {a : α} {b : β} {rest rest' : List Char}

theorem of_iff (h : o.Ends deep a rest) (hd : deep ↔ deep') : o.Ends deep' a rest := by
  unfold Outcome.Ends
  rwa [← hd]

theorem ne_stuck (h : o.Ends deep a rest) (r : List Char) : o ≠ .stuck r := by
  rintro rfl
  rcases h with ⟨h, -⟩ | ⟨h, -⟩ <;> cases h

theorem eq_tooDeep_iff (h : o.Ends deep a rest) : o = .tooDeep ↔ deep := by
  rcases h with ⟨rfl, hd⟩ | ⟨rfl, hd⟩
  · exact iff_of_false (fun h => nomatch h) hd
  · exact iff_of_true rfl hd

theorem or_of_not (h : o.Ends deep' a rest) (hd : ¬ deep) : o.Ends (deep ∨ deep') a rest :=
  h.of_iff ⟨.inr, fun h => h.resolve_left hd⟩

theorem andThen {k : α → Parser β} (h : o.Ends deep a rest) (hk : (k a rest).Ends deep' b rest') :
    (o.andThen k).Ends (deep ∨ deep') b rest' := by
  rcases h with ⟨rfl, hd⟩ | ⟨rfl, hd⟩
  · exact hk.or_of_not hd
  · exact .inr ⟨rfl, .inl hd⟩

theorem map (h : o.Ends deep a rest) (f : α → β) :
    (o.andThen fun a r => .done (f a) r).Ends deep (f a) rest := by
  rcases h with ⟨rfl, hd⟩ | ⟨rfl, hd⟩
  · exact .inl ⟨rfl, hd⟩
  · exact .inr ⟨rfl, hd⟩

end Outcome.Ends

theorem andThen_eq_done_iff {α β : Type} {o : Outcome α} {k : α → Parser β} {b : β}
    {rest : List Char} :
    o.andThen k = .done b rest ↔ ∃ a r, o = .done a r ∧ k a r = .done b rest := by
  cases o with
  | done a r =>
    constructor
    · exact fun h => ⟨a, r, rfl, h⟩
    · rintro ⟨a', r', heq, h⟩
      cases heq
      exact h
  | stuck | tooDeep =>
    constructor
    · intro h
      cases h
    · rintro ⟨a, r, heq, -⟩
      cases heq

theorem bounded_eq_done_iff {e e' : Expr} {s rest : List Char} :
    bounded e s = .done e' rest ↔ e.height ≤ maxDepth ∧ e' = e ∧ rest = s := by
  unfold bounded
  split
  · rename_i hlt
    constructor
    · intro h
      cases h
    · rintro ⟨hle, -⟩
      omega
  · rename_i hlt
    constructor
    · intro h
      cases h
      exact ⟨by omega, rfl, rfl⟩
    · rintro ⟨-, rfl, rfl⟩
      rfl

theorem bounded_ends (e : Expr) (s : List Char) :
    (bounded e s).Ends (maxDepth < e.height) e s := by
  unfold bounded
  split
  · exact .inr ⟨rfl, ‹_›⟩
  · exact .inl ⟨rfl, ‹_›⟩

/-! ## Heights of chains -/

theorem heights_le_iff {args : List Expr} {n : Nat} :
    heights args ≤ n ↔ ∀ e ∈ args, e.height ≤ n := by
  induction args with
  | nil => simp [heights]
  | cons x args ih => rw [heights, Nat.max_le, ih, List.forall_mem_cons]

/-- The first operand lies under all operators, and each other one under its own and those behind
it. -/
theorem height_foldChain_le_iff (first : Expr) (more : List (BinaryOp × Expr)) (n : Nat) :
    (foldChain first more).height ≤ n ↔ first.height + more.length ≤ n ∧
      ∀ i (h : i < more.length), more[i].2.height + (more.length - i) ≤ n := by
  induction more generalizing first with
  | nil => simp [foldChain]
  | cons m more ih =>
    -- The joined pair is the first operand of the rest, one higher than either.
    change (foldChain (.binary m.1 first m.2) more).height ≤ n ↔
      first.height + (more.length + 1) ≤ n ∧
        ∀ i (h : i < more.length + 1), (m :: more)[i].2.height + (more.length + 1 - i) ≤ n
    have hpair : max first.height m.2.height + 1 + more.length ≤ n ↔
        first.height + (more.length + 1) ≤ n ∧ m.2.height + (more.length + 1) ≤ n := by
      omega
    rw [ih, height, hpair, Nat.forall_lt_succ_left']
    simp only [List.getElem_cons_zero, List.getElem_cons_succ, Nat.add_sub_add_right,
      Nat.sub_zero, and_assoc]

theorem height_foldChain (first : Expr) (more : List (BinaryOp × Expr)) :
    first.height + more.length ≤ (foldChain first more).height ∧
      heights (more.map Prod.snd) ≤ (foldChain first more).height := by
  obtain ⟨hlen, hall⟩ := (height_foldChain_le_iff first more _).mp (Nat.le_refl _)
  refine ⟨hlen, heights_le_iff.mpr fun e he => ?_⟩
  obtain ⟨m, hm, rfl⟩ := List.mem_map.mp he
  obtain ⟨i, hi, rfl⟩ := List.getElem_of_mem hm
  exact Nat.le_trans (Nat.le_add_right _ _) (hall i hi)

theorem fits_foldChain {first : Expr} {more : List (BinaryOp × Expr)}
    (h : (foldChain first more).Fits) : first.Fits ∧ ∀ m ∈ more, m.2.Fits := by
  induction more generalizing first with
  | nil => exact ⟨h, fun _ hm => absurd hm List.not_mem_nil⟩
  | cons m more ih =>
    have hchain : (foldChain (.binary m.1 first m.2) more).Fits := h
    obtain ⟨⟨hfirst, hm⟩, hmore⟩ := ih hchain
    refine ⟨hfirst, ?_⟩
    intro m' hm'
    rcases List.mem_cons.mp hm' with rfl | hm'
    · exact hm
    · exact hmore m' hm'

/-! ## The length of a chain -/

theorem length_lt_height_foldChain (first : Expr) (more : List (BinaryOp × Expr)) :
    more.length < (foldChain first more).height := by
  have hlen := (height_foldChain first more).1
  have hpos := height_pos first
  omega

/-- Nothing changes if the length of a chain is not looked at: one that is too long has too high a
tree. -/
theorem chainTree_eq_ite (first : Expr) (more : List (BinaryOp × Expr)) (s : List Char) :
    chainTree first more s =
      if more.isEmpty then .done first s else bounded (foldChain first more) s := by
  unfold chainTree
  split
  · rfl
  · split
    · rename_i hlong
      have hlen := length_lt_height_foldChain first more
      rw [bounded, if_pos (by omega)]
    · rfl

/-- An operand that stands alone is taken as it is, so that it has to fit already. -/
theorem chainTree_eq_bounded {first : Expr} {more : List (BinaryOp × Expr)}
    (h : more = [] → first.height ≤ maxDepth) (s : List Char) :
    chainTree first more s = bounded (foldChain first more) s := by
  rw [chainTree_eq_ite]
  cases more with
  | nil =>
    have hfits : ¬ maxDepth < (foldChain first []).height := Nat.not_lt.mpr (h rfl)
    rw [bounded, if_neg hfits]
    rfl
  | cons => rfl

theorem chainTree_eq_done {first e : Expr} {more : List (BinaryOp × Expr)} {s rest : List Char}
    (hf : first.height ≤ maxDepth) (h : chainTree first more s = .done e rest) :
    e = foldChain first more ∧ rest = s ∧ e.height ≤ maxDepth := by
  rw [chainTree_eq_bounded fun _ => hf] at h
  obtain ⟨hle, rfl, rfl⟩ := bounded_eq_done_iff.mp h
  exact ⟨rfl, rfl, hle⟩

theorem chainTree_ends (first : Expr) (more : List (BinaryOp × Expr)) (s : List Char) :
    (chainTree first more s).Ends (more ≠ [] ∧ maxDepth < (foldChain first more).height)
      (foldChain first more) s := by
  rw [chainTree_eq_ite]
  cases more with
  | nil => exact .inl ⟨rfl, fun h => h.1 rfl⟩
  | cons m more =>
    have hne : m :: more ≠ [] := List.cons_ne_nil m more
    exact (bounded_ends _ s).of_iff ⟨fun h => ⟨hne, h⟩, And.right⟩

end RuleBench.Expr
