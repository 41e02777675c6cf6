import RuleBench.Proofs.Expr.Follow

set_option autoImplicit false

/-!
# Operators are read

Where what follows a phrase lets it end, its parser uses up the text of the phrase and the blanks
after it, and builds its tree, unless the phrase is too deep: here for the layers with operators,
given the layers that they join.
-/

namespace RuleBench.Expr

def Reads (deep : Prop) (p : Parser Expr) (layer : Layer) (w : List Char) (e : Expr) : Prop :=
  ∀ s rest, skipSpaces s = skipSpaces (w ++ rest) → Follows layer (skipSpaces rest) →
    (p s).Ends deep e (skipSpaces rest)

theorem Reads.of_iff {deep deep' : Prop} {p : Parser Expr} {layer : Layer} {w : List Char}
    {e : Expr} (h : Reads deep p layer w e) (hd : deep ↔ deep') : Reads deep' p layer w e :=
  fun s rest hs hf => (h s rest hs hf).of_iff hd

/-- The links of a chain are read from where its first operand ends. -/
def ReadsLinks (deep : Prop) (operand : Parser Expr) (layer : Layer) (w : List Char)
    (more : List (BinaryOp × Expr)) : Prop :=
  ∀ rest fuel, (skipSpaces (w ++ rest)).length ≤ fuel → Follows layer (skipSpaces rest) →
    Follows layer.next (skipSpaces (w ++ rest)) ∧
      (operands layer.table operand fuel (skipSpaces (w ++ rest))).Ends deep more
        (skipSpaces rest)

theorem ReadsLinks.of_iff {deep deep' : Prop} {operand : Parser Expr} {layer : Layer}
    {w : List Char} {more : List (BinaryOp × Expr)} (h : ReadsLinks deep operand layer w more)
    (hd : deep ↔ deep') : ReadsLinks deep' operand layer w more :=
  fun rest fuel hfuel hf => (h rest fuel hfuel hf).imp_right fun h => h.of_iff hd

theorem length_skipSpaces_le (s : List Char) : (skipSpaces s).length ≤ s.length :=
  List.length_dropWhile_le _ s

/-! ## Where no operand begins -/

theorem parenthesized_stuck {below : Layers} {c : Char} (h : c ≠ '(') (s : List Char) :
    parenthesized below (c :: s) = .stuck (c :: s) := by
  unfold parenthesized
  split
  · rename_i heq
    cases heq
    exact absurd rfl h
  · rfl

/-- Nothing that stands alone begins with this character, but perhaps a constant. -/
def isBarren (c : Char) : Bool :=
  c != '(' && c != '"' && !Text.asciiDigit c && !Text.asciiLetter c && !startsName c

theorem primary_stuck {below : Layers} {s tail : List Char} {c : Char}
    (hs : skipSpaces s = c :: tail) (hc : isBarren c = true)
    (hconstant : constant? constants (c :: tail) = none) :
    primary below s = .stuck (c :: tail) := by
  simp only [isBarren, Bool.and_eq_true, bne_iff_ne, ne_eq, Bool.not_eq_true'] at hc
  obtain ⟨⟨⟨⟨hparen, hquote⟩, hdigit⟩, hletter⟩, hname⟩ := hc
  have hatom : atom? (c :: tail) = none := by
    rw [atom?, hconstant, numeral?_cons_eq_none hdigit, string?_cons_eq_none hquote,
      lastName?_cons_eq_none hletter]
    rfl
  have hname? : name? (c :: tail) = none := by simp [name?, hname]
  simp only [primary, hs, primaryHere, parenthesized_stuck hparen, hatom, functionCall, hname?,
    fieldName, Outcome.andThen]

theorem unaryAt_stuck {below : Layers} {s tail : List Char} {c : Char}
    (hs : skipSpaces s = c :: tail) (hc : isBarren c = true)
    (hminus : Text.sameLetter '-' c = false)
    (hconstant : constant? constants (c :: tail) = none) :
    unaryAt below s = .stuck (c :: tail) := by
  have hnone : afterToken? "-".toList (c :: tail) = none := afterToken?_cons_eq_none hminus [] tail
  have hspaced : afterSpaced? "-" s = none := by
    rw [afterSpaced?, hs, hnone]
    rfl
  simp only [unaryAt, hspaced]
  exact primary_stuck hs hc hconstant

theorem chain_stuck {ops : List (String × BinaryOp)} {operand : Parser Expr}
    {s rest : List Char} (h : operand s = .stuck rest) : chain ops operand s = .stuck rest := by
  simp only [chain, h, Outcome.andThen]

theorem sum_stuck {below : Layers} {s tail : List Char} {c : Char}
    (hs : skipSpaces s = c :: tail) (hc : isBarren c = true)
    (hminus : Text.sameLetter '-' c = false)
    (hconstant : constant? constants (c :: tail) = none) :
    Layer.sum.parser below s = .stuck (c :: tail) :=
  chain_stuck (chain_stuck (unaryAt_stuck hs hc hminus hconstant))

theorem disjunction_stuck (below : Layers) (tail : List Char) :
    Layer.disjunction.parser below (')' :: tail) = .stuck (')' :: tail) := by
  have hsum : Layer.sum.parser below (')' :: tail) = .stuck (')' :: tail) :=
    sum_stuck rfl (by decide) (by decide) (constant?_cons_eq_none (by decide) tail)
  have hnegation : negationAt below (')' :: tail) = .stuck (')' :: tail) := by
    change comparison (Layer.sum.parser below) (')' :: tail) = _
    simp only [comparison, hsum, Outcome.andThen]
  have hconjunction : chain andOps (negationAt below) (')' :: tail) = .stuck (')' :: tail) :=
    chain_stuck hnegation
  change chain orOps (chain andOps (negationAt below)) (')' :: tail) = _
  exact chain_stuck hconjunction

/-! ## Chains -/

theorem Layer.pairwise_table {layer : Layer} (h : layer.IsChain) :
    layer.table.Pairwise fun a b => agree a.1.toList b.1.toList = false := by
  cases layer <;> first | decide | exact h.elim

theorem noLink_reads (operand : Parser Expr) (layer : Layer) :
    ReadsLinks False operand layer [] [] := by
  intro rest fuel _ hf
  rw [List.nil_append]
  refine ⟨hf.next, .inl ⟨?_, id⟩⟩
  cases fuel with
  | zero => rfl
  | succ fuel =>
    have hnone : firstToken? layer.table (skipSpaces rest) = none := by
      refine Follows.firstToken?_table ?_
      rwa [skipSpaces_skipSpaces]
    simp only [operands, hnone]

section

variable {deep deep' : Prop}

theorem link_reads {operand : Parser Expr} {layer : Layer} (hl : layer.IsChain) {op : BinaryOp}
    {e : Expr} {more : List (BinaryOp × Expr)} {t w v : List Char} (ht : Operator layer op t)
    (hw : Reads deep operand layer.next w e) (hv : ReadsLinks deep' operand layer v more) :
    ReadsLinks (deep ∨ deep') operand layer (t ++ (w ++ v)) ((op, e) :: more) := by
  intro rest fuel hfuel hf
  have hassoc : t ++ (w ++ v) ++ rest = t ++ (w ++ (v ++ rest)) := by simp
  rw [hassoc] at hfuel ⊢
  refine ⟨ht.follows _, ?_⟩
  obtain ⟨ho, spelling, hs, hspaced⟩ := ht
  have hsolid := isSolid_of_mem_spellings hs
  have hlen := hspaced.length_lt hsolid (w ++ (v ++ rest))
  obtain ⟨fuel, rfl⟩ : ∃ n, fuel = n + 1 := Nat.exists_eq_succ_of_ne_zero (by omega)
  have hshort : (skipSpaces (v ++ rest)).length ≤ fuel := by
    have hskip := length_skipSpaces_le (v ++ rest)
    rw [List.length_append] at hlen
    omega
  obtain ⟨hnext, hmore⟩ := hv rest fuel hshort hf
  have hop : firstToken? layer.table (skipSpaces (t ++ (w ++ (v ++ rest)))) =
      some (op, skipSpaces (w ++ (v ++ rest))) := by
    have hpairs := (Layer.pairwise_table hl).imp fun hagree hb =>
      afterSpaced?_eq_none (r := skipSpaces (w ++ (v ++ rest)))
        (s := skipSpaces (t ++ (w ++ (v ++ rest)))) hb hagree
    refine firstToken?_of_mem hpairs (Layer.mem_table_iff.mpr ⟨ho, hs⟩) ?_
    rw [afterSpaced?_congr (skipSpaces_skipSpaces _)]
    exact afterSpaced?_append hsolid hspaced _
  rcases hw _ (v ++ rest) (skipSpaces_skipSpaces _) hnext with ⟨hoperand, hd⟩ | ⟨hoperand, hd⟩
  · simp only [operands, hop, hoperand]
    exact (hmore.map fun more => (op, e) :: more).or_of_not hd
  · simp only [operands, hop, hoperand]
    exact .inr ⟨rfl, .inl hd⟩

theorem chain_reads {operand : Parser Expr} {layer : Layer} {e : Expr}
    {more : List (BinaryOp × Expr)} {w v : List Char} (hw : Reads deep operand layer.next w e)
    (hv : ReadsLinks deep' operand layer v more) :
    Reads (deep ∨ deep' ∨ more ≠ [] ∧ maxDepth < (foldChain e more).height)
      (chain layer.table operand) layer (w ++ v) (foldChain e more) := by
  intro s rest hs hf
  rw [List.append_assoc] at hs
  obtain ⟨hnext, hmore⟩ := hv rest _ (Nat.le_refl _) hf
  exact (hw s (v ++ rest) hs hnext).andThen (hmore.andThen (chainTree_ends e more _))

/-! ## Comparisons -/

/-- A token does not stand where one stands that it continues, if it goes on otherwise. -/
theorem afterSpaced?_longer {spelling longer : String} {d : Char} {s r : List Char}
    (hl : longer.toList = spelling.toList ++ [d]) (hd : Text.asciiLetter d = false)
    (hspace : isSpace d = false) (h : afterSpaced? spelling s = some r)
    (hr : ∀ tail, r ≠ d :: tail) : afterSpaced? longer s = none := by
  obtain ⟨r', hr', rfl⟩ := Option.map_eq_some_iff.mp h
  cases hlong : afterSpaced? longer s with
  | none => rfl
  | some x =>
    obtain ⟨x', hx', -⟩ := Option.map_eq_some_iff.mp hlong
    rw [hl] at hx'
    have hsplit : afterToken? (spelling.toList ++ [d]) (skipSpaces s) =
        (afterToken? spelling.toList (skipSpaces s)).bind (afterToken? [d]) := by
      generalize spelling.toList = token
      generalize skipSpaces s = text
      induction token generalizing text with
      | nil => rfl
      | cons t token ih =>
        cases text with
        | nil => rfl
        | cons c text =>
          simp only [List.cons_append, afterToken?]
          split
          · exact ih text
          · rfl
    rw [hsplit, hr', Option.bind_some] at hx'
    cases r' with
    | nil => cases hx'
    | cons c r' =>
      simp only [afterToken?] at hx'
      split at hx'
      · rename_i hsame
        have hc := eq_of_sameLetter hsame hd
        subst hc
        exact absurd (skipSpaces_cons hspace r') (hr r')
      · cases hx'

/-- A comparison that begins with another one and goes on with one more character. -/
def continues (longer shorter : List Char) : Bool :=
  longer == shorter ++ ['='] || longer == shorter ++ ['>']

/-- Where two comparisons stand at one front, the longer one goes on with a character at which no
operand begins. -/
theorem firstToken?_comparison {op : BinaryOp} (ho : op ∈ Layer.comparison.operators)
    {spelling : String} (hs : spelling ∈ spellings op) {s r : List Char}
    (h : afterSpaced? spelling s = some r) (heq : ∀ tail, r ≠ '=' :: tail)
    (hgt : ∀ tail, r ≠ '>' :: tail) : firstToken? comparisonOps s = some (op, r) := by
  have hpairs : comparisonOps.Pairwise fun a b => agree a.1.toList b.1.toList = false ∨
      continues a.1.toList b.1.toList = true := by decide
  have hm : (spelling, op) ∈ Layer.comparison.table := Layer.mem_table_iff.mpr ⟨ho, hs⟩
  refine firstToken?_of_mem (hpairs.imp ?_) hm h
  rintro a b (hagree | hlonger) hb
  · exact afterSpaced?_eq_none hb hagree
  · simp only [continues, Bool.or_eq_true, beq_iff_eq] at hlonger
    rcases hlonger with hlonger | hlonger
    · exact afterSpaced?_longer hlonger (by decide) (by decide) hb heq
    · exact afterSpaced?_longer hlonger (by decide) (by decide) hb hgt

theorem compare_reads {below : Layers} {op : BinaryOp} {x y : Expr} {w t v : List Char}
    (hx : Reads deep (Layer.sum.parser below) .sum w x) (ht : Operator .comparison op t)
    (hy : Reads deep' (Layer.sum.parser below) .sum v y) :
    Reads (deep ∨ deep' ∨ maxDepth < (Expr.binary op x y).height)
      (Layer.comparison.parser below) .comparison (w ++ (t ++ v)) (.binary op x y) := by
  intro s rest hs hf
  have hassoc : w ++ (t ++ v) ++ rest = w ++ (t ++ (v ++ rest)) := by simp
  rw [hassoc] at hs
  have hleft := hx s (t ++ (v ++ rest)) hs (ht.follows _)
  have hright := hy _ rest (skipSpaces_skipSpaces (v ++ rest)) hf.next
  obtain ⟨ho, spelling, hsp, hspaced⟩ := ht
  have hop : firstToken? comparisonOps (skipSpaces (t ++ (v ++ rest))) =
      some (op, skipSpaces (v ++ rest)) := by
    have operand : ∀ c tail, isBarren c = true → Text.sameLetter '-' c = false → c ≠ '.' →
        skipSpaces (v ++ rest) ≠ c :: tail := by
      intro c tail hc hminus hdot hcons
      have hskip : skipSpaces (skipSpaces (v ++ rest)) = c :: tail := by
        rw [skipSpaces_skipSpaces, hcons]
      exact hright.ne_stuck _ (sum_stuck hskip hc hminus (constant?_cons_eq_none hdot tail))
    refine firstToken?_comparison ho hsp ?_
      (fun tail => operand '=' tail (by decide) (by decide) (by decide))
      (fun tail => operand '>' tail (by decide) (by decide) (by decide))
    rw [afterSpaced?_congr (skipSpaces_skipSpaces _)]
    exact afterSpaced?_append (isSolid_of_mem_spellings hsp) hspaced _
  change (comparison (Layer.sum.parser below) s).Ends _ _ _
  refine hleft.andThen ?_
  simp only [hop]
  rcases hright with ⟨hright, hd⟩ | ⟨hright, hd⟩
  · rw [hright]
    exact (bounded_ends _ _).or_of_not hd
  · rw [hright]
    exact .inr ⟨rfl, .inl hd⟩

theorem uncompared_reads {below : Layers} {e : Expr} {w : List Char}
    (hw : Reads deep (Layer.sum.parser below) .sum w e) :
    Reads deep (Layer.comparison.parser below) .comparison w e := by
  intro s rest hs hf
  have hnone : firstToken? Layer.comparison.table (skipSpaces rest) = none := by
    refine Follows.firstToken?_table ?_
    rwa [skipSpaces_skipSpaces]
  rw [Layer.table] at hnone
  change (comparison (Layer.sum.parser below) s).Ends _ _ _
  rcases hw s rest hs hf.next with ⟨hleft, hd⟩ | ⟨hleft, hd⟩
  · simp only [comparison, hleft, Outcome.andThen, hnone]
    exact .inl ⟨rfl, hd⟩
  · simp only [comparison, hleft, Outcome.andThen]
    exact .inr ⟨rfl, hd⟩

/-! ## Prefixes -/

theorem not_reads {below : Layers} {e : Expr} {t w : List Char}
    (ht : Spaced (Spells ".NOT.") t) (hw : Reads deep below.negation .negation w e) :
    Reads (deep ∨ maxDepth < (Expr.not e).height) (negationAt below) .negation (t ++ w)
      (.not e) := by
  intro s rest hs hf
  rw [List.append_assoc] at hs
  have hnot : afterSpaced? ".NOT." s = some (skipSpaces (w ++ rest)) := by
    rw [afterSpaced?_congr hs]
    exact afterSpaced?_append (by decide) ht _
  simp only [negationAt, hnot]
  exact (hw _ rest (skipSpaces_skipSpaces (w ++ rest)) hf).andThen (bounded_ends _ _)

theorem exists_dot_of_not {s r : List Char} (h : afterSpaced? ".NOT." s = some r) :
    ∃ tail, skipSpaces s = '.' :: tail ∧ constant? constants ('.' :: tail) = none := by
  obtain ⟨r', hr, -⟩ := Option.map_eq_some_iff.mp h
  obtain ⟨w, hw, hspells⟩ := afterToken?_eq_some_iff.mp hr
  cases w with
  | nil => cases hspells
  | cons c w =>
    have hall : (Text.sameLetter '.' c && Text.sameLetters "NOT.".toList w) = true := hspells
    have hc := eq_of_sameLetter (Bool.and_eq_true_iff.mp hall).1 (by decide)
    subst hc
    refine ⟨w ++ r', hw, constant?_eq_none fun entry hm => ?_⟩
    have hagree : ∀ entry ∈ constants, agree entry.1.toList ".NOT.".toList = false := by decide
    rw [hw] at hr
    exact afterToken?_eq_none hr (hagree entry hm)

theorem unnegated_reads {below : Layers} {e : Expr} {w : List Char}
    (hw : Reads deep (Layer.comparison.parser below) .comparison w e) :
    Reads deep (negationAt below) .negation w e := by
  intro s rest hs hf
  have hinner := hw s rest hs hf.next
  have hnone : afterSpaced? ".NOT." s = none := by
    cases hnot : afterSpaced? ".NOT." s with
    | none => rfl
    | some r =>
      obtain ⟨tail, hskip, hconstant⟩ := exists_dot_of_not hnot
      have hstuck : Layer.sum.parser below s = .stuck ('.' :: tail) :=
        sum_stuck hskip (by decide) (by decide) hconstant
      refine absurd ?_ (hinner.ne_stuck ('.' :: tail))
      change comparison (Layer.sum.parser below) s = _
      simp only [comparison, hstuck, Outcome.andThen]
  simp only [negationAt, hnone]
  exact hinner

theorem minus_reads {below : Layers} {e : Expr} {t w : List Char}
    (ht : Spaced (Spells "-") t) (hw : Reads deep below.unary .unary w e) :
    Reads (deep ∨ maxDepth < (Expr.negate e).height) (unaryAt below) .unary (t ++ w)
      (.negate e) := by
  intro s rest hs hf
  rw [List.append_assoc] at hs
  have hminus : afterSpaced? "-" s = some (skipSpaces (w ++ rest)) := by
    rw [afterSpaced?_congr hs]
    exact afterSpaced?_append (by decide) ht _
  simp only [unaryAt, hminus]
  exact (hw _ rest (skipSpaces_skipSpaces (w ++ rest)) hf).andThen (bounded_ends _ _)

theorem unsigned_reads {below : Layers} {e : Expr} {w : List Char}
    (hw : Reads deep (primary below) .primary w e) : Reads deep (unaryAt below) .unary w e := by
  intro s rest hs hf
  have hinner := hw s rest hs hf.next
  have hnone : afterSpaced? "-" s = none := by
    cases hminus : afterSpaced? "-" s with
    | none => rfl
    | some r =>
      obtain ⟨r', hr, -⟩ := Option.map_eq_some_iff.mp hminus
      obtain ⟨t, hskip, ht⟩ := afterToken?_eq_some_iff.mp hr
      have hspells : Spells "-" t := ht
      have hsymbol := hspells.eq_of_symbol rfl (by decide)
      rw [hsymbol] at hskip
      exact absurd (primary_stuck hskip (by decide) (constant?_cons_eq_none (by decide) _))
        (hinner.ne_stuck _)
  simp only [unaryAt, hnone]
  exact hinner

end

end RuleBench.Expr
