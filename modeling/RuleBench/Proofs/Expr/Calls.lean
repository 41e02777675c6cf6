import RuleBench.Proofs.Expr.Layers

set_option autoImplicit false

/-!
# What a parser asks of the layers below it

A parser of one level hands texts to the layers one level further down: what stands in parentheses,
each argument, and what follows `.NOT.` or a minus.  Here are the texts that it hands down, in their
order, and the proof that none is missing: its outcome is the same over any two layers that say the
same about these texts.
-/

namespace RuleBench.Expr

/-- A text that is handed to the layers below. -/
structure Call where
  entry : Entry
  text : List Char

abbrev Calls := List Char → List Call

/-- Two layers say the same about some texts. -/
def Layers.AgreeOn (below below' : Layers) (calls : List Call) : Prop :=
  ∀ c ∈ calls, below.run c.entry c.text = below'.run c.entry c.text

namespace Layers.AgreeOn

variable {below below' : Layers} {calls more : List Call}

theorem left (h : below.AgreeOn below' (calls ++ more)) : below.AgreeOn below' calls :=
  fun c hc => h c (List.mem_append_left _ hc)

theorem right (h : below.AgreeOn below' (calls ++ more)) : below.AgreeOn below' more :=
  fun c hc => h c (List.mem_append_right _ hc)

theorem head {entry : Entry} {text : List Char}
    (h : below.AgreeOn below' (⟨entry, text⟩ :: calls)) :
    below.run entry text = below'.run entry text :=
  h _ List.mem_cons_self

theorem tail {c : Call} (h : below.AgreeOn below' (c :: calls)) : below.AgreeOn below' calls :=
  fun c hc => h c (List.mem_cons_of_mem _ hc)

end Layers.AgreeOn

/-- The calls made after a piece, if that was read. -/
def Outcome.onDone {α : Type} (o : Outcome α) (calls : Calls) : List Call :=
  match o with
  | .done _ rest => calls rest
  | _ => []

/-! ## Chains and comparisons -/

def operandCalls (ops : List (String × BinaryOp)) (operand : Parser Expr) (calls : Calls) :
    Nat → Calls
  | 0, _ => []
  | fuel + 1, s =>
    match firstToken? ops s with
    | none => []
    | some (_, rest) =>
      calls rest ++ (operand rest).onDone (operandCalls ops operand calls fuel)

def chainCalls (ops : List (String × BinaryOp)) (operand : Parser Expr) (calls : Calls) : Calls :=
  fun s => calls s ++ (operand s).onDone fun rest => operandCalls ops operand calls rest.length rest

def comparisonCalls (operand : Parser Expr) (calls : Calls) : Calls := fun s =>
  calls s ++ (operand s).onDone fun rest =>
    match firstToken? comparisonOps rest with
    | none => []
    | some (_, more) => calls more

section

variable {below below' : Layers} {operand operand' : Parser Expr} {calls : Calls}
  (hoperand : ∀ s, below.AgreeOn below' (calls s) → operand s = operand' s)

include hoperand

theorem operands_congr {ops : List (String × BinaryOp)} {fuel : Nat} {s : List Char}
    (h : below.AgreeOn below' (operandCalls ops operand calls fuel s)) :
    operands ops operand fuel s = operands ops operand' fuel s := by
  induction fuel generalizing s with
  | zero => rfl
  | succ fuel ih =>
    simp only [operandCalls] at h
    simp only [operands]
    split
    · rfl
    · rename_i op rest hop
      simp only [hop] at h
      rw [← hoperand rest h.left]
      split
      · rename_i e rest' he
        have hmore := h.right
        rw [he] at hmore
        rw [ih hmore]
      · rfl
      · rfl

theorem chain_congr {ops : List (String × BinaryOp)} {s : List Char}
    (h : below.AgreeOn below' (chainCalls ops operand calls s)) :
    chain ops operand s = chain ops operand' s := by
  unfold chain
  rw [← hoperand s h.left]
  cases he : operand s with
  | done first rest =>
    have hmore := h.right
    rw [he] at hmore
    simp only [Outcome.andThen, operands_congr hoperand hmore]
  | stuck | tooDeep => rfl

theorem comparison_congr {s : List Char}
    (h : below.AgreeOn below' (comparisonCalls operand calls s)) :
    comparison operand s = comparison operand' s := by
  unfold comparison
  rw [← hoperand s h.left]
  cases he : operand s with
  | done left rest =>
    have hmore := h.right
    rw [he] at hmore
    simp only [Outcome.onDone] at hmore
    simp only [Outcome.andThen]
    split
    · rfl
    · rename_i op more hop
      simp only [hop] at hmore
      rw [← hoperand more hmore]
  | stuck | tooDeep => rfl

end

/-! ## What stands alone -/

def furtherArgumentCalls (argument : Parser Expr) : Nat → Calls
  | 0, _ => []
  | fuel + 1, s =>
    match s with
    | ',' :: rest =>
      ⟨.disjunction, rest⟩ :: (argument rest).onDone (furtherArgumentCalls argument fuel)
    | _ => []

def argumentCalls (argument : Parser Expr) : Calls := fun s =>
  ⟨.disjunction, s⟩ ::
    (argument s).onDone fun rest => furtherArgumentCalls argument rest.length rest

def parenthesisCalls : Calls
  | '(' :: rest => [⟨.disjunction, rest⟩]
  | _ => []

def functionCalls (below : Layers) : Calls := fun s =>
  match name? s with
  | none => []
  | some (name, rest) =>
    match Function.ofName? name with
    | none => []
    | some _ =>
      match afterSpaced? "(" rest with
      | none => []
      | some rest => argumentCalls below.disjunction rest

def primaryHereCalls (below : Layers) : Calls := fun s =>
  parenthesisCalls s ++
    match parenthesized below s with
    | .stuck _ =>
      match atom? s with
      | some _ => []
      | none => functionCalls below s
    | _ => []

def unaryCalls (below : Layers) : Calls := fun s =>
  match afterSpaced? "-" s with
  | some rest => [⟨.unary, rest⟩]
  | none => primaryHereCalls below (skipSpaces s)

def negationCalls (below : Layers) : Calls := fun s =>
  match afterSpaced? ".NOT." s with
  | some rest => [⟨.negation, rest⟩]
  | none =>
    comparisonCalls (chain sumOps (chain productOps (unaryAt below)))
      (chainCalls sumOps (chain productOps (unaryAt below))
        (chainCalls productOps (unaryAt below) (unaryCalls below))) s

def disjunctionCalls (below : Layers) : Calls :=
  chainCalls orOps (chain andOps (negationAt below))
    (chainCalls andOps (negationAt below) (negationCalls below))

section

variable {below below' : Layers}

theorem moreArguments_congr {fuel : Nat} {s : List Char}
    (h : below.AgreeOn below' (furtherArgumentCalls below.disjunction fuel s)) :
    moreArguments below.disjunction fuel s = moreArguments below'.disjunction fuel s := by
  induction fuel generalizing s with
  | zero => rfl
  | succ fuel ih =>
    simp only [moreArguments]
    split
    · rename_i rest
      have hhead : below.disjunction rest = below'.disjunction rest := h.head
      rw [← hhead]
      split
      · rename_i e rest' he
        have hmore := h.tail
        rw [he] at hmore
        rw [ih hmore]
      · rfl
      · rfl
    · rfl

theorem arguments_congr {s : List Char}
    (h : below.AgreeOn below' (argumentCalls below.disjunction s)) :
    arguments below.disjunction s = arguments below'.disjunction s := by
  have hhead : below.disjunction s = below'.disjunction s := h.head
  unfold arguments
  rw [← hhead]
  split
  · rename_i e rest he
    have hmore := h.tail
    rw [he] at hmore
    rw [moreArguments_congr hmore]
  · rfl
  · rfl

theorem parenthesized_congr {s : List Char} (h : below.AgreeOn below' (parenthesisCalls s)) :
    parenthesized below s = parenthesized below' s := by
  unfold parenthesized
  split
  · rename_i rest
    have hhead : below.disjunction rest = below'.disjunction rest := h.head
    rw [hhead]
  · rfl

theorem functionCall_congr {s : List Char} (h : below.AgreeOn below' (functionCalls below s)) :
    functionCall below s = functionCall below' s := by
  unfold functionCalls at h
  unfold functionCall
  split
  · rfl
  · rename_i name rest hname
    simp only [hname] at h
    split
    · rfl
    · rename_i f hf
      simp only [hf] at h
      split
      · rfl
      · rename_i rest' hopen
        simp only [hopen] at h
        rw [arguments_congr h]

theorem primaryHere_congr {s : List Char} (h : below.AgreeOn below' (primaryHereCalls below s)) :
    primaryHere below s = primaryHere below' s := by
  unfold primaryHere
  rw [← parenthesized_congr h.left]
  split
  · rename_i hparen
    have hmore := h.right
    simp only [hparen] at hmore
    split
    · rfl
    · rename_i hatom
      simp only [hatom] at hmore
      rw [functionCall_congr hmore]
  · rfl

theorem unaryAt_congr (s : List Char) (h : below.AgreeOn below' (unaryCalls below s)) :
    unaryAt below s = unaryAt below' s := by
  unfold unaryCalls at h
  unfold unaryAt
  split
  · rename_i rest hminus
    simp only [hminus] at h
    have hhead : below.unary rest = below'.unary rest := h.head
    rw [hhead]
  · rename_i hminus
    simp only [hminus] at h
    unfold primary
    rw [primaryHere_congr h]

theorem negationAt_congr (s : List Char) (h : below.AgreeOn below' (negationCalls below s)) :
    negationAt below s = negationAt below' s := by
  unfold negationCalls at h
  unfold negationAt
  split
  · rename_i rest hnot
    simp only [hnot] at h
    have hhead : below.negation rest = below'.negation rest := h.head
    rw [hhead]
  · rename_i hnot
    simp only [hnot] at h
    exact comparison_congr (fun _ => chain_congr fun _ => chain_congr unaryAt_congr) h

theorem disjunctionAt_congr (s : List Char) (h : below.AgreeOn below' (disjunctionCalls below s)) :
    disjunctionAt below s = disjunctionAt below' s :=
  chain_congr (fun _ => chain_congr negationAt_congr) h

end

/-! ## Layers -/

/-- The layers over some others. -/
def Layers.over (below : Layers) : Layers :=
  ⟨disjunctionAt below, negationAt below, unaryAt below⟩

def Layers.calls (below : Layers) : Entry → Calls
  | .disjunction => disjunctionCalls below
  | .negation => negationCalls below
  | .unary => unaryCalls below

theorem Layers.over_congr {below below' : Layers} (entry : Entry) (s : List Char)
    (h : below.AgreeOn below' (below.calls entry s)) :
    below.over.run entry s = below'.over.run entry s := by
  cases entry with
  | disjunction => exact disjunctionAt_congr s h
  | negation => exact negationAt_congr s h
  | unary => exact unaryAt_congr s h

end RuleBench.Expr
