import RuleBench.Proofs.Expr.Operators

set_option autoImplicit false

/-!
# What stands alone is read

Parentheses, atoms and calls.  The parser tries them in this order, and what is tried before the
right one does not stand there.
-/

namespace RuleBench.Expr

def ReadsArguments (deep : Prop) (argument : Parser Expr) (w : List Char) (args : List Expr) :
    Prop :=
  ∀ rest tail, skipSpaces rest = ')' :: tail →
    (arguments argument (skipSpaces (w ++ rest))).Ends deep args (skipSpaces rest)

theorem ReadsArguments.of_iff {deep deep' : Prop} {argument : Parser Expr} {w : List Char}
    {args : List Expr} (h : ReadsArguments deep argument w args) (hd : deep ↔ deep') :
    ReadsArguments deep' argument w args :=
  fun rest tail hclose => (h rest tail hclose).of_iff hd

def ReadsFurtherArguments (deep : Prop) (argument : Parser Expr) (w : List Char)
    (args : List Expr) : Prop :=
  ∀ rest tail fuel, (skipSpaces (w ++ rest)).length ≤ fuel → skipSpaces rest = ')' :: tail →
    Follows .disjunction (skipSpaces (w ++ rest)) ∧
      (moreArguments argument fuel (skipSpaces (w ++ rest))).Ends deep args (skipSpaces rest)

theorem ReadsFurtherArguments.of_iff {deep deep' : Prop} {argument : Parser Expr}
    {w : List Char} {args : List Expr} (h : ReadsFurtherArguments deep argument w args)
    (hd : deep ↔ deep') : ReadsFurtherArguments deep' argument w args :=
  fun rest tail fuel hfuel hclose => (h rest tail fuel hfuel hclose).imp_right fun h => h.of_iff hd

theorem exists_symbol {spelling : String} (c : Char) (hs : spelling.toList = [c])
    (hc : Text.asciiLetter c = false) (solid : isSolid spelling.toList = true) {t : List Char}
    (h : Spaced (Spells spelling) t) (rest : List Char) :
    ∃ after, skipSpaces (t ++ rest) = c :: after ∧ skipSpaces after = skipSpaces rest := by
  obtain ⟨core, after, hcore, ha, hskip⟩ := h.skipSpaces_append solid rest
  rw [hcore.eq_of_symbol hs hc] at hskip
  exact ⟨after ++ rest, hskip, skipSpaces_append ha rest⟩

theorem Follows.of_close {layer : Layer} {s tail : List Char} (h : s = ')' :: tail) :
    Follows layer s :=
  .inr ⟨")", List.mem_cons_self, tail, by rw [h]; rfl⟩

/-! ## Parentheses -/

theorem parentheses_reads {deep : Prop} {below : Layers} {e : Expr} {t w u : List Char}
    (ht : Spaced (Spells "(") t) (hw : Reads deep below.disjunction .disjunction w e)
    (hu : Spaced (Spells ")") u) : Reads deep (primary below) .primary (t ++ (w ++ u)) e := by
  intro s rest hs _
  have hassoc : t ++ (w ++ u) ++ rest = t ++ (w ++ (u ++ rest)) := by simp
  rw [hassoc] at hs
  obtain ⟨after, hopen, hafter⟩ := exists_symbol '(' rfl (by decide) (by decide) ht
    (w ++ (u ++ rest))
  obtain ⟨tail, hclose, -⟩ := exists_symbol ')' rfl (by decide) (by decide) hu rest
  have hend : afterSpaced? ")" (skipSpaces (u ++ rest)) = some (skipSpaces rest) := by
    rw [afterSpaced?_congr (skipSpaces_skipSpaces _)]
    exact afterSpaced?_append (by decide) hu rest
  rcases hw after (u ++ rest) hafter (.of_close hclose) with ⟨hinner, hd⟩ | ⟨hinner, hd⟩
  · simp only [primary, hs, hopen, primaryHere, parenthesized, hinner, hend, Outcome.andThen,
      skipSpaces_skipSpaces]
    exact .inl ⟨rfl, hd⟩
  · simp only [primary, hs, hopen, primaryHere, parenthesized, hinner, Outcome.andThen]
    exact .inr ⟨rfl, hd⟩

/-! ## Atoms -/

theorem functionCall_stuck {below : Layers} {n rest : List Char} (hn : Name n)
    (hr : Stops rest) : functionCall below (n ++ rest) = .stuck (n ++ rest) := by
  unfold functionCall
  rw [hn.name?_append hr.inName]
  simp only
  split
  · rfl
  · rw [hr.call]

theorem atom_reads {below : Layers} {e : Expr} {before core after : List Char}
    (hb : Spaces before) (hatom : Atom e core) (ha : Spaces after) :
    Reads False (primary below) .primary (before ++ core ++ after) e := by
  intro s rest hs hf
  have hafter : skipSpaces (after ++ rest) = skipSpaces rest := skipSpaces_append ha rest
  have hstops : Stops (after ++ rest) := Follows.stops (by rwa [hafter])
  have hskip : skipSpaces s = core ++ (after ++ rest) := by
    obtain ⟨c, tail, rfl, hc, -⟩ := hatom.exists_cons
    rw [hs, List.append_assoc, List.append_assoc, skipSpaces_append hb, List.cons_append,
      skipSpaces_cons hc]
  have hparen : parenthesized below (core ++ (after ++ rest)) =
      .stuck (core ++ (after ++ rest)) := by
    obtain ⟨c, tail, rfl, -, hc⟩ := hatom.exists_cons
    exact parenthesized_stuck hc _
  refine .inl ⟨?_, id⟩
  rcases hatom.atom?_append hstops with hread | ⟨hn, rfl, hnone⟩
  · simp only [primary, hskip, primaryHere, hparen, hread, Outcome.andThen, hafter]
  · simp only [primary, hskip, primaryHere, hparen, hnone, functionCall_stuck hn hstops, fieldName,
      hn.name?_append hstops.inName, Outcome.andThen, hafter]

/-! ## Calls -/

theorem noFurtherArguments_reads (argument : Parser Expr) :
    ReadsFurtherArguments False argument [] [] := by
  intro rest tail fuel _ hclose
  rw [List.nil_append, hclose]
  refine ⟨.of_close rfl, .inl ⟨?_, id⟩⟩
  cases fuel <;> rfl

section

variable {deep deep' : Prop} {argument : Parser Expr} {e : Expr} {args : List Expr}
  {t w v : List Char}

theorem furtherArgument_reads (ht : Spaced (Spells ",") t)
    (hw : Reads deep argument .disjunction w e)
    (hv : ReadsFurtherArguments deep' argument v args) :
    ReadsFurtherArguments (deep ∨ deep') argument (t ++ (w ++ v)) (e :: args) := by
  intro rest tail fuel hfuel hclose
  have hassoc : t ++ (w ++ v) ++ rest = t ++ (w ++ (v ++ rest)) := by simp
  rw [hassoc] at hfuel ⊢
  refine ⟨.of_spaced (by decide) (by decide) ht _, ?_⟩
  have hlen := ht.length_lt (by decide) (w ++ (v ++ rest))
  obtain ⟨fuel, rfl⟩ : ∃ n, fuel = n + 1 := Nat.exists_eq_succ_of_ne_zero (by omega)
  have hshort : (skipSpaces (v ++ rest)).length ≤ fuel := by
    have hskip := length_skipSpaces_le (v ++ rest)
    rw [List.length_append] at hlen
    omega
  obtain ⟨hnext, hmore⟩ := hv rest tail fuel hshort hclose
  obtain ⟨after, hcomma, hafter⟩ := exists_symbol ',' rfl (by decide) (by decide) ht
    (w ++ (v ++ rest))
  rcases hw after (v ++ rest) hafter hnext with ⟨hargument, hd⟩ | ⟨hargument, hd⟩
  · simp only [hcomma, moreArguments, hargument]
    exact (hmore.map fun args => e :: args).or_of_not hd
  · simp only [hcomma, moreArguments, hargument]
    exact .inr ⟨rfl, .inl hd⟩

theorem someArguments_reads (hw : Reads deep argument .disjunction w e)
    (hv : ReadsFurtherArguments deep' argument v args) :
    ReadsArguments (deep ∨ deep') argument (w ++ v) (e :: args) := by
  intro rest tail hclose
  rw [List.append_assoc]
  obtain ⟨hnext, hmore⟩ := hv rest tail _ (Nat.le_refl _) hclose
  rcases hw _ (v ++ rest) (skipSpaces_skipSpaces (w ++ (v ++ rest))) hnext with
    ⟨hargument, hd⟩ | ⟨hargument, hd⟩
  · simp only [arguments, hargument]
    exact (hmore.map fun args => e :: args).or_of_not hd
  · simp only [arguments, hargument]
    exact .inr ⟨rfl, .inl hd⟩

/-- Where there is no argument, one is looked for all the same, one level further down. -/
theorem noArguments_reads
    (hnone : ∀ tail, argument (')' :: tail) = .tooDeep ∧ deep ∨
      argument (')' :: tail) = .stuck (')' :: tail) ∧ ¬ deep) :
    ReadsArguments deep argument [] [] := by
  intro rest tail hclose
  rw [List.nil_append, hclose, arguments]
  rcases hnone tail with ⟨hargument, hd⟩ | ⟨hargument, hd⟩
  · exact .inr ⟨by simp only [hargument], hd⟩
  · exact .inl ⟨by simp only [hargument], hd⟩

end

theorem inName_head_of_open {t : List Char} (h : Spaced (Spells "(") t) (rest : List Char) :
    ∀ c ∈ (t ++ rest).head?, inName c = false := by
  obtain ⟨before, core, after, hb, hcore, -, rfl⟩ := h
  rw [hcore.eq_of_symbol rfl (by decide)]
  intro c hc
  cases before with
  | nil =>
    cases hc
    decide
  | cons d before =>
    cases hc
    exact inName_of_isSpace (hb _ List.mem_cons_self)

theorem call_reads {deep : Prop} {below : Layers} {f : Function} {args : List Expr}
    {before n t w u : List Char} (hb : Spaces before) (hn : Spells f.name n)
    (ht : Spaced (Spells "(") t) (hw : ReadsArguments deep below.disjunction w args)
    (hu : Spaced (Spells ")") u) :
    Reads (deep ∨ maxDepth < (Expr.call f args).height) (primary below) .primary
      (before ++ (n ++ (t ++ (w ++ u)))) (.call f args) := by
  intro s rest hs _
  have hname := Function.isName_of_spells hn
  have hskip : skipSpaces s = n ++ (t ++ (w ++ (u ++ rest))) := by
    obtain ⟨c, n, rfl, hc, -⟩ := hname
    have hassoc : before ++ (c :: n ++ (t ++ (w ++ u))) ++ rest =
        before ++ (c :: (n ++ (t ++ (w ++ (u ++ rest))))) := by simp
    rw [hs, hassoc, skipSpaces_append hb, skipSpaces_cons (Name.isSpace_head hc),
      List.cons_append]
  have hparen : parenthesized below (n ++ (t ++ (w ++ (u ++ rest)))) =
      .stuck (n ++ (t ++ (w ++ (u ++ rest)))) := by
    obtain ⟨c, n, rfl, hc, -⟩ := hname
    refine parenthesized_stuck ?_ _
    rintro rfl
    exact absurd hc (by decide)
  have hname? := hname.name?_append (inName_head_of_open ht (w ++ (u ++ rest)))
  have hopen := afterSpaced?_append (by decide) ht (w ++ (u ++ rest))
  obtain ⟨tail, hclose, -⟩ := exists_symbol ')' rfl (by decide) (by decide) hu rest
  have hargs := hw (u ++ rest) tail hclose
  have hend : afterSpaced? ")" (skipSpaces (u ++ rest)) = some (skipSpaces rest) := by
    rw [afterSpaced?_congr (skipSpaces_skipSpaces _)]
    exact afterSpaced?_append (by decide) hu rest
  have hcall : (functionCall below (n ++ (t ++ (w ++ (u ++ rest))))).Ends
      (deep ∨ maxDepth < (Expr.call f args).height) (.call f args) (skipSpaces rest) := by
    simp only [functionCall, hname?, Function.ofName?_of_spells hn, hopen]
    refine hargs.andThen ?_
    simp only [hend]
    exact bounded_ends _ _
  rcases hcall with ⟨hcall, hd⟩ | ⟨hcall, hd⟩
  · simp only [primary, hskip, primaryHere, hparen, Function.atom?_eq_none hn, hcall,
      Outcome.andThen, skipSpaces_skipSpaces]
    exact .inl ⟨rfl, hd⟩
  · simp only [primary, hskip, primaryHere, hparen, Function.atom?_eq_none hn, hcall,
      Outcome.andThen]
    exact .inr ⟨rfl, hd⟩

end RuleBench.Expr
