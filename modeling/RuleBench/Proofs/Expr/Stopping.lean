import RuleBench.Proofs.Expr.Arity

set_option autoImplicit false

/-!
# Where reading stops

A parser leaves a text from some character on, whether it has read a tree before it or not.  So an
error that gives an offset shows the text that stands there.  The text is said to end where nothing
is left but Unicode white space, of which the parser skips no more than four characters.
-/

namespace RuleBench.Expr

/-! ## What a parser leaves -/

/-- The text that is left, if there is any, is an end of this one. -/
def Outcome.Leaves {α : Type} (o : Outcome α) (s : List Char) : Prop :=
  match o with
  | .done _ rest => rest <:+ s
  | .stuck rest => rest <:+ s
  | .tooDeep => True

/-- A parser leaves an end of every text. -/
def Trails {α : Type} (p : Parser α) : Prop := ∀ s, (p s).Leaves s

namespace Outcome.Leaves

variable {α β : Type} {o : Outcome α} {s t : List Char}

theorem mono (h : o.Leaves s) (hs : s <:+ t) : o.Leaves t := by
  cases o with
  | done | stuck => exact List.IsSuffix.trans h hs
  | tooDeep => trivial

theorem andThen {k : α → Parser β} (h : o.Leaves s) (hk : ∀ a, Trails (k a)) :
    (o.andThen k).Leaves s := by
  cases o with
  | done a rest => exact (hk a rest).mono h
  | stuck => exact h
  | tooDeep => trivial

end Outcome.Leaves

theorem suffix_of_append {w s rest : List Char} (h : s = w ++ rest) : rest <:+ s := ⟨w, h.symm⟩

theorem skipSpaces_suffix (s : List Char) : skipSpaces s <:+ s := List.dropWhile_suffix _

theorem afterSpaced?_suffix {token : String} {s rest : List Char}
    (h : afterSpaced? token s = some rest) : rest <:+ s := by
  obtain ⟨-, w, hw, -⟩ := afterSpaced?_sound h
  exact suffix_of_append hw

theorem firstToken?_suffix {α : Type} {table : List (String × α)} {s rest : List Char} {a : α}
    (h : firstToken? table s = some (a, rest)) : rest <:+ s := by
  obtain ⟨spelling, -, hs⟩ := firstToken?_sound h
  exact afterSpaced?_suffix hs

theorem name?_suffix {s n rest : List Char} (h : name? s = some (n, rest)) : rest <:+ s :=
  suffix_of_append (name?_sound h).1

/-! ## Chains and comparisons -/

theorem trails_done {α : Type} (a : α) : Trails (.done a) := List.suffix_refl

theorem trails_bounded (e : Expr) : Trails (bounded e) := by
  intro s
  unfold bounded
  split
  · trivial
  · exact List.suffix_refl s

theorem trails_chainTree (first : Expr) (more : List (BinaryOp × Expr)) :
    Trails (chainTree first more) := by
  intro s
  unfold chainTree
  split
  · exact List.suffix_refl s
  · split
    · trivial
    · exact trails_bounded _ s

section

variable {operand : Parser Expr} (hoperand : Trails operand)

include hoperand

theorem trails_operands (ops : List (String × BinaryOp)) (fuel : Nat) :
    Trails (operands ops operand fuel) := by
  induction fuel with
  | zero => exact trails_done []
  | succ fuel ih =>
    intro s
    simp only [operands]
    split
    · exact List.suffix_refl s
    · rename_i op rest hop
      have hrest := firstToken?_suffix hop
      have hread := hoperand rest
      split
      · rename_i e rest' he
        rw [he] at hread
        have hmore := (ih rest').andThen fun more => trails_done ((op, e) :: more)
        exact hmore.mono (List.IsSuffix.trans hread hrest)
      · exact List.suffix_refl s
      · trivial

theorem trails_chain (ops : List (String × BinaryOp)) : Trails (chain ops operand) :=
  fun s => (hoperand s).andThen fun first rest =>
    (trails_operands hoperand ops rest.length rest).andThen fun more => trails_chainTree first more

theorem trails_comparison : Trails (comparison operand) := by
  refine fun s => (hoperand s).andThen fun left rest => ?_
  split
  · exact List.suffix_refl rest
  · rename_i op more hop
    have hmore := firstToken?_suffix hop
    have hread := hoperand more
    split
    · rename_i right rest' hright
      rw [hright] at hread
      exact (trails_bounded _ rest').mono (List.IsSuffix.trans hread hmore)
    · exact List.suffix_refl rest
    · trivial

theorem trails_moreArguments (fuel : Nat) : Trails (moreArguments operand fuel) := by
  induction fuel with
  | zero => exact trails_done []
  | succ fuel ih =>
    intro s
    simp only [moreArguments]
    split
    · rename_i rest
      have hread := hoperand rest
      split
      · rename_i e rest' he
        rw [he] at hread
        have hmore := (ih rest').andThen fun more => trails_done (e :: more)
        exact hmore.mono (List.IsSuffix.trans hread (List.suffix_cons ',' rest))
      · exact List.suffix_refl _
      · trivial
    · exact List.suffix_refl _

theorem trails_arguments : Trails (arguments operand) := by
  intro s
  have hread := hoperand s
  unfold arguments
  split
  · rename_i e rest he
    rw [he] at hread
    have hmore := (trails_moreArguments hoperand rest.length rest).andThen fun more =>
      trails_done (e :: more)
    exact hmore.mono hread
  · exact List.suffix_refl s
  · trivial

end

/-! ## What stands alone -/

structure Layers.Trail (layers : Layers) : Prop where
  disjunction : Trails layers.disjunction
  negation : Trails layers.negation
  unary : Trails layers.unary

theorem Layers.trail_closed : Layers.closed.Trail := by
  constructor <;> exact fun _ => trivial

section

variable {below : Layers} (hbelow : below.Trail)

include hbelow

theorem trails_parenthesized : Trails (parenthesized below) := by
  intro s
  unfold parenthesized
  split
  · rename_i rest
    refine Outcome.Leaves.mono ?_ (List.suffix_cons '(' rest)
    refine (hbelow.disjunction rest).andThen fun e r => ?_
    split
    · rename_i r' hclose
      exact afterSpaced?_suffix hclose
    · exact List.suffix_refl r
  · exact List.suffix_refl _

theorem trails_functionCall : Trails (functionCall below) := by
  intro s
  unfold functionCall
  split
  · exact List.suffix_refl s
  · rename_i name rest hname
    split
    · exact List.suffix_refl s
    · split
      · exact List.suffix_refl s
      · rename_i rest' hopen
        have hrest := (afterSpaced?_suffix hopen).trans (name?_suffix hname)
        refine Outcome.Leaves.mono ?_ hrest
        refine (trails_arguments hbelow.disjunction rest').andThen fun args r => ?_
        split
        · rename_i r' hclose
          exact (trails_bounded _ r').mono (afterSpaced?_suffix hclose)
        · exact List.suffix_refl r

omit hbelow in
theorem trails_fieldName : Trails fieldName := by
  intro s
  unfold fieldName
  split
  · rename_i n rest hname
    exact name?_suffix hname
  · exact List.suffix_refl s

theorem trails_primaryHere : Trails (primaryHere below) := by
  intro s
  have hparen := trails_parenthesized hbelow s
  have hcall := trails_functionCall hbelow s
  unfold primaryHere
  split
  · split
    · rename_i e rest hatom
      obtain ⟨w, hw, -⟩ := atom?_sound hatom
      exact suffix_of_append hw
    · split
      · exact trails_fieldName s
      · exact hcall
  · exact hparen

theorem trails_primary : Trails (primary below) := by
  intro s
  refine Outcome.Leaves.mono ?_ (skipSpaces_suffix s)
  refine (trails_primaryHere hbelow (skipSpaces s)).andThen fun e rest => ?_
  exact skipSpaces_suffix rest

theorem trails_unaryAt : Trails (unaryAt below) := by
  intro s
  unfold unaryAt
  split
  · rename_i rest hminus
    exact ((hbelow.unary rest).andThen fun e => trails_bounded _).mono (afterSpaced?_suffix hminus)
  · exact trails_primary hbelow s

theorem trails_negationAt : Trails (negationAt below) := by
  intro s
  unfold negationAt
  split
  · rename_i rest hnot
    exact ((hbelow.negation rest).andThen fun e => trails_bounded _).mono
      (afterSpaced?_suffix hnot)
  · exact trails_comparison (trails_chain (trails_chain (trails_unaryAt hbelow) _) _) s

theorem trails_disjunctionAt : Trails (disjunctionAt below) :=
  trails_chain (trails_chain (trails_negationAt hbelow) _) _

end

theorem Layers.trail_withRoom (room : Nat) : (Layers.withRoom room).Trail := by
  have closes : ∀ {below : Layers}, below.Trail →
      Layers.Trail ⟨disjunctionAt below, negationAt below, unaryAt below⟩ :=
    fun h => ⟨trails_disjunctionAt h, trails_negationAt h, trails_unaryAt h⟩
  induction room with
  | zero => exact closes trail_closed
  | succ room ih => exact closes ih

/-! ## Whole expressions -/

/-- `StopsAt source rest`: reading stops before `rest`, where the parser can go on with no tree, or
cannot go on behind the tree that it has read. -/
def StopsAt (source rest : List Char) : Prop :=
  match (Layers.withRoom (maxDepth - 1)).disjunction (skipSpaces source) with
  | .done _ left => rest = skipSpaces left ∧ rest ≠ []
  | .stuck left => rest = left
  | .tooDeep => False

theorem StopsAt.suffix {source rest : List Char} (h : StopsAt source rest) : rest <:+ source := by
  have hleaves := (Layers.trail_withRoom (maxDepth - 1)).disjunction (skipSpaces source)
  have hsource := hleaves.mono (skipSpaces_suffix source)
  unfold StopsAt at h
  split at h
  · rename_i e left hread
    rw [hread] at hsource
    rw [h.1]
    exact (skipSpaces_suffix left).trans hsource
  · rename_i left hread
    rw [hread] at hsource
    rw [h]
    exact hsource
  · exact h.elim

theorem parseTree_eq_error {source : List Char} {error : ParseError}
    (h : parseTree source = .error error) :
    error = .tooDeep ∨ ∃ rest, StopsAt source rest ∧ error = unread source rest := by
  unfold StopsAt
  unfold parseTree at h
  cases hread : (Layers.withRoom (maxDepth - 1)).disjunction (skipSpaces source) with
  | done e left =>
    rw [hread] at h
    simp only at h
    split at h
    · cases h
    · rename_i hleft
      cases h
      exact .inr ⟨_, ⟨rfl, by simpa using hleft⟩, rfl⟩
  | stuck left =>
    rw [hread] at h
    cases h
    exact .inr ⟨left, rfl, rfl⟩
  | tooDeep =>
    rw [hread] at h
    cases h
    exact .inl rfl

theorem trim_isEmpty_iff (s : List Char) :
    (Text.trim s).isEmpty = true ↔ ∀ c ∈ s, Text.isBlank c = true := by
  rw [List.isEmpty_iff, Text.trim, Text.trimEnd, List.reverse_eq_nil_iff, List.dropWhile_eq_nil_iff]
  constructor
  · intro h c hc
    rw [← List.takeWhile_append_dropWhile (p := Text.isBlank) (l := s)] at hc
    rcases List.mem_append.mp hc with hc | hc
    · exact List.mem_takeWhile_imp hc
    · exact h c (List.mem_reverse.mpr hc)
  · intro h c hc
    exact h c (List.dropWhile_subset _ (List.mem_reverse.mp hc))

theorem unread_append (before rest : List Char) :
    (∀ c ∈ rest, Text.isBlank c = true) ∧ unread (before ++ rest) rest = .endOfText ∨
    (∃ c ∈ rest, Text.isBlank c = false) ∧ unread (before ++ rest) rest =
      .unexpected (Text.byteSize before) (String.ofList (rest.take excerptLength)) := by
  unfold unread
  split
  · rename_i hempty
    exact .inl ⟨(trim_isEmpty_iff rest).mp hempty, rfl⟩
  · rename_i hsome
    rw [trim_isEmpty_iff] at hsome
    refine .inr ⟨by simpa using hsome, ?_⟩
    rw [Text.byteSize_append, Nat.add_sub_cancel_right]

theorem isBlank_of_isSpace {c : Char} (h : isSpace c = true) : Text.isBlank c = true := by
  simp only [isSpace, Bool.or_eq_true, beq_iff_eq] at h
  rcases h with ((rfl | rfl) | rfl) | rfl <;> decide

/-- What an error says that is about neither depth nor a number of arguments.  It shows the text
before which reading stops, and from which byte of the source that goes on, unless it is all white
space; then the source is said to end there.  In a source without white space of other kinds than
the parser skips, nothing but such blanks is left then. -/
theorem errors_show_where_reading_stops {source : String} {error : ParseError}
    (h : parse source = .error error) (hdepth : error ≠ .tooDeep)
    (hcount : ∀ f given, error ≠ .arity f given) :
    ∃ before rest, source.toList = before ++ rest ∧ StopsAt source.toList rest ∧
      ((∀ c ∈ rest, Text.isBlank c = true) ∧ error = .endOfText ∧
          error.message = "unexpected end of expression" ∨
        (∃ c ∈ rest, Text.isBlank c = false) ∧
          error = .unexpected (Text.byteSize before) (String.ofList (rest.take 16)) ∧
          error.message = s!"unexpected input at offset {Text.byteSize before}: " ++
            Text.quoted (String.ofList (rest.take 16))) ∧
      (Spaces rest → error = .endOfText) ∧
      ((∀ c ∈ source.toList, Text.isBlank c = true → isSpace c = true) →
        error = .endOfText → Spaces rest) := by
  obtain htree | ⟨e, -, herror⟩ := parse_error_iff_parseTree.mp h
  · obtain rfl | ⟨rest, hstops, rfl⟩ := parseTree_eq_error htree
    · exact absurd rfl hdepth
    · obtain ⟨before, hsource⟩ := hstops.suffix
      refine ⟨before, rest, hsource.symm, hstops, ?_⟩
      rw [← hsource]
      rcases unread_append before rest with ⟨hblank, hunread⟩ | ⟨⟨c, hc, hsolid⟩, hunread⟩
      · rw [hunread]
        exact ⟨.inl ⟨hblank, rfl, rfl⟩, fun _ => rfl, fun honly _ c hc =>
          honly c (List.mem_append_right _ hc) (hblank c hc)⟩
      · rw [hunread]
        refine ⟨.inr ⟨⟨c, hc, hsolid⟩, rfl, rfl⟩, fun hspaces => ?_, fun _ => nofun⟩
        cases hsolid.symm.trans (isBlank_of_isSpace (hspaces c hc))
  · obtain ⟨f, args, -, -, rfl⟩ := miscounts_of_arityError? e herror
    exact absurd rfl (hcount f args.length)

theorem field_behind_comparison_is_shown :
    ∃ error before rest, parse "A = 1 B" = .error error ∧
      error.message = "unexpected input at offset 6: \"B\"" ∧
      "A = 1 B".toList = before ++ rest ∧ StopsAt "A = 1 B".toList rest ∧
      Text.byteSize before = 6 ∧ String.ofList (rest.take 16) = "B" := by
  have h : parse "A = 1 B" = .error (.unexpected 6 "B") := rfl
  obtain ⟨before, rest, hsource, hstops, hend | hshown, -⟩ :=
    errors_show_where_reading_stops h nofun nofun
  · cases hend.2.1
  · obtain ⟨hoffset, hexcerpt⟩ := ParseError.unexpected.inj hshown.2.1
    exact ⟨_, before, rest, h, rfl, hsource, hstops, hoffset.symm, hexcerpt.symm⟩

/-- A vertical tab is no blank that the parser skips, but the source is said to end before it. -/
theorem vertical_tab_passes_for_the_end :
    ∃ error rest, parse "A\x0b" = .error error ∧
      error.message = "unexpected end of expression" ∧ StopsAt "A\x0b".toList rest ∧
      ¬ Spaces rest := by
  have hstops : StopsAt "A\x0b".toList ['\x0b'] := ⟨rfl, List.cons_ne_nil _ _⟩
  exact ⟨.endOfText, ['\x0b'], rfl, rfl, hstops, by simp [Spaces, isSpace]⟩

end RuleBench.Expr
