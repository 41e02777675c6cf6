import Mathlib.Tactic.Tauto
import RuleBench.Proofs.Expr.Derivation
import RuleBench.Proofs.Expr.Primaries
import RuleBench.Proofs.Expr.Soundness

set_option autoImplicit false

/-!
# The parser reads its grammar

A derivation decides what becomes of its text: it is refused if a point lies too deep or the tree is
too high, and else read as the tree.  So a text is read as a tree exactly when the grammar derives
the tree from it, the tree is not too high and every call in it has as many arguments as its
function takes.
-/

namespace RuleBench.Expr

/-! ## What is too deep -/

def Phrase.height : Phrase → Nat
  | .tree _ e => e.height
  | .links _ more => heights (more.map Prod.snd)
  | .arguments args | .furtherArguments args => heights args

/-- A point of the derivation lies beyond the deepest level, or what it derives is too high. -/
def TooDeep (phrase : Phrase) (ps : List Point) : Prop := Beyond ps ∨ maxDepth < phrase.height

section

variable {phrase a b : Phrase} {ps qs : List Point}

theorem tooDeep_tree {layer : Layer} {e : Expr} (h : a.height ≤ e.height) :
    TooDeep a ps ∨ maxDepth < e.height ↔ TooDeep (.tree layer e) ps := by
  have hle : maxDepth < a.height → maxDepth < e.height := fun ha => ha.trans_le h
  unfold TooDeep Phrase.height
  tauto

/-- A phrase of two parts may be too high where neither part is. -/
theorem tooDeep_append {high : Prop}
    (h : maxDepth < a.height ∨ maxDepth < b.height ∨ high ↔ maxDepth < phrase.height) :
    TooDeep a ps ∨ TooDeep b qs ∨ high ↔ TooDeep phrase (ps ++ qs) := by
  unfold TooDeep
  rw [beyond_append, ← h]
  tauto

theorem tooDeep_append_of_max (h : phrase.height = max a.height b.height) :
    TooDeep a ps ∨ TooDeep b qs ↔ TooDeep phrase (ps ++ qs) := by
  have hhigh : maxDepth < a.height ∨ maxDepth < b.height ∨ False ↔ maxDepth < phrase.height := by
    rw [or_false, h]
    omega
  simpa only [or_false] using tooDeep_append hhigh

end

theorem tooDeep_chain {layer layer' layer'' : Layer} {e : Expr} {more : List (BinaryOp × Expr)}
    {ps qs : List Point} :
    TooDeep (.tree layer e) ps ∨ TooDeep (.links layer' more) qs ∨
        (more ≠ [] ∧ maxDepth < (foldChain e more).height) ↔
      TooDeep (.tree layer'' (foldChain e more)) (ps ++ qs) := by
  refine tooDeep_append ?_
  obtain ⟨hlen, hmore⟩ := height_foldChain e more
  simp only [Phrase.height]
  cases more with
  | nil => simp [foldChain, heights]
  | cons m more => simp only [ne_eq, reduceCtorEq, not_false_eq_true, true_and]; omega

/-! ## What is derived is read -/

/-- What it means for a phrase to be read at its level, unless it is too deep. -/
def Complete (level : Nat) (deep : Prop) : Phrase → List Char → Prop
  | .tree layer e, w => Reads deep (layer.parser (.ofLevel (level + 1))) layer w e
  | .links layer more, w => layer.IsChain →
      ReadsLinks deep (layer.next.parser (.ofLevel (level + 1))) layer w more
  | .arguments args, w => ReadsArguments deep (Layers.ofLevel (level + 1)).disjunction w args
  | .furtherArguments args, w =>
      ReadsFurtherArguments deep (Layers.ofLevel (level + 1)).disjunction w args

/-- One level further down a text may be refused unread, and then has a point that is too deep. -/
theorem Derivation.run_reads {level : Nat} (entry : Entry) {e : Expr} {w : List Char}
    {ps : List Point} (h : Derivation level (.tree entry.layer e) w ps)
    (hread : level ≤ maxDepth →
      Complete level (TooDeep (.tree entry.layer e) ps) (.tree entry.layer e) w) :
    Reads (TooDeep (.tree entry.layer e) ps) ((Layers.ofLevel level).run entry) entry.layer w
      e := by
  rcases Nat.lt_or_ge maxDepth level with hlt | hle
  · intro s rest _ _
    rw [Layers.run_ofLevel_of_lt hlt]
    exact .inr ⟨rfl, .inl (h.beyond_of_lt id hlt)⟩
  · rw [Layers.run_ofLevel_of_le hle]
    exact hread hle

theorem noArguments_complete (level : Nat) :
    Complete level (TooDeep (.arguments []) [⟨level + 1, none⟩]) (.arguments []) [] := by
  refine noArguments_reads fun tail => ?_
  rcases Nat.lt_or_ge maxDepth (level + 1) with hlt | hle
  · exact .inl ⟨Layers.run_ofLevel_of_lt hlt .disjunction _,
      .inl ⟨_, List.mem_singleton_self _, hlt⟩⟩
  · refine .inr ⟨?_, ?_⟩
    · change (Layers.ofLevel (level + 1)).run .disjunction (')' :: tail) = _
      rw [Layers.run_ofLevel_of_le hle]
      exact disjunction_stuck _ tail
    · rintro (⟨p, hp, hlt⟩ | hlt)
      · rw [List.mem_singleton.mp hp] at hlt
        exact absurd hle (Nat.not_le.mpr hlt)
      · exact absurd hlt (Nat.not_lt_zero _)

theorem Derivation.complete {level : Nat} {phrase : Phrase} {w : List Char} {ps : List Point}
    (h : Derivation level phrase w ps) (hl : level ≤ maxDepth) :
    Complete level (TooDeep phrase ps) phrase w := by
  induction h with
  | chain hchain _ _ ihfirst ihrest =>
    have hread := chain_reads (ihfirst hl) (ihrest hl hchain)
    rw [Complete, Layer.parser_of_isChain hchain]
    exact hread.of_iff tooDeep_chain
  | noLink =>
    intro _
    exact (noLink_reads _ _).of_iff (by simp [TooDeep, Beyond, Phrase.height, heights])
  | link ht _ _ ihoperand ihrest =>
    intro hchain
    exact (link_reads hchain ht (ihoperand hl) (ihrest hl hchain)).of_iff
      (tooDeep_append_of_max rfl)
  | not ht h ih =>
    refine (not_reads ht (h.run_reads .negation ih)).of_iff (tooDeep_tree ?_)
    simp only [Phrase.height, Expr.height, Nat.le_succ]
  | unnegated _ ih => exact unnegated_reads (ih hl)
  | compare _ ht _ ihleft ihright =>
    refine (compare_reads (ihleft hl) ht (ihright hl)).of_iff
      (tooDeep_append ?_)
    simp only [Phrase.height, Expr.height]
    omega
  | uncompared _ ih => exact uncompared_reads (ih hl)
  | minus ht h ih =>
    refine (minus_reads ht (h.run_reads .unary ih)).of_iff (tooDeep_tree ?_)
    simp only [Phrase.height, Expr.height, Nat.le_succ]
  | unsigned _ ih => exact unsigned_reads (ih hl)
  | parentheses ht h hu ih => exact parentheses_reads ht (h.run_reads .disjunction ih) hu
  | atom tip hb ha =>
    have hheight : (Phrase.tree .primary tip.tree).height = 1 := tip.isAtom.height_eq
    refine (atom_reads hb tip.isAtom ha).of_iff ?_
    simp only [TooDeep, Beyond, List.mem_singleton, exists_eq_left, hheight, false_iff]
    exact fun h => h.elim (Nat.not_lt.mpr hl) (by decide)
  | call hb hn ht _ hu ih =>
    refine (call_reads hb hn ht (ih hl) hu).of_iff (tooDeep_tree ?_)
    simp only [Phrase.height, Expr.height, Nat.le_succ]
  | noArguments => exact noArguments_complete _
  | someArguments h _ ih ihrest =>
    exact (someArguments_reads (h.run_reads .disjunction ih) (ihrest hl)).of_iff
      (tooDeep_append_of_max rfl)
  | noFurtherArguments =>
    exact (noFurtherArguments_reads _).of_iff (by simp [TooDeep, Beyond, Phrase.height, heights])
  | furtherArgument ht h _ ih ihrest =>
    exact (furtherArgument_reads ht (h.run_reads .disjunction ih) (ihrest hl)).of_iff
      (tooDeep_append_of_max rfl)

/-! ## Whole expressions -/

theorem Spaced.pad {token : List Char → Prop} {before w : List Char} (hb : Spaces before)
    (h : Spaced token w) : Spaced token (before ++ w) := by
  obtain ⟨before', core, after, hb', hc, ha, rfl⟩ := h
  exact ⟨before ++ before', core, after, hb.append hb', hc, ha, by simp⟩

theorem Derives.pad {level : Nat} {phrase : Phrase} {before w : List Char} (hb : Spaces before)
    (h : Derives level phrase w) :
    ∀ layer e, phrase = .tree layer e → Derives level phrase (before ++ w) := by
  induction h with
  | chain hl _ hrest ihfirst _ =>
    intro _ _ _
    rw [← List.append_assoc]
    exact .chain hl (ihfirst _ _ rfl) hrest
  | not hlevel ht h _ =>
    intro _ _ _
    rw [← List.append_assoc]
    exact .not hlevel (ht.pad hb) h
  | unnegated _ ih => exact fun _ _ _ => .unnegated (ih _ _ rfl)
  | compare _ ht hright ihleft _ =>
    intro _ _ _
    rw [← List.append_assoc]
    exact .compare (ihleft _ _ rfl) ht hright
  | uncompared _ ih => exact fun _ _ _ => .uncompared (ih _ _ rfl)
  | minus hlevel ht h _ =>
    intro _ _ _
    rw [← List.append_assoc]
    exact .minus hlevel (ht.pad hb) h
  | unsigned _ ih => exact fun _ _ _ => .unsigned (ih _ _ rfl)
  | parentheses hlevel ht h hu _ =>
    intro _ _ _
    rw [← List.append_assoc]
    exact .parentheses hlevel (ht.pad hb) h hu
  | atom h => exact fun _ _ _ => .atom (h.pad hb)
  | call hb' hn ht h hu _ =>
    intro _ _ _
    rw [← List.append_assoc]
    exact .call (hb.append hb') hn ht h hu
  | noLink | link | noArguments | someArguments | noFurtherArguments | furtherArgument =>
    exact fun _ _ heq => nomatch heq

theorem parseTree_sound {source : List Char} {e : Expr} (h : parseTree source = .ok e) :
    Derives 1 (.tree .disjunction e) source ∧ e.height ≤ maxDepth := by
  unfold parseTree at h
  split at h
  · rename_i x rest hread
    have hsound := Layers.withRoom_sound (show 1 + (maxDepth - 1) = maxDepth by decide)
    obtain ⟨-, hle, hskip, w, hw, hd⟩ := hsound.disjunction _ _ _ hread
    simp only at h
    split at h
    · rename_i hempty
      cases h
      obtain ⟨before, hb, hs⟩ := exists_spaces source
      have hnil : rest = [] := by
        rw [← hskip]
        simpa using hempty
      rw [hnil, List.append_nil] at hw
      rw [hw] at hs
      rw [hs]
      exact ⟨hd.pad hb _ _ rfl, hle⟩
    · cases h
  · cases h
  · cases h

/-- A derived text is refused for its depth, or read as the tree that is derived. -/
theorem parseTree_of_derivation {source : List Char} {e : Expr} {ps : List Point}
    (h : Derivation 1 (.tree .disjunction e) source ps) :
    parseTree source = .ok e ∧ ¬ TooDeep (.tree .disjunction e) ps ∨
      parseTree source = .error .tooDeep ∧ TooDeep (.tree .disjunction e) ps := by
  have hlayer : (Layers.withRoom (maxDepth - 1)).disjunction =
      Layer.disjunction.parser (.ofLevel (1 + 1)) := by
    rw [Layers.withRoom_eq]
    rfl
  have hread := h.complete (by decide) (skipSpaces source) []
    (by rw [skipSpaces_skipSpaces, List.append_nil]) (.inl rfl)
  unfold parseTree
  rw [hlayer]
  rcases hread with ⟨hread, hd⟩ | ⟨hread, hd⟩
  · rw [hread]
    exact .inl ⟨rfl, hd⟩
  · rw [hread]
    exact .inr ⟨rfl, hd⟩

theorem parseTree_complete {source : List Char} {e : Expr}
    (h : Derives 1 (.tree .disjunction e) source) (hle : e.height ≤ maxDepth) (hf : e.Fits) :
    parseTree source = .ok e := by
  obtain ⟨ps, hps, hwithin⟩ := h.derivation (by decide) hf
  rcases parseTree_of_derivation hps with ⟨hread, -⟩ | ⟨-, hbeyond | hhigh⟩
  · exact hread
  · exact absurd hbeyond hwithin
  · exact absurd hhigh (Nat.not_lt.mpr hle)

theorem parse_ok_iff_parseTree {source : String} {e : Expr} :
    parse source = .ok e ↔ parseTree source.toList = .ok e ∧ e.Fits := by
  rw [← arityError?_eq_none_iff]
  unfold parse
  cases parseTree source.toList with
  | error x => simp [bind, Except.bind]
  | ok x =>
    cases hx : arityError? x with
    | some error =>
      simp only [bind, Except.bind, hx, throw, throwThe, MonadExceptOf.throw]
      grind
    | none =>
      simp only [bind, Except.bind, hx, pure, Except.pure]
      grind

theorem parse_error_iff_parseTree {source : String} {error : ParseError} :
    parse source = .error error ↔ parseTree source.toList = .error error ∨
      ∃ e, parseTree source.toList = .ok e ∧ arityError? e = some error := by
  unfold parse
  cases parseTree source.toList with
  | error x => simp [bind, Except.bind]
  | ok x =>
    cases hx : arityError? x with
    | some error =>
      simp only [bind, Except.bind, hx, throw, throwThe, MonadExceptOf.throw]
      grind
    | none =>
      simp only [bind, Except.bind, hx, pure, Except.pure]
      grind

theorem parse_sound {source : String} {e : Expr} (h : parse source = .ok e) :
    Derives 1 (.tree .disjunction e) source.toList ∧ e.height ≤ maxDepth ∧ e.Fits := by
  obtain ⟨ht, hfits⟩ := parse_ok_iff_parseTree.mp h
  obtain ⟨hd, hle⟩ := parseTree_sound ht
  exact ⟨hd, hle, hfits⟩

theorem parse_complete {source : String} {e : Expr}
    (h : Derives 1 (.tree .disjunction e) source.toList) (hle : e.height ≤ maxDepth)
    (hf : e.Fits) : parse source = .ok e :=
  parse_ok_iff_parseTree.mpr ⟨parseTree_complete h hle hf, hf⟩

/-- The parser accepts exactly its grammar, and builds the tree that the grammar gives. -/
theorem parse_eq_ok_iff (source : String) (e : Expr) :
    parse source = .ok e ↔
      Derives 1 (.tree .disjunction e) source.toList ∧ e.height ≤ maxDepth ∧ e.Fits :=
  ⟨parse_sound, fun ⟨hd, hle, hf⟩ => parse_complete hd hle hf⟩

end RuleBench.Expr
