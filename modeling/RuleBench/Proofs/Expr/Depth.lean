import RuleBench.Proofs.Expr.Calls
import RuleBench.Proofs.Expr.Parse

set_option autoImplicit false

/-!
# Depth

A text that is only too deep is refused as such.  On the way, the layers of one level are run inside
those of the level above, each over a text that these have handed down, and never more than
`maxDepth` of them are at work inside one another.
-/

namespace RuleBench.Expr

/-! ## Trees within trees -/

inductive Subtree (x : Expr) : Expr → Prop where
  | refl : Subtree x x
  | not {e : Expr} (h : Subtree x e) : Subtree x (.not e)
  | negate {e : Expr} (h : Subtree x e) : Subtree x (.negate e)
  | left {op : BinaryOp} {l r : Expr} (h : Subtree x l) : Subtree x (.binary op l r)
  | right {op : BinaryOp} {l r : Expr} (h : Subtree x r) : Subtree x (.binary op l r)
  | argument {f : Function} {args : List Expr} {e : Expr} (he : e ∈ args) (h : Subtree x e) :
      Subtree x (.call f args)

theorem height_le_heights {e : Expr} {args : List Expr} (h : e ∈ args) :
    e.height ≤ heights args :=
  heights_le_iff.mp (Nat.le_refl _) e h

theorem Subtree.height_le {x e : Expr} (h : Subtree x e) : x.height ≤ e.height := by
  induction h with
  | refl => exact Nat.le_refl _
  | not _ ih | negate _ ih | left _ ih | right _ ih =>
    rw [height]
    omega
  | argument he _ ih =>
    have hle := height_le_heights he
    rw [height]
    omega

/-! ## Levels at work -/

/-- Layers of some level at work on a text. -/
structure Frame where
  level : Nat
  entry : Entry
  text : List Char

namespace Frame

def outcome (f : Frame) : Outcome Expr := (Layers.ofLevel f.level).run f.entry f.text

/-- The frames that a frame hands texts to. -/
def calls (f : Frame) : List Frame :=
  if f.level ≤ maxDepth then
    ((Layers.ofLevel (f.level + 1)).calls f.entry f.text).map fun c =>
      ⟨f.level + 1, c.entry, c.text⟩
  else []

/-- The frame of a whole text. -/
def whole (source : String) : Frame := ⟨1, .disjunction, skipSpaces source.toList⟩

/-- Frames inside one another on the way through a text, the innermost first. -/
inductive Nested (source : String) : List Frame → Prop where
  | whole : Nested source [whole source]
  | call {f g : Frame} {stack : List Frame} (h : Nested source (f :: stack)) (hg : g ∈ f.calls) :
      Nested source (g :: f :: stack)

theorem level_of_mem_calls {f g : Frame} (h : g ∈ f.calls) :
    g.level = f.level + 1 ∧ f.level ≤ maxDepth := by
  unfold calls at h
  split at h
  · obtain ⟨c, -, rfl⟩ := List.mem_map.mp h
    exact ⟨rfl, ‹_›⟩
  · exact absurd h List.not_mem_nil

theorem outcome_of_lt {f : Frame} (h : maxDepth < f.level) : f.outcome = .tooDeep :=
  Layers.run_ofLevel_of_lt h _ _

/-- What a frame makes of its text depends on its calls alone. -/
theorem outcome_eq {f : Frame} (hl : f.level ≤ maxDepth) {below : Layers}
    (h : ∀ g ∈ f.calls, below.run g.entry g.text = g.outcome) :
    f.outcome = below.over.run f.entry f.text := by
  have hover : f.outcome = (Layers.ofLevel (f.level + 1)).over.run f.entry f.text := by
    rw [outcome, Layers.run_ofLevel_of_le hl]
    cases f.entry <;> rfl
  rw [hover]
  refine Layers.over_congr _ _ fun c hc => (h ⟨f.level + 1, c.entry, c.text⟩ ?_).symm
  rw [calls, if_pos hl]
  exact List.mem_map_of_mem hc

theorem Nested.level {source : String} {f : Frame} {stack : List Frame}
    (h : Nested source (f :: stack)) : f.level = stack.length + 1 ∧ stack.length ≤ maxDepth := by
  generalize hs : f :: stack = frames at h
  induction h generalizing f stack with
  | whole =>
    cases hs
    exact ⟨rfl, Nat.zero_le _⟩
  | call _ hg ih =>
    cases hs
    obtain ⟨hlevel, -⟩ := ih rfl
    obtain ⟨hnext, hle⟩ := level_of_mem_calls hg
    rw [List.length_cons]
    exact ⟨by omega, by omega⟩

/-- At most `maxDepth` frames are at work inside one another: one more is refused at once. -/
theorem Nested.length_le {source : String} {stack : List Frame} (h : Nested source stack) :
    stack.length ≤ maxDepth ∨ ∃ f rest, stack = f :: rest ∧ rest.length = maxDepth ∧
      f.outcome = .tooDeep ∧ f.calls = [] := by
  cases stack with
  | nil => exact .inl (Nat.zero_le _)
  | cons f rest =>
    obtain ⟨hlevel, hle⟩ := h.level
    rcases Nat.lt_or_eq_of_le hle with hlt | heq
    · exact .inl hlt
    · have hbeyond : maxDepth < f.level := by omega
      exact .inr ⟨f, rest, rfl, heq, outcome_of_lt hbeyond, if_neg (Nat.not_le.mpr hbeyond)⟩

end Frame

/-! ## Texts that are too deep -/

theorem tooDeep_of_subtree {e x : Expr} {ps : List Point} (h : Subtree x e)
    (hx : maxDepth < x.height) : TooDeep (.tree .disjunction e) ps :=
  .inr (hx.trans_le h.height_le)

theorem parse_eq_tooDeep {source : String} {e : Expr} {ps : List Point}
    (h : Derivation 1 (.tree .disjunction e) source.toList ps)
    (hd : TooDeep (.tree .disjunction e) ps) : parse source = .error .tooDeep := by
  rcases parseTree_of_derivation h with ⟨-, hnot⟩ | ⟨ht, -⟩
  · exact absurd hd hnot
  · simp only [parse, ht, bind, Except.bind]

/-- A text that the grammar without its limits derives is refused for its depth if a point lies too
deep or a subtree is too high, be its calls as they may.  On the way, a frame makes of its text what
its calls make of theirs, and no more than `maxDepth` frames are at work inside one another. -/
theorem excess_depth_is_reported (source : String) :
    (∀ e ps, Derivation 1 (.tree .disjunction e) source.toList ps →
      ((∃ p ∈ ps, maxDepth < p.level) ∨ ∃ x, Subtree x e ∧ maxDepth < x.height) →
      ∃ error, parse source = .error error ∧ error.message = "expression nested too deeply") ∧
    (Layers.withRoom (maxDepth - 1)).disjunction (skipSpaces source.toList) =
      (Frame.whole source).outcome ∧
    (∀ f : Frame, f.level ≤ maxDepth → ∀ below : Layers,
      (∀ g ∈ f.calls, below.run g.entry g.text = g.outcome) →
      f.outcome = below.over.run f.entry f.text) ∧
    ∀ stack, Frame.Nested source stack → stack.length ≤ maxDepth ∨
      ∃ f rest, stack = f :: rest ∧ rest.length = maxDepth ∧ f.outcome = .tooDeep ∧
        f.calls = [] := by
  refine ⟨?_, rfl, fun f hl below h => Frame.outcome_eq hl h, fun stack h => h.length_le⟩
  rintro e ps h (hbeyond | ⟨x, hx, hhigh⟩)
  · exact ⟨.tooDeep, parse_eq_tooDeep h (.inl hbeyond), rfl⟩
  · exact ⟨.tooDeep, parse_eq_tooDeep h (tooDeep_of_subtree hx hhigh), rfl⟩

/-! ### A call with too few arguments, and one that lies too deep -/

theorem Derivation.minuses {level : Nat} (n : Nat) {e : Expr} {w : List Char} {ps : List Point}
    (h : Derivation (level + n) (.tree .unary e) w ps) :
    ∃ x, Derivation level (.tree .unary x) (List.replicate n '-' ++ w) ps := by
  induction n generalizing level with
  | zero => exact ⟨e, h⟩
  | succ n ih =>
    have hbelow : Derivation (level + 1 + n) (.tree .unary e) w ps := by
      rwa [Nat.add_right_comm, Nat.add_assoc]
    obtain ⟨x, hx⟩ := ih hbelow
    have hminus : Spaced (Spells "-") ['-'] := spaced_self "-" rfl
    exact ⟨.negate x, .minus (t := ['-']) hminus hx⟩

theorem deep_field_in_call_is_reported :
    ∃ source e ps, source = "IIF(" ++ String.ofList (List.replicate 63 '-') ++ "a)" ∧
      Derivation 1 (.tree .disjunction e) source.toList ps ∧
      ((∃ p ∈ ps, maxDepth < p.level) ∨ ∃ x, Subtree x e ∧ maxDepth < x.height) ∧
      ∃ error, parse source = .error error ∧ error.message = "expression nested too deeply" := by
  have hname : Name ['a'] := ⟨'a', [], rfl, by decide, by simp⟩
  let tip : Tip := ⟨_, ['a'], .field hname⟩
  have hfield : Derivation (2 + 63) (.tree .unary tip.tree) ['a'] [⟨2 + 63, some tip⟩] :=
    .unsigned (.atom tip spaces_nil spaces_nil)
  obtain ⟨x, hx⟩ := hfield.minuses 63
  have hcall := Derivation.disjunction_of_unary (.unsigned (.call (f := .iif) spaces_nil
    (n := "IIF".toList) rfl (spaced_self "(" rfl)
    (.someArguments hx.disjunction_of_unary .noFurtherArguments)
    (spaced_self ")" rfl)))
  have htext : ("IIF(" ++ String.ofList (List.replicate 63 '-') ++ "a)").toList =
      [] ++ ("IIF".toList ++ ("(".toList ++
        (List.replicate 63 '-' ++ ['a'] ++ [] ++ ")".toList))) := by
    simp
  rw [← htext] at hcall
  have hbeyond : (⟨2 + 63, some tip⟩ : Point) ∈ [⟨2 + 63, some tip⟩] ++ [] :=
    List.mem_singleton_self _
  have hdeep : (∃ p ∈ [⟨2 + 63, some tip⟩] ++ [], maxDepth < Point.level p) ∨
      ∃ y, Subtree y (.call .iif [x]) ∧ maxDepth < y.height :=
    .inl ⟨_, hbeyond, show maxDepth < 2 + 63 by decide⟩
  exact ⟨_, _, _, rfl, hcall, hdeep, (excess_depth_is_reported _).1 _ _ hcall hdeep⟩

end RuleBench.Expr
