import RuleBench.Expr.Eval
import RuleBench.Proofs.Expr.Depth

set_option autoImplicit false

/-!
# Numbers of arguments

An argument is missing in evaluation only where a call has too few of them, and no such call is in a
tree that was read.  A text that is refused for a number of arguments has a call with that number.
-/

namespace RuleBench.Expr

/-- Every call within a tree has as many arguments as its function takes. -/
def Counted (e : Expr) : Prop := ∀ f args, Subtree (.call f args) e → args.length = f.arity

/-- Some call of the function has fewer arguments than this position, where it takes one. -/
def Lacks (e : Expr) (f : Function) (position : Nat) : Prop :=
  ∃ args, Subtree (.call f args) e ∧ args.length < position ∧ position ≤ f.arity

theorem Lacks.mono {e e' : Expr} {f : Function} {position : Nat} (h : e.Lacks f position)
    (hsub : ∀ x, Subtree x e → Subtree x e') : e'.Lacks f position := by
  obtain ⟨args, hcall, hlength⟩ := h
  exact ⟨args, hsub _ hcall, hlength⟩

theorem Counted.not_lacks {e : Expr} (h : e.Counted) (f : Function) (position : Nat) :
    ¬ e.Lacks f position := by
  rintro ⟨args, hcall, hlt, hle⟩
  have hlength := h f args hcall
  omega

/-! ## What is missing in evaluation -/

/-- No argument is missing here. -/
def Supplied {α : Type} (x : Except EvalError α) : Prop :=
  ∀ f position, x ≠ .error (.missingArgument f position)

theorem bind_eq_error {α β : Type} {x : Except EvalError α} {k : α → Except EvalError β}
    {error : EvalError} (h : x >>= k = .error error) :
    x = .error error ∨ ∃ a, x = .ok a ∧ k a = .error error := by
  cases x with
  | error _ =>
    cases h
    exact .inl rfl
  | ok a => exact .inr ⟨a, rfl, h⟩

theorem Supplied.map {α β : Type} {x : Except EvalError α} (h : Supplied x) (g : α → β) :
    Supplied (x.map g) := by
  intro f position heq
  cases x with
  | error error =>
    cases heq
    exact h f position rfl
  | ok a => cases heq

theorem supplied_asBool (asker : Asker) (v : Json) : Supplied (asBool asker v) := by
  cases v <;> exact nofun

theorem supplied_compare (op : BinaryOp) (v w : Json) : Supplied (compare op v w) := by
  unfold compare
  split <;> exact nofun

theorem supplied_contains (v w : Json) : Supplied (contains v w) := by
  unfold contains
  split <;> exact nofun

theorem supplied_realResult (op : BinaryOp) (a b : Number) : Supplied (realResult op a b) := by
  unfold realResult
  split
  · exact nofun
  · split <;> exact nofun

theorem supplied_arithmetic (op : BinaryOp) (v w : Json) : Supplied (arithmetic op v w) := by
  unfold arithmetic
  split
  · split
    · exact nofun
    · exact supplied_realResult op _ _
  · split <;> exact nofun
  · exact nofun

theorem supplied_decided? (op : BinaryOp) (v : Json) : Supplied (decided? op v) := by
  intro f position h
  cases op with
  | and | or =>
    obtain h | ⟨b, -, h⟩ := bind_eq_error h
    · exact supplied_asBool _ v f position h
    · cases b <;> cases h
  | _ => cases h

theorem supplied_combine (op : BinaryOp) (v w : Json) : Supplied (combine op v w) := by
  cases op with
  | and | or => exact (supplied_asBool _ w).map _
  | equal | notEqual => exact nofun
  | less | lessEqual | greater | greaterEqual => exact (supplied_compare _ v w).map _
  | contains => exact (supplied_contains v w).map _
  | add | subtract | multiply | divide => exact supplied_arithmetic _ v w

theorem supplied_lengthOf (v : Json) : Supplied (lengthOf v) := by
  cases v <;> exact nofun

theorem supplied_matchOf (v w : Json) : Supplied (matchOf v w) := by
  unfold matchOf
  split
  · exact nofun
  · split <;> exact nofun
  · exact nofun
  · exact nofun

theorem supplied_mapText (g : Function) (change : List Char → List Char) (v : Json) :
    Supplied (mapText g change v) := by
  cases v <;> exact nofun

section

variable {s : Scope} {f : Function} {position : Nat}

/-- What is missing in a call is missing in one of the arguments that its function takes. -/
theorem exists_argument_of_missing {g : Function} {argument : Nat → Except EvalError Json}
    (h : callValue g argument = .error (.missingArgument f position)) :
    ∃ index < g.arity, argument index = .error (.missingArgument f position) := by
  cases g with
  | iif =>
    obtain h | ⟨v, -, h⟩ := bind_eq_error h
    · exact ⟨0, by decide, h⟩
    · obtain h | ⟨b, -, h⟩ := bind_eq_error h
      · exact absurd h (supplied_asBool _ _ _ _)
      · cases b with
        | true => exact ⟨1, by decide, h⟩
        | false => exact ⟨2, by decide, h⟩
  | length =>
    obtain h | ⟨v, -, h⟩ := bind_eq_error h
    · exact ⟨0, by decide, h⟩
    · exact absurd h (supplied_lengthOf _ _ _)
  | «matches» =>
    obtain h | ⟨v, -, h⟩ := bind_eq_error h
    · exact ⟨0, by decide, h⟩
    · obtain h | ⟨w, -, h⟩ := bind_eq_error h
      · exact ⟨1, by decide, h⟩
      · exact absurd h (supplied_matchOf _ _ _ _)
  | upper | lower =>
    obtain h | ⟨v, -, h⟩ := bind_eq_error h
    · exact ⟨0, by decide, h⟩
    · exact absurd h (supplied_mapText _ _ _ _ _)

mutual

/-- An argument is missing only where a call lacks it. -/
theorem lacks_of_missing :
    ∀ e : Expr, eval s e = .error (.missingArgument f position) → e.Lacks f position
  | .literal _, h | .field _, h | .last _, h | .now, h | .today, h => nomatch h
  | .not x, h => by
    obtain h | ⟨v, -, h⟩ := bind_eq_error h
    · exact (lacks_of_missing x h).mono fun _ => .not
    · obtain h | ⟨b, -, h⟩ := bind_eq_error h
      · exact absurd h (supplied_asBool _ _ _ _)
      · cases h
  | .negate x, h => by
    obtain h | ⟨v, -, h⟩ := bind_eq_error h
    · exact (lacks_of_missing x h).mono fun _ => .negate
    · exact absurd h (supplied_arithmetic _ _ _ _ _)
  | .binary op l r, h => by
    obtain h | ⟨v, -, h⟩ := bind_eq_error h
    · exact (lacks_of_missing l h).mono fun _ => .left
    · obtain h | ⟨decision, -, h⟩ := bind_eq_error h
      · exact absurd h (supplied_decided? _ _ _ _)
      · cases decision with
        | some w => cases h
        | none =>
          obtain h | ⟨w, -, h⟩ := bind_eq_error h
          · exact (lacks_of_missing r h).mono fun _ => .right
          · exact absurd h (supplied_combine _ _ _ _ _)
  | .call g args, h => by
    obtain ⟨index, hindex, h⟩ := exists_argument_of_missing h
    obtain ⟨rfl, rfl, hle⟩ | ⟨x, hx, hlacks⟩ := lacks_of_missing_argument g index args index h
    · exact ⟨args, .refl, by omega, by omega⟩
    · exact hlacks.mono fun _ => .argument hx

theorem lacks_of_missing_argument (g : Function) (wanted : Nat) :
    ∀ (args : List Expr) (index : Nat),
      evalArgument s g wanted args index = .error (.missingArgument f position) →
      (g = f ∧ position = wanted + 1 ∧ args.length ≤ index) ∨ ∃ x ∈ args, x.Lacks f position
  | [], index, h => by
    cases h
    exact .inl ⟨rfl, rfl, Nat.zero_le _⟩
  | x :: rest, 0, h => .inr ⟨x, List.mem_cons_self, lacks_of_missing x h⟩
  | x :: rest, index + 1, h => by
    obtain ⟨hg, hposition, hle⟩ | ⟨y, hy, hlacks⟩ := lacks_of_missing_argument g wanted rest index h
    · exact .inl ⟨hg, hposition, Nat.succ_le_succ hle⟩
    · exact .inr ⟨y, List.mem_cons_of_mem _ hy, hlacks⟩

end

end

/-! ## What is refused -/

theorem AllFit.fits {args : List Expr} (h : AllFit args) : ∀ x ∈ args, x.Fits := by
  induction args with
  | nil => exact fun _ hx => absurd hx List.not_mem_nil
  | cons y args ih =>
    intro x hx
    rcases List.mem_cons.mp hx with rfl | hx
    · exact h.1
    · exact ih h.2 x hx

theorem Fits.subtree {x e : Expr} (hf : e.Fits) (h : Subtree x e) : x.Fits := by
  induction h with
  | refl => exact hf
  | not _ ih | negate _ ih => exact ih hf
  | left _ ih => exact ih hf.1
  | right _ ih => exact ih hf.2
  | argument he _ ih => exact ih (hf.2.fits _ he)

theorem Fits.counted {e : Expr} (h : e.Fits) : e.Counted := fun _ _ hcall => (h.subtree hcall).1

/-- The call that an error about a number of arguments is about. -/
def Miscounts (e : Expr) (error : ParseError) : Prop :=
  ∃ f args, Subtree (.call f args) e ∧ args.length ≠ f.arity ∧ error = .arity f args.length

theorem Miscounts.mono {e e' : Expr} {error : ParseError} (h : e.Miscounts error)
    (hsub : ∀ x, Subtree x e → Subtree x e') : e'.Miscounts error := by
  obtain ⟨f, args, hcall, hlength⟩ := h
  exact ⟨f, args, hsub _ hcall, hlength⟩

mutual

theorem miscounts_of_arityError? {error : ParseError} :
    ∀ e : Expr, arityError? e = some error → e.Miscounts error
  | .literal _, h | .field _, h | .last _, h | .now, h | .today, h => nomatch h
  | .not x, h => (miscounts_of_arityError? x h).mono fun _ => .not
  | .negate x, h => (miscounts_of_arityError? x h).mono fun _ => .negate
  | .binary _ l r, h => by
    obtain h | ⟨-, h⟩ := orElse_eq_some_iff.mp h
    · exact (miscounts_of_arityError? l h).mono fun _ => .left
    · exact (miscounts_of_arityError? r h).mono fun _ => .right
  | .call f args, h => by
    rw [arityError?] at h
    split at h
    · rename_i hlength
      cases h
      exact ⟨f, args, .refl, hlength, rfl⟩
    · obtain ⟨x, hx, hmiscounts⟩ := miscounts_of_arityErrors? args h
      exact hmiscounts.mono fun _ => .argument hx

theorem miscounts_of_arityErrors? {error : ParseError} :
    ∀ args : List Expr, arityErrors? args = some error → ∃ x ∈ args, x.Miscounts error
  | [], h => nomatch h
  | x :: rest, h => by
    obtain h | ⟨-, h⟩ := orElse_eq_some_iff.mp h
    · exact ⟨x, List.mem_cons_self, miscounts_of_arityError? x h⟩
    · obtain ⟨y, hy, hmiscounts⟩ := miscounts_of_arityErrors? rest h
      exact ⟨y, List.mem_cons_of_mem _ hy, hmiscounts⟩

end

theorem exists_miscounts_of_parseTree {source : String} {e : Expr}
    (h : parseTree source.toList = .ok e) (hcount : ¬ e.Counted) :
    ∃ error, parse source = .error error ∧ e.Miscounts error := by
  cases herror : arityError? e with
  | none => exact absurd ((arityError?_eq_none_iff e).mp herror).counted hcount
  | some error =>
    exact ⟨error, parse_error_iff_parseTree.mpr (.inr ⟨e, h, herror⟩),
      miscounts_of_arityError? e herror⟩

/-- Numbers of arguments are looked at only when a tree has been read. -/
theorem parseTree_ne_arity (source : List Char) (f : Function) (given : Nat) :
    parseTree source ≠ .error (.arity f given) := by
  unfold parseTree unread
  split
  · simp only
    split
    · exact nofun
    · split <;> exact nofun
  · split <;> exact nofun
  · exact nofun

/-- A tree that was read is not too high, every call in it has as many arguments as its function
takes, and so none is missing in evaluation, whatever the scope.  A text of which only the numbers
of arguments are wrong, as the grammar without its limits has it, is refused for a call within it
that has the wrong number. -/
theorem read_calls_are_counted (source : String) :
    (∀ e, parse source = .ok e → e.height ≤ maxDepth ∧
      (∀ f args, Subtree (.call f args) e → args.length = f.arity) ∧
      ∀ s f position, e.eval s ≠ .error (.missingArgument f position)) ∧
    (∀ e, parseTree source.toList = .ok e →
      (∃ f args, Subtree (.call f args) e ∧ args.length ≠ f.arity) →
      ∃ f args, Subtree (.call f args) e ∧ args.length ≠ f.arity ∧
        ∃ error, parse source = .error error ∧
          error.message = f.name ++ s!" expects {f.arity} argument(s), got {args.length}") ∧
    (∀ e ps, Derivation 1 (.tree .disjunction e) source.toList ps →
      (∀ p ∈ ps, p.level ≤ maxDepth) → e.height ≤ maxDepth → parseTree source.toList = .ok e) ∧
    ∀ f given, parse source = .error (.arity f given) →
      ∃ e args, parseTree source.toList = .ok e ∧ Subtree (.call f args) e ∧
        args.length = given ∧ given ≠ f.arity := by
  refine ⟨fun e h => ?_, fun e h => ?_, fun e ps h hlevel hheight => ?_, fun f given h => ?_⟩
  · obtain ⟨-, hle, hfits⟩ := parse_sound h
    have hcounted := hfits.counted
    exact ⟨hle, hcounted, fun s f position heval =>
      hcounted.not_lacks f position (lacks_of_missing e heval)⟩
  · rintro ⟨f, args, hcall, hlength⟩
    obtain ⟨error, hparse, f', args', hcall', hlength', rfl⟩ :=
      exists_miscounts_of_parseTree h fun hcounted => hlength (hcounted f args hcall)
    exact ⟨f', args', hcall', hlength', _, hparse, rfl⟩
  · rcases parseTree_of_derivation h with ⟨hread, -⟩ | ⟨-, ⟨p, hp, hlt⟩ | hhigh⟩
    · exact hread
    · exact absurd (hlevel p hp) (Nat.not_le.mpr hlt)
    · exact absurd hheight (Nat.not_le.mpr hhigh)
  · obtain htree | ⟨e, htree, herror⟩ := parse_error_iff_parseTree.mp h
    · exact absurd htree (parseTree_ne_arity _ f given)
    · obtain ⟨f', args, hcall, hlength, heq⟩ := miscounts_of_arityError? e herror
      cases heq
      exact ⟨e, args, htree, hcall, rfl, hlength⟩

/-- One text with a call of three arguments, two of them calls, and one with a call of none. -/
theorem call_of_nothing_is_refused :
    (∃ e, parse "IIF(A, LENGTH(B), UPPER(C))" = .ok e ∧
      ∀ s position, e.eval s ≠ .error (.missingArgument .iif position)) ∧
    (∃ ps, Derivation 1 (.tree .disjunction (.call .upper [])) "UPPER()".toList ps) ∧
    ∃ error, parse "UPPER()" = .error error ∧
      error.message = "UPPER expects 1 argument(s), got 0" := by
  obtain ⟨hread, -⟩ := read_calls_are_counted "IIF(A, LENGTH(B), UPPER(C))"
  obtain ⟨-, hrefused, hderived, -⟩ := read_calls_are_counted "UPPER()"
  have hcall : Derivation 1 (.tree .disjunction (.call .upper [])) "UPPER()".toList [⟨2, none⟩] :=
    .disjunction_of_unary (.unsigned (.call (f := .upper) spaces_nil (n := "UPPER".toList) rfl
      (spaced_self "(" rfl) .noArguments (spaced_self ")" rfl)))
  have htree := hderived _ _ hcall (by decide) (by decide)
  obtain ⟨f, args, hsub, -, error, hparse, hmessage⟩ :=
    hrefused _ htree ⟨.upper, [], .refl, by decide⟩
  have hread' := hread _ rfl
  refine ⟨⟨_, rfl, fun s position => hread'.2.2 s .iif position⟩, ⟨_, hcall⟩, error, hparse, ?_⟩
  cases hsub with
  | refl => exact hmessage
  | argument he => cases he

end RuleBench.Expr
