import RuleBench.Proofs.Expr.Characters
import RuleBench.Proofs.Json.Numbers

set_option autoImplicit false

/-!
# A number inside a text

What is read as a number by itself is read as the same number where a value may end behind it.
-/

namespace RuleBench.Json

namespace Scan

variable {α β : Type}

/-- What the scan yields on this text does not change when more follows that ends a value. -/
def ExtendsAt (s : Scan α) (text : List Char) : Prop :=
  ∀ (c c' : Cursor) (a : α), c.rest = text → s c = .ok a c' →
    c'.rest <:+ text ∧ ∀ rest, Stops rest → Yields s (text ++ rest) a (c'.rest ++ rest)

namespace ExtendsAt

variable {s : Scan α} {text : List Char}

theorem pure (a : α) (text : List Char) : ExtendsAt (Pure.pure a) text := by
  rintro c c' b rfl h
  cases h
  exact ⟨List.suffix_refl _, fun rest _ => .pure a _⟩

theorem fail (cause : Cause) (text : List Char) : ExtendsAt (Scan.fail cause : Scan α) text :=
  nofun

theorem failNext (cause : Cause) (text : List Char) :
    ExtendsAt (Scan.failNext cause : Scan α) text :=
  nofun

theorem bind {f : α → Scan β} (hs : ExtendsAt s text) (hf : ∀ a more, ExtendsAt (f a) more) :
    ExtendsAt (s >>= f) text := by
  intro c c'' b hc h
  obtain ⟨a, c', hrun, h⟩ := exists_of_bind h
  obtain ⟨hmore, hs⟩ := hs c c' a hc hrun
  obtain ⟨hmore', hf⟩ := hf a c'.rest c' c'' b rfl h
  exact ⟨hmore'.trans hmore, fun rest hrest => (hs rest hrest).bind (hf rest hrest)⟩

theorem take (ch : Char) (text : List Char) : ExtendsAt Scan.take (ch :: text) := by
  intro c c' a hc h
  obtain ⟨d, hd, hrest⟩ := Yields.take ch text c hc
  cases hd.symm.trans h
  exact ⟨hrest ▸ List.suffix_cons ch text, fun rest _ => hrest ▸ Yields.take ch (text ++ rest)⟩

/-- At the end of the text a look at the next character must come to the same as at what may
follow. -/
theorem peek {k : Option Char → Scan α}
    (hend : ∀ (c c' : Cursor) (a : α), c.rest = [] → k none c = .ok a c' →
      c'.rest = [] ∧ ∀ rest, Stops rest → Yields (k rest.head?) rest a rest)
    (hmore : ∀ ch more, ExtendsAt (k (some ch)) (ch :: more)) (text : List Char) :
    ExtendsAt (Scan.peek >>= k) text := by
  intro c c' a hc h
  change EStateM.bind Scan.peek k c = _ at h
  cases text with
  | nil =>
    simp only [EStateM.bind, Scan.peek, hc] at h
    obtain ⟨hc', hk⟩ := hend c c' a hc h
    rw [hc']
    exact ⟨List.suffix_refl [], fun rest hrest => (Yields.peek rest).bind (hk rest hrest)⟩
  | cons ch more =>
    simp only [EStateM.bind, Scan.peek, hc] at h
    obtain ⟨hsuffix, hk⟩ := hmore ch more _ c' a (by rfl) h
    exact ⟨hsuffix, fun rest hrest => (Yields.peek _).bind (hk rest hrest)⟩

end ExtendsAt

end Scan

/-! ## The parts of a number -/

theorem digitsFrom_extends (n count : Nat) (text : List Char) :
    (digitsFrom n count text).2.2 <:+ text ∧
      ∀ rest, rest.head?.map Text.asciiDigit ≠ some true →
        digitsFrom n count (text ++ rest) =
          ((digitsFrom n count text).1, (digitsFrom n count text).2.1,
            (digitsFrom n count text).2.2 ++ rest) := by
  induction text generalizing n count with
  | nil => exact ⟨List.suffix_refl [], fun rest hrest =>
      digitsFrom_append (List.forall_mem_nil _) n count hrest⟩
  | cons c text ih =>
    simp only [List.cons_append, digitsFrom]
    split
    · obtain ⟨hsuffix, hrest⟩ := ih (10 * n + (c.toNat - '0'.toNat)) (count + 1)
      exact ⟨hsuffix.trans (List.suffix_cons c text), hrest⟩
    · exact ⟨List.suffix_refl _, fun _ _ => rfl⟩

theorem exponentFrom_extends (n count : Nat) (text : List Char) :
    (exponentFrom n count text).2.2 <:+ text ∧
      ∀ rest, rest.head?.map Text.asciiDigit ≠ some true →
        exponentFrom n count (text ++ rest) =
          ((exponentFrom n count text).1, (exponentFrom n count text).2.1,
            (exponentFrom n count text).2.2 ++ rest) := by
  induction text generalizing n count with
  | nil =>
    refine ⟨List.suffix_refl [], fun rest hrest => ?_⟩
    cases rest with
    | nil => rfl
    | cons c rest =>
      have hc : ¬ Text.asciiDigit c = true := fun hc => hrest (congrArg some hc)
      simp only [List.nil_append, exponentFrom, if_neg hc]
  | cons c text ih =>
    simp only [List.cons_append, exponentFrom]
    split
    · split
      · exact ⟨List.suffix_cons c text, fun _ _ => rfl⟩
      · obtain ⟨hsuffix, hrest⟩ := ih (10 * n + (c.toNat - '0'.toNat)) (count + 1)
        exact ⟨hsuffix.trans (List.suffix_cons c text), hrest⟩
    · exact ⟨List.suffix_refl _, fun _ _ => rfl⟩

namespace Scan.ExtendsAt

theorem digits (n : Nat) (text : List Char) : ExtendsAt (Scan.digits n) text := by
  rintro c c' a rfl h
  obtain ⟨hsuffix, hmore⟩ := digitsFrom_extends n 0 c.rest
  cases h
  refine ⟨hsuffix, fun rest hrest d hd => ?_⟩
  exact ⟨_, by rw [Scan.digits, hd, hmore rest hrest.asciiDigit], rfl⟩

theorem exponentDigits (n : Nat) (text : List Char) : ExtendsAt (Scan.exponentDigits n) text := by
  rintro c c' a rfl h
  obtain ⟨hsuffix, hmore⟩ := exponentFrom_extends n 0 c.rest
  cases h
  refine ⟨hsuffix, fun rest hrest d hd => ?_⟩
  exact ⟨_, by rw [Scan.exponentDigits, hd, hmore rest hrest.asciiDigit], rfl⟩

theorem decimal (negative : Bool) (n : Nat) (e : Int) (text : List Char) :
    ExtendsAt (Scan.decimal negative n e) text := by
  unfold Scan.decimal
  cases Binary64.ofDecimal? negative n e with
  | some x => exact pure _ text
  | none => exact fail _ text

theorem wholeNumber (negative : Bool) (n : Nat) (text : List Char) :
    ExtendsAt (Scan.wholeNumber negative n) text := by
  unfold Scan.wholeNumber
  split
  · exact pure _ text
  · cases Whole.ofInt? (if negative = true then -(n : Int) else n) with
    | some w => exact pure _ text
    | none => exact decimal negative n 0 text

theorem peek_of_fail {α : Type} {k : Option Char → Scan α} {cause : Cause}
    (hnone : k none = Scan.fail cause) (hmore : ∀ ch more, ExtendsAt (k (some ch)) (ch :: more))
    (text : List Char) : ExtendsAt (Scan.peek >>= k) text := by
  refine peek (fun c c' a _ h => ?_) hmore text
  rw [hnone] at h
  cases h

/-- As `peek`, where what may follow a value makes no difference. -/
theorem peek_of_eq {α : Type} {k : Option Char → Scan α} (hnone : ∀ text, ExtendsAt (k none) text)
    (hend : ∀ ch, EndsValue ch → k (some ch) = k none)
    (hmore : ∀ ch more, ExtendsAt (k (some ch)) (ch :: more)) (text : List Char) :
    ExtendsAt (Scan.peek >>= k) text := by
  refine peek (fun c c' a hc h => ?_) hmore text
  obtain ⟨hsuffix, hrest⟩ := hnone [] c c' a hc h
  have hnil := List.suffix_nil.mp hsuffix
  have hstops : ∀ rest, Stops rest → k rest.head? = k none := by
    rintro (_ | ⟨z, rest⟩) hz
    · rfl
    · exact hend z hz
  refine ⟨hnil, fun rest hr => ?_⟩
  rw [hstops rest hr]
  simpa [hnil] using hrest rest hr

theorem sign {α : Type} {k : Bool → Scan α} (hk : ∀ down more, ExtendsAt (k down) more)
    (text : List Char) :
    ExtendsAt (do
      let down ← do
        match ← Scan.peek with
        | some '+' => Scan.take; Pure.pure false
        | some '-' => Scan.take; Pure.pure true
        | _ => Pure.pure false
      k down) text := by
  refine peek_of_eq (hk false) (by rintro _ ⟨⟩ <;> rfl) (fun ch more => ?_) text
  simp only
  split
  · exact (take _ more).bind fun _ more => hk false more
  · exact (take _ more).bind fun _ more => hk true more
  · exact hk false _

theorem exponentPart (negative : Bool) (n : Nat) (e : Int) (ch : Char) (text : List Char) :
    ExtendsAt (Scan.exponentPart negative n e) (ch :: text) := by
  refine (take ch text).bind fun _ more => sign (fun down more => ?_) more
  refine peek_of_fail rfl (fun c more => ?_) more
  simp only
  split
  · exact failNext _ _
  · refine (exponentDigits 0 _).bind fun x more => ?_
    cases x with
    | some x => exact decimal _ _ _ more
    | none =>
      simp only
      split
      · exact fail _ more
      · exact (digits 0 more).bind fun _ more => pure _ more

theorem fractionPart (negative : Bool) (n : Nat) (ch : Char) (text : List Char) :
    ExtendsAt (Scan.fractionPart negative n) (ch :: text) := by
  refine (take ch text).bind fun _ more => (digits n more).bind fun d more => ?_
  obtain ⟨m, count⟩ := d
  by_cases hcount : count = 0
  · simp only [hcount, if_true]
    exact peek_of_fail rfl (fun _ _ => failNext _ _) more
  · simp only [hcount, if_false]
    refine peek_of_eq (decimal _ _ _) (by rintro _ ⟨⟩ <;> exact if_neg (by decide))
      (fun c more => ?_) more
    simp only
    split
    · exact exponentPart _ _ _ c more
    · exact decimal _ _ _ _

theorem wholePart (text : List Char) : ExtendsAt Scan.wholePart text := by
  refine peek_of_fail rfl (fun c more => ?_) text
  split
  · rename_i h
    cases h
  · rename_i h
    obtain rfl := Option.some.inj h
    refine (take _ more).bind fun _ more =>
      peek_of_eq (pure 0) (by rintro _ ⟨⟩ <;> rfl) (fun c more => ?_) more
    split
    · exact failNext _ _
    · exact pure 0 _
  · split
    · exact (digits 0 _).bind fun _ more => pure _ more
    · exact failNext _ _

theorem number (negative : Bool) (text : List Char) : ExtendsAt (Scan.number negative) text := by
  refine (wholePart text).bind fun n more =>
    peek_of_eq (wholeNumber _ _) (by rintro _ ⟨⟩ <;> rfl) (fun c more => ?_) more
  split
  · exact fractionPart _ _ _ more
  · exact exponentPart _ _ _ _ more
  · exact exponentPart _ _ _ _ more
  · exact wholeNumber _ _ _

end Scan.ExtendsAt

/-! ## The text of a number -/

/-- A digit and more, without blanks. -/
def IsFigures : List Char → Prop
  | [] => False
  | d :: more => Text.asciiDigit d = true ∧ ∀ c ∈ more, Cursor.isSpace c = false

theorem isSpace_of_asciiDigit {c : Char} (h : Text.asciiDigit c = true) :
    Cursor.isSpace c = false := by
  refine Bool.eq_false_iff.mpr fun hs => ?_
  simp only [Cursor.isSpace, Bool.or_eq_true, beq_iff_eq, or_assoc] at hs
  rcases hs with rfl | rfl | rfl | rfl <;> exact absurd h (by decide)

theorem IsFigures.append {text more : List Char} (h : IsFigures text)
    (hmore : ∀ c ∈ more, Cursor.isSpace c = false) : IsFigures (text ++ more) := by
  match text, h with
  | d :: rest, h =>
    refine ⟨h.1, fun c hc => ?_⟩
    rcases List.mem_append.mp hc with hc | hc
    · exact h.2 c hc
    · exact hmore c hc

theorem IsFigures.isSpace {text : List Char} (h : IsFigures text) :
    ∀ c ∈ text, Cursor.isSpace c = false := by
  match text, h with
  | d :: rest, h => exact List.forall_mem_cons.mpr ⟨isSpace_of_asciiDigit h.1, h.2⟩

theorem isFigures_of_digits {digits : List Char} (hne : digits ≠ [])
    (h : ∀ c ∈ digits, Text.asciiDigit c = true) : IsFigures digits := by
  match digits, hne with
  | d :: digits, _ =>
    obtain ⟨hd, hdigits⟩ := List.forall_mem_cons.mp h
    exact ⟨hd, fun c hc => isSpace_of_asciiDigit (hdigits c hc)⟩

theorem isFigures_toDigits (n : Nat) : IsFigures (Nat.toDigits 10 n) :=
  isFigures_of_digits Nat.toDigits_ne_nil (asciiDigit_toDigits n)

theorem isFigures_writePlain {digits : List Char} (hne : digits ≠ [])
    (h : ∀ c ∈ digits, Text.asciiDigit c = true) (lead : Int) :
    IsFigures (Binary64.writePlain digits lead) := by
  have hzeros : ∀ n, ∀ c ∈ List.replicate n '0', Cursor.isSpace c = false := by
    intro n c hc
    rw [List.eq_of_mem_replicate hc]
    rfl
  have hspace : ∀ c ∈ digits, Cursor.isSpace c = false := fun c hc =>
    isSpace_of_asciiDigit (h c hc)
  unfold Binary64.writePlain
  split
  · have hpoint : IsFigures ['0', '.'] := ⟨rfl, List.forall_mem_singleton.mpr rfl⟩
    exact (hpoint.append (hzeros _)).append hspace
  · have htake : IsFigures (digits.take (lead.toNat + 1)) := by
      refine isFigures_of_digits ?_ fun c hc => h c (List.mem_of_mem_take hc)
      simpa using hne
    refine (htake.append (hzeros _)).append (List.forall_mem_cons.mpr ⟨rfl, ?_⟩)
    split
    · exact hzeros 1
    · exact fun c hc => hspace c (List.mem_of_mem_drop hc)

theorem isFigures_writeScientific {digits : List Char} (hne : digits ≠ [])
    (h : ∀ c ∈ digits, Text.asciiDigit c = true) (lead : Int) :
    IsFigures (Binary64.writeScientific digits lead) := by
  have hfirst : IsFigures (Binary64.pointAfterFirst digits) := by
    match digits, hne with
    | [d], _ => exact ⟨h d List.mem_cons_self, nofun⟩
    | d :: e :: more, _ =>
      obtain ⟨hd, hmore⟩ := List.forall_mem_cons.mp h
      exact ⟨hd, List.forall_mem_cons.mpr
        ⟨rfl, fun c hc => isSpace_of_asciiDigit (hmore c hc)⟩⟩
  refine hfirst.append (List.forall_mem_cons.mpr ⟨rfl, List.forall_mem_cons.mpr ⟨?_, ?_⟩⟩)
  · split <;> rfl
  · exact (isFigures_toDigits _).isSpace

theorem exists_figures_real (x : Binary64) :
    ∃ figures, IsFigures figures ∧ x.text = (if x.negative then ['-'] else []) ++ figures := by
  have hne : Nat.toDigits 10 x.shortest.1 ≠ [] := Nat.toDigits_ne_nil
  simp only [Binary64.text]
  by_cases hzero : x.isZero = true
  · rw [if_pos hzero]
    exact ⟨_, isFigures_writePlain (List.cons_ne_nil '0' []) (asciiDigit_toDigits 0) 0, rfl⟩
  · rw [if_neg hzero]
    refine ⟨_, ?_, rfl⟩
    split
    · exact isFigures_writePlain hne (asciiDigit_toDigits _) _
    · exact isFigures_writeScientific hne (asciiDigit_toDigits _) _

theorem exists_figures (n : Number) :
    ∃ (negative : Bool) (figures : List Char), IsFigures figures ∧
      n.text = (if negative then ['-'] else []) ++ figures := by
  cases n with
  | whole w =>
    refine ⟨decide (w.val < 0), _, isFigures_toDigits w.val.natAbs, ?_⟩
    simp [Number.text]
  | real x => exact ⟨x.negative, exists_figures_real x⟩

/-! ## Numbers in a text -/

/-- The text of a double is read as that double. -/
def ReadsBack (x : Binary64) : Prop :=
  Json.parse (String.ofList x.text) = .ok (.num (.real x))

theorem asciiDigit_cases {d : Char} (h : Text.asciiDigit d = true) :
    d = '0' ∨ d = '1' ∨ d = '2' ∨ d = '3' ∨ d = '4' ∨ d = '5' ∨ d = '6' ∨ d = '7' ∨ d = '8' ∨
      d = '9' := by
  have hd := (Expr.asciiDigit_iff d).mp h
  simp only [← Char.toNat_inj, Char.reduceToNat]
  omega

namespace Scan

theorem placed_congr {α : Type} {s s' : Scan α} {c c' : Cursor} (h : s c = s' c') :
    placed s c = placed s' c' := by
  rw [placed, placed, h]

theorem eq_ok_of_placed {α : Type} {s : Scan α} {c c' : Cursor} {a : α}
    (h : placed s c = .ok a c') : s c = .ok a c' := by
  unfold placed at h
  split at h
  · rename_i heq
    rw [heq, h]
  · cases h

/-- At a number a value is that number. -/
theorem value_eq_number (depth : Nat) (negative : Bool) {gap figures rest : List Char}
    (hgap : Blank gap) (h : IsFigures figures) {c : Cursor}
    (hc : c.rest = gap ++ ((if negative then ['-'] else []) ++ figures ++ rest)) :
    ∃ c' : Cursor, c'.rest = figures ++ rest ∧
      value (depth + 1) c = placed (do return .num (← number negative)) c' := by
  match figures, h with
  | d :: more, h =>
    cases negative with
    | true =>
      obtain ⟨c', hc', hlook⟩ := (Yields.look_of_blank hgap (by rfl) _).exists_bind hc
      obtain ⟨c'', hc'', htake⟩ := (Yields.take '-' _).exists_bind hc'
      exact ⟨c'', hc'', placed_congr ((hlook _).trans (htake _))⟩
    | false =>
      obtain ⟨c', hc', hlook⟩ :=
        (Yields.look_of_blank hgap (isSpace_of_asciiDigit h.1) _).exists_bind hc
      refine ⟨c', hc', placed_congr ((hlook _).trans ?_)⟩
      rcases asciiDigit_cases h.1 with rfl | rfl | rfl | rfl | rfl | rfl | rfl | rfl | rfl | rfl <;>
        rfl

theorem eq_nil_of_endOfText {c c' : Cursor} (h : endOfText c = .ok () c')
    (hrest : ∀ ch ∈ c.rest, Cursor.isSpace ch = false) : c.rest = [] := by
  cases heq : c.rest with
  | nil => rfl
  | cons ch more =>
    rw [heq] at hrest
    obtain ⟨d, -, hlook⟩ := (Yields.look (hrest ch List.mem_cons_self) more).exists_bind heq
    cases (hlook _).symm.trans h

end Scan

theorem parse_eq_num {text : String} {n : Number} (h : parse text = .ok (.num n)) :
    ∃ c c' : Cursor, Scan.value depthLimit (.start text.toList false) = .ok (.num n) c ∧
      Scan.endOfText c = .ok () c' := by
  unfold parse scanText at h
  split at h
  · rename_i v c' hrun
    obtain ⟨v', c, hvalue, hrun⟩ := Scan.exists_of_bind hrun
    obtain ⟨_, c'', hend, hrun⟩ := Scan.exists_of_bind hrun
    cases hrun
    cases v with
    | num m =>
      cases h
      exact ⟨c, c', hvalue, hend⟩
    | _ => cases h
  · cases h

/-- A number where a value may end behind it: its sign is taken, and what is read on from there is
the number. -/
theorem exists_number (n : Number) (h : ∀ x, n = .real x → ReadsBack x) :
    ∃ (negative : Bool) (figures : List Char), IsFigures figures ∧
      n.text = (if negative then ['-'] else []) ++ figures ∧
      ∀ rest, Stops rest → Scan.Yields (Scan.number negative) (figures ++ rest) n rest := by
  cases n with
  | whole w =>
    refine ⟨decide (w.val < 0), _, isFigures_toDigits _, ?_, fun rest hrest => .number w hrest⟩
    simp [Number.text]
  | real x =>
    obtain ⟨figures, hfigures, htext⟩ := exists_figures_real x
    refine ⟨x.negative, figures, hfigures, htext, fun rest hrest => ?_⟩
    obtain ⟨c, c', hvalue, hend⟩ := parse_eq_num (h x rfl)
    have hstart : (Cursor.start (String.ofList x.text).toList false).rest =
        [] ++ ((if x.negative then ['-'] else []) ++ figures ++ []) := by
      simp [Cursor.start, htext]
    obtain ⟨d, hd, hnumber⟩ := Scan.value_eq_number 127 x.negative blank_nil hfigures hstart
    obtain ⟨m, c'', hrun, hm⟩ :=
      Scan.exists_of_bind (Scan.eq_ok_of_placed (hnumber.symm.trans hvalue))
    cases hm
    rw [List.append_nil] at hd
    obtain ⟨hsuffix, hmore⟩ := Scan.ExtendsAt.number x.negative figures d c _ hd hrun
    have hnil := Scan.eq_nil_of_endOfText hend fun ch hch =>
      hfigures.isSpace ch (hsuffix.subset hch)
    simpa [hnil] using hmore rest hrest

end RuleBench.Json
