import Mathlib.Data.List.Basic
import RuleBench.Expr.Eval
import RuleBench.Proofs.Expr.Parse
import RuleBench.Proofs.Expr.Precedence
import RuleBench.Proofs.Number.Decimal

set_option autoImplicit false

/-!
# Numerals

A numeral without a point stands for its whole number.  One with a point stands for the nearest
double, but from `overflow` on, where there is none, for the empty value.
-/

namespace RuleBench.Expr

open Binary64 (IsNearest overflow)

/-! ## The tokens of numerals -/

theorem startsName_of_name {c : Char} {w : List Char} (h : Name (c :: w)) :
    startsName c = true := by
  obtain ⟨c, n, heq, hc, -⟩ := h
  cases heq
  exact hc

theorem Atom.cases_of_digit {e : Expr} {c : Char} {w : List Char} (h : Atom e (c :: w))
    (hc : Text.asciiDigit c = true) :
    (digitsValue (c :: w) < 2 ^ 63 ∧ Digits (c :: w) ∧
      e = .literal (Json.ofNat (digitsValue (c :: w)))) ∨
    ∃ whole fraction, Digits whole ∧ Digits fraction ∧ c :: w = whole ++ '.' :: fraction ∧
      e = .literal (decimalValue whole fraction) := by
  have noName : startsName c ≠ true := by rw [startsName_of_asciiDigit hc]; decide
  generalize hw : c :: w = token at h
  cases h with
  | constant hm hspells =>
    subst hw
    obtain ⟨ts, hts⟩ := List.head?_eq_some_iff.mp (head?_of_mem_constants hm)
    unfold Spells at hspells
    rw [hts] at hspells
    simp only [Text.sameLetters, Bool.and_eq_true] at hspells
    rw [eq_of_sameLetter hspells.1 (by decide)] at hc
    exact absurd hc (by decide)
  | integer hd small =>
    subst hw
    exact .inl ⟨small, hd, rfl⟩
  | decimal hwhole hfraction => exact .inr ⟨_, _, hwhole, hfraction, rfl, rfl⟩
  | string =>
    cases hw
    exact absurd hc (by decide)
  | last hk =>
    have hname := hk.name (by decide) (by decide)
    obtain ⟨d, n, rfl, hd, -⟩ := hname
    cases hw
    exact absurd hd noName
  | field hn =>
    subst hw
    exact absurd (startsName_of_name hn) noName

theorem not_digits_of_point {whole fraction : List Char} :
    ¬ Digits (whole ++ '.' :: fraction) := fun h => by
  have hpoint := h.2 '.' (List.mem_append_right _ List.mem_cons_self)
  exact absurd hpoint (by decide)

theorem point_notMem {w : List Char} (h : Digits w) : '.' ∉ w :=
  fun hpoint => absurd (h.2 '.' hpoint) (by decide)

theorem Atom.eq_of_digits {e : Expr} {w : List Char} (h : Atom e w) (hw : Digits w) :
    digitsValue w < 2 ^ 63 ∧ e = .literal (Json.ofNat (digitsValue w)) := by
  cases w with
  | nil => exact absurd rfl hw.1
  | cons c w =>
    rcases h.cases_of_digit (hw.2 c List.mem_cons_self) with ⟨small, -, he⟩ | ⟨_, _, -, -, heq, -⟩
    · exact ⟨small, he⟩
    · rw [heq] at hw
      exact absurd hw not_digits_of_point

theorem Atom.eq_of_point {e : Expr} {whole fraction : List Char} (hw : Digits whole)
    (hf : Digits fraction) (h : Atom e (whole ++ '.' :: fraction)) :
    e = .literal (decimalValue whole fraction) := by
  cases whole with
  | nil => exact absurd rfl hw.1
  | cons c whole =>
    rcases h.cases_of_digit (hw.2 c List.mem_cons_self) with
      ⟨-, hd, -⟩ | ⟨whole', fraction', -, -, heq, rfl⟩
    · have hpoint : Digits ((c :: whole) ++ '.' :: fraction) := hd
      exact absurd hpoint not_digits_of_point
    · obtain ⟨rfl, -, rfl⟩ :=
        (List.append_cons_inj_of_notMem (point_notMem hw) (point_notMem hf)).mp heq
      rfl

/-! ## What they denote -/

/-- What stands before a point and after it, as a number. -/
def pointed (whole fraction : List Char) : ℚ :=
  digitsValue (whole ++ fraction) / 10 ^ fraction.length

theorem decimalValue_of_lt {whole fraction : List Char} (h : pointed whole fraction < overflow) :
    ∃ x, decimalValue whole fraction = .num (.real x) ∧ x.negative = false ∧
      IsNearest x (pointed whole fraction) := by
  obtain ⟨x, hx, hsign, hnear⟩ := Binary64.exists_ofDecimal? h
  exact ⟨x, by rw [decimalValue, hx], hsign, hnear⟩

theorem decimalValue_of_le {whole fraction : List Char} (h : overflow ≤ pointed whole fraction) :
    decimalValue whole fraction = .null := by
  rw [decimalValue, (Binary64.ofDecimal?_eq_none_iff _ _).mpr h]

/-- What becomes of the numerals of an accepted text. -/
theorem numerals_below_overflow_are_numbers {source : String} {e : Expr}
    (h : parse source = .ok e) :
    (∃ ps, Derivation 1 (.tree .disjunction e) source.toList ps) ∧
    ∀ ps, Derivation 1 (.tree .disjunction e) source.toList ps → pointTrees ps = e.atoms ∧
      ∀ p ∈ ps, ∀ tip, p.tip = some tip →
        (Digits tip.token →
          digitsValue tip.token < 2 ^ 63 ∧
            tip.tree = .literal (Json.ofNat (digitsValue tip.token))) ∧
        ∀ whole fraction, Digits whole → Digits fraction →
          tip.token = whole ++ '.' :: fraction →
          (pointed whole fraction < overflow →
            ∃ x, tip.tree = .literal (.num (.real x)) ∧ IsNearest x (pointed whole fraction)) ∧
          (overflow ≤ pointed whole fraction → tip.tree = .literal .null) := by
  obtain ⟨hd, -, hfits⟩ := parse_sound h
  obtain ⟨ps, hps, -⟩ := hd.derivation (by decide) hfits
  refine ⟨⟨ps, hps⟩, fun ps hps => ⟨hps.pointTrees_eq, fun p _ tip _ => ⟨?_, ?_⟩⟩⟩
  · exact tip.isAtom.eq_of_digits
  · intro whole fraction hw hf htoken
    have hatom := tip.isAtom
    rw [htoken] at hatom
    rw [hatom.eq_of_point hw hf]
    refine ⟨fun hlt => ?_, fun hle => by rw [decimalValue_of_le hle]⟩
    obtain ⟨x, hx, -, hnear⟩ := decimalValue_of_lt hlt
    exact ⟨x, by rw [hx], hnear⟩

/-! ### One and a half, and a number too large for any double -/

theorem digits_singleton {c : Char} (h : Text.asciiDigit c = true) : Digits [c] :=
  ⟨List.cons_ne_nil _ _, fun d hd => by rwa [List.mem_singleton.mp hd]⟩

theorem parse_atom {e : Expr} {w : List Char} (h : Atom e w) (hf : e.Fits) :
    parse (String.ofList w) = .ok e := by
  have hspaced : Spaced (Atom e) w := ⟨[], w, [], spaces_nil, h, spaces_nil, by simp⟩
  refine parse_complete ?_ (h.height_eq.trans_le (by decide)) hf
  rw [String.toList_ofList]
  exact (Derives.atom hspaced).of_rank_le _ (Nat.zero_le _)

theorem one_and_a_half_is_a_number :
    ∃ e ps tip, parse "1.5" = .ok e ∧ Derivation 1 (.tree .disjunction e) "1.5".toList ps ∧
      (⟨1, some tip⟩ : Point) ∈ ps ∧ tip.token = ['1'] ++ '.' :: ['5'] ∧
      ∃ x, tip.tree = .literal (.num (.real x)) ∧ IsNearest x (pointed ['1'] ['5']) := by
  have hone : Digits ['1'] := digits_singleton rfl
  have hfive : Digits ['5'] := digits_singleton rfl
  let tip : Tip := ⟨_, _, .decimal hone hfive⟩
  have hparse : parse "1.5" = .ok tip.tree := parse_atom tip.isAtom trivial
  have hderived : Derivation 1 (.tree .disjunction tip.tree) "1.5".toList [⟨1, some tip⟩] :=
    .disjunction_of_unary (.unsigned (.atom tip spaces_nil spaces_nil))
  have hbelow : pointed ['1'] ['5'] < overflow := by
    have hvalue : pointed ['1'] ['5'] = 15 / 10 := rfl
    have hbound := Binary64.pow_lt_overflow (n := 1) (by decide)
    rw [hvalue]
    exact lt_trans (by norm_num) hbound
  have hmem : (⟨1, some tip⟩ : Point) ∈ [⟨1, some tip⟩] := List.mem_singleton_self _
  have hall := (numerals_below_overflow_are_numbers hparse).2 _ hderived
  exact ⟨_, _, tip, hparse, hderived, hmem, rfl,
    ((hall.2 _ hmem tip rfl).2 _ _ hone hfive rfl).1 hbelow⟩

/-- A numeral of 310 digits before the point becomes the empty value. -/
theorem long_numeral_denotes_the_empty_value :
    ∃ whole fraction, whole = '1' :: List.replicate 309 '0' ∧ fraction = ['0'] ∧
      Digits whole ∧ Digits fraction ∧
      parse (String.ofList (whole ++ '.' :: fraction)) = .ok (.literal .null) ∧
      ∀ s, (Expr.literal .null).eval s = .ok .null := by
  have hw : Digits ('1' :: List.replicate 309 '0') := by
    refine ⟨List.cons_ne_nil _ _, fun c hc => ?_⟩
    rcases List.mem_cons.mp hc with rfl | hc
    · decide
    · rw [List.eq_of_mem_replicate hc]
      decide
  have hf : Digits ['0'] := digits_singleton rfl
  have hvalue : digitsValue ('1' :: List.replicate 309 '0' ++ ['0']) = 10 ^ 309 * 10 := by
    decide +kernel
  have hlarge : (2 : ℚ) ^ 1024 ≤ 10 ^ 309 := by
    have hnat : (2 : ℕ) ^ 1024 ≤ 10 ^ 309 := by decide +kernel
    have hcast := (Nat.cast_le (α := ℚ)).mpr hnat
    rwa [Nat.cast_pow, Nat.cast_pow, Nat.cast_ofNat, Nat.cast_ofNat] at hcast
  have hover : overflow ≤ pointed ('1' :: List.replicate 309 '0') ['0'] := by
    rw [pointed, hvalue, Nat.cast_mul, Nat.cast_pow, Nat.cast_ofNat]
    generalize (10 : ℚ) ^ 309 = large at hlarge ⊢
    have hbound := Binary64.overflow_lt_pow
    simp only [List.length_singleton, pow_one]
    rw [mul_div_cancel_right₀ _ (by norm_num)]
    exact hbound.le.trans hlarge
  have hatom := Atom.decimal hw hf
  rw [decimalValue_of_le hover] at hatom
  exact ⟨_, _, rfl, rfl, hw, hf, parse_atom hatom trivial, fun _ => rfl⟩

end RuleBench.Expr
