import Mathlib.Data.Nat.Digits.Defs
import RuleBench.Proofs.Calendar.Days
import RuleBench.Proofs.Expr.Characters
import RuleBench.Proofs.Json.Numbers

set_option autoImplicit false

/-!
# Dates and times read back

A date of a year with four digits is read back from its text, and so is a time in UTC up to the
milliseconds in which it is written.
-/

namespace RuleBench

namespace Text

theorem length_le_byteSize (s : List Char) : s.length ≤ byteSize s := by
  induction s with
  | nil => exact Nat.le_refl 0
  | cons c s ih =>
    have hc := c.utf8Size_pos
    rw [List.length_cons, byteSize]
    omega

theorem isBlank_of_asciiDigit {c : Char} (h : asciiDigit c = true) : isBlank c = false := by
  rw [Expr.asciiDigit_iff] at h
  simp only [isBlank, blanks, CodeSet.contains, List.any_cons, List.any_nil, Bool.or_false,
    Bool.or_eq_false_iff, Bool.and_eq_false_iff, decide_eq_false_iff_not]
  omega

end Text

namespace Calendar

/-! ## Numbers with zeros in front -/

theorem ofDigitChars_zeros (count : Nat) :
    Nat.ofDigitChars 10 (List.replicate count '0') 0 = 0 := by
  induction count with
  | zero => rfl
  | succ count ih =>
    rw [List.replicate_succ, Nat.ofDigitChars_cons]
    exact ih

/-- A number in a fixed number of digits. -/
structure IsPadded (width n : Nat) (text : List Char) : Prop where
  length : text.length = width
  digits : ∀ c ∈ text, Text.asciiDigit c = true
  value : Nat.ofDigitChars 10 text 0 = n

theorem isPadded_padded (width n : Nat) (hwidth : 0 < width) (h : n < 10 ^ width) :
    IsPadded width n (padded width n) where
  length := by
    have hlength := Nat.toDigits_length 10 n width hwidth h
    rw [padded, List.length_append, List.length_replicate]
    omega
  digits c hc := by
    rcases List.mem_append.mp hc with hc | hc
    · rw [List.eq_of_mem_replicate hc]
      rfl
    · exact Json.asciiDigit_toDigits n c hc
  value := by
    rw [padded, Nat.ofDigitChars_append, ofDigitChars_zeros, Nat.ofDigitChars_ten_toDigits]

theorem takeDigits_append {digits rest : List Char} (h : ∀ c ∈ digits, Text.asciiDigit c = true)
    {least most : Nat} (n : Nat) (hleast : least ≤ digits.length) (hmost : digits.length ≤ most)
    (hrest : digits.length = most ∨ rest.head?.map Text.asciiDigit ≠ some true) :
    takeDigits least most n (digits ++ rest) = .ok (Nat.ofDigitChars 10 digits n, rest) := by
  induction digits generalizing least most n with
  | nil =>
    have hzero : least = 0 := Nat.le_zero.mp hleast
    subst hzero
    cases rest with
    | nil =>
      rw [List.nil_append, takeDigits]
      rfl
    | cons c rest =>
      cases most with
      | zero => rfl
      | succ most =>
        have hc : ¬ Text.asciiDigit c = true := fun hc =>
          hrest.elim (fun hlength => by cases hlength) fun hne => hne (congrArg some hc)
        rw [List.nil_append, takeDigits, if_neg hc]
        rfl
  | cons c digits ih =>
    obtain ⟨hc, hdigits⟩ := List.forall_mem_cons.mp h
    rw [List.length_cons] at hleast hmost hrest
    obtain ⟨most, rfl⟩ := Nat.exists_eq_add_of_le' (Nat.le_of_add_left_le hmost)
    rw [List.cons_append, takeDigits, if_pos hc,
      ih hdigits _ (by omega) (by omega) (hrest.imp_left Nat.succ.inj), Nat.ofDigitChars_cons]

namespace IsPadded

variable {width n : Nat} {text : List Char}

theorem takeDigits_eq (h : IsPadded width n text) (rest : List Char) :
    takeDigits width width 0 (text ++ rest) = .ok (n, rest) := by
  rw [takeDigits_append h.digits 0 h.length.ge h.length.le (.inl h.length), h.value]

theorem number_eq (h : IsPadded width n text) {least most : Nat} {rest : List Char}
    (hleast : least ≤ width) (hmost : width ≤ most)
    (hrest : width = most ∨ rest.head?.map Text.asciiDigit ≠ some true)
    (hn : n < 0x8000000000000000) : number least most (text ++ rest) = .ok (n, rest) := by
  have hsize := Text.length_le_byteSize (text ++ rest)
  rw [List.length_append] at hsize
  rw [← h.length] at hleast hmost hrest
  rw [number, if_neg (by omega), takeDigits_append h.digits 0 hleast hmost hrest, h.value]
  exact if_pos hn

theorem numberIn_eq (h : IsPadded 2 n text) {low high : Nat} (rest : List Char)
    (hn : low ≤ n ∧ n ≤ high) (hhigh : high < 0x8000000000000000) :
    numberIn low high 1 2 (text ++ rest) = .ok (n, rest) := by
  rw [numberIn, h.number_eq (by decide) (by decide) (.inl rfl) (by omega)]
  exact if_pos hn

/-- A number does not begin with a blank or a sign. -/
theorem exists_digit (h : IsPadded (width + 1) n text) :
    ∃ c rest, text = c :: rest ∧ Text.asciiDigit c = true := by
  cases text with
  | nil => exact absurd h.length (Nat.succ_ne_zero width).symm
  | cons c rest => exact ⟨c, rest, rfl, h.digits c List.mem_cons_self⟩

theorem trimStart_eq (h : IsPadded (width + 1) n text) (rest : List Char) :
    Text.trimStart (text ++ rest) = text ++ rest := by
  obtain ⟨c, digits, rfl, hc⟩ := h.exists_digit
  exact List.dropWhile_cons_of_neg (Bool.eq_false_iff.mp (Text.isBlank_of_asciiDigit hc))

theorem signedYear_eq (h : IsPadded 4 n text) (rest : List Char) (hn : n < 10000) :
    signedYear (text ++ rest) = .ok (n, rest) := by
  have hnumber : number 1 4 (text ++ rest) = .ok (n, rest) :=
    h.number_eq (by decide) (Nat.le_refl 4) (.inl rfl) (by omega)
  obtain ⟨c, digits, rfl, hc⟩ := h.exists_digit
  have hyear : signedYear.year n rest = .ok ((n : Int), rest) := by
    rw [signedYear.year, if_pos (by omega)]
  rw [List.cons_append] at hnumber ⊢
  unfold signedYear
  split
  · rename_i heq
    obtain ⟨rfl, -⟩ := List.cons.inj heq
    cases hc
  · rename_i heq
    obtain ⟨rfl, -⟩ := List.cons.inj heq
    cases hc
  · simp only [hnumber, bind, Except.bind, hyear]

end IsPadded

/-! ## Dates -/

namespace Date

theorem text_eq {d : Date} (h : 0 ≤ d.year ∧ d.year ≤ 9999) :
    d.text = padded 4 d.year.toNat ++ '-' :: (padded 2 d.month ++ '-' :: padded 2 d.day) := by
  rw [text, yearText, if_pos h, List.append_assoc, List.cons_append]

theorem isPadded_year (d : Date) (h : 0 ≤ d.year ∧ d.year ≤ 9999) :
    IsPadded 4 d.year.toNat (padded 4 d.year.toNat) :=
  isPadded_padded _ _ (by decide) (by omega)

theorem isPadded_month (d : Date) : IsPadded 2 d.month (padded 2 d.month) := by
  have hmonth : d.month ≤ 12 := d.valid.2.2.2.1
  exact isPadded_padded _ _ (by decide) (by omega)

theorem isPadded_day (d : Date) : IsPadded 2 d.day (padded 2 d.day) := by
  have hday := Nat.le_trans d.valid.2.2.2.2.2 (daysIn_bounds d.year d.month).2
  exact isPadded_padded _ _ (by decide) (by omega)

theorem of?_eq (d : Date) : of? d.year d.month d.day = some d := of?_eq_some d.valid

theorem parse_text {d : Date} (h : 0 ≤ d.year ∧ d.year ≤ 9999) : parse d.text = .ok d := by
  obtain ⟨-, -, hmonth, hmonth', hday, hday'⟩ := d.valid
  have hlast := (daysIn_bounds d.year d.month).2
  have hy := d.isPadded_year h
  have hm := d.isPadded_month
  have hd := d.isPadded_day
  have hyear := hy.signedYear_eq ('-' :: (padded 2 d.month ++ '-' :: padded 2 d.day)) (by omega)
  have hmonths := hm.numberIn_eq ('-' :: padded 2 d.day) ⟨hmonth, hmonth'⟩ (by decide)
  have hdays := hd.numberIn_eq [] ⟨hday, Nat.le_trans hday' hlast⟩ (by decide)
  have htrim := hd.trimStart_eq []
  rw [List.append_nil] at hdays htrim
  rw [parse, text_eq h]
  simp only [hy.trimStart_eq, hyear, hm.trimStart_eq, hmonths, htrim, hdays, character, bind,
    Except.bind, ↓reduceIte, Int.toNat_of_nonneg h.1, of?_eq]
  rfl

end Date

/-! ## Times -/

namespace Instant

/-- A time in UTC as it is written to the millisecond. -/
def zuluText (date : Date) (hour minute second millisecond : Nat) : List Char :=
  date.text ++ 'T' :: (padded 2 hour ++ ':' :: (padded 2 minute ++ ':' :: (padded 2 second ++
    '.' :: (padded 3 millisecond ++ ['Z']))))

theorem fractionPart_eq {text rest : List Char} {millisecond : Nat}
    (h : IsPadded 3 millisecond text) (hlt : millisecond < 1000)
    (hrest : rest.head?.map Text.asciiDigit ≠ some true) :
    fractionPart ('.' :: (text ++ rest)) = .ok (millisecond * 1000000, rest) := by
  have hnumber : number 1 9 (text ++ rest) = .ok (millisecond, rest) :=
    h.number_eq (by decide) (by decide) (.inr hrest) (by omega)
  have hlength : (text ++ rest).length - rest.length = 3 := by
    rw [List.length_append, h.length, Nat.add_sub_cancel]
  have hdrop : rest.dropWhile Text.asciiDigit = rest := by
    cases rest with
    | nil => rfl
    | cons c rest => exact List.dropWhile_cons_of_neg fun hc => hrest (congrArg some hc)
  simp only [fractionPart, nanoseconds, hnumber, hlength, hdrop, bind, Except.bind]
  rfl

theorem parse_zuluText {date : Date} (hyear : 0 ≤ date.year ∧ date.year ≤ 9999)
    {hour minute second millisecond : Nat} (hhour : hour < 24) (hminute : minute < 60)
    (hsecond : second ≤ 60) (hmillisecond : millisecond < 1000) {time : Nat × Nat}
    (htime : timeOfDay? hour minute second (millisecond * 1000000) = some time) :
    parse (zuluText date hour minute second millisecond) = .ok ⟨date, time.1, time.2, 0⟩ := by
  have hy := date.isPadded_year hyear
  have hmo := date.isPadded_month
  have hd := date.isPadded_day
  have hh := isPadded_padded 2 hour (by decide) (by omega)
  have hm := isPadded_padded 2 minute (by decide) (by omega)
  have hs := isPadded_padded 2 second (by decide) (by omega)
  have hms := isPadded_padded 3 millisecond (by decide) (by omega)
  have hsize : ¬ Text.byteSize (zuluText date hour minute second millisecond) < 19 := by
    refine Nat.not_lt.mpr (Nat.le_trans ?_ (Text.length_le_byteSize _))
    simp only [zuluText, Date.text_eq hyear, List.length_append, List.length_cons, hy.length,
      hmo.length, hd.length, hh.length, hm.length, hs.length]
    omega
  have hfraction : fractionPart ('.' :: (padded 3 millisecond ++ ['Z'])) =
      .ok (millisecond * 1000000, ['Z']) := fractionPart_eq hms hmillisecond nofun
  rw [parse, if_neg hsize, zuluText, Date.text_eq hyear]
  simp only [List.append_assoc, List.cons_append, twoDigits, hy.takeDigits_eq, hmo.takeDigits_eq,
    hd.takeDigits_eq, hh.takeDigits_eq, hm.takeDigits_eq, hs.takeDigits_eq, hfraction,
    character?, isSeparator, beq_self_eq_true, Bool.true_or, ↓reduceIte, orOutOfRange, bind,
    Except.bind, Int.toNat_of_nonneg hyear.1, Date.of?_eq, htime]
  rfl

theorem timeOfDay?_of_lt {hour minute second : Nat} (hhour : hour < 24) (hminute : minute < 60)
    (hsecond : second < 60) (nanosecond : Nat) : timeOfDay? hour minute second nanosecond =
      some (hour * 3600 + minute * 60 + second, nanosecond) := by
  rw [timeOfDay?, if_neg hsecond.ne]
  exact if_pos ⟨hhour, hminute, hsecond⟩

theorem timeOfDay?_sixty {hour minute : Nat} (hhour : hour < 24) (hminute : minute < 60)
    (nanosecond : Nat) : timeOfDay? hour minute 60 nanosecond =
      some (hour * 3600 + minute * 60 + 59, nanosecond + 1000000000) := by
  rw [timeOfDay?, if_pos rfl]
  exact if_pos ⟨hhour, hminute, by decide⟩

/-- The second of the minute that is written: one more where a second is counted twice. -/
def shownSecond (t : Instant) : Nat :=
  if 1000000000 ≤ t.nanosecond then t.second % 60 + 1 else t.second % 60

def shownMillisecond (t : Instant) : Nat :=
  (if 1000000000 ≤ t.nanosecond then t.nanosecond - 1000000000 else t.nanosecond) / 1000000

/-- The same time without what is less than a millisecond.  Only the last second of a minute is kept
as counted twice; any other is the next one. -/
def inMilliseconds (t : Instant) : Instant :=
  if 1000000000 ≤ t.nanosecond ∧ t.second % 60 ≠ 59 then
    { t with
      second := t.second + 1, nanosecond := (t.nanosecond - 1000000000) / 1000000 * 1000000 }
  else { t with nanosecond := t.nanosecond / 1000000 * 1000000 }

variable {t : Instant}

theorem text_eq (h : t.offset = 0) : t.text .milliseconds true =
    zuluText t.date (t.second / 3600) (t.second / 60 % 60) t.shownSecond t.shownMillisecond := by
  have hzone : offsetText true t.offset = ['Z'] := by
    rw [h]
    rfl
  unfold text zuluText shownSecond shownMillisecond
  -- The equations of lists are rewritten with, since computing both sides would compute the digits.
  by_cases hn : 1000000000 ≤ t.nanosecond
  · rw [hzone, if_pos hn, if_pos hn, if_pos hn]
    simp -implicitDefEqProofs only [fractionText, List.append_assoc, List.cons_append]
  · rw [hzone, if_neg hn, if_neg hn, if_neg hn]
    simp -implicitDefEqProofs only [fractionText, List.append_assoc, List.cons_append]

theorem inMilliseconds_date : t.inMilliseconds.date = t.date := by
  unfold inMilliseconds
  split <;> rfl

theorem inMilliseconds_offset : t.inMilliseconds.offset = t.offset := by
  unfold inMilliseconds
  split <;> rfl

theorem timeOfDay?_shown (h : t.IsReading) :
    timeOfDay? (t.second / 3600) (t.second / 60 % 60) t.shownSecond
      (t.shownMillisecond * 1000000) =
      some (t.inMilliseconds.second, t.inMilliseconds.nanosecond) := by
  have hsecond := h.second
  unfold shownSecond shownMillisecond inMilliseconds
  by_cases hn : 1000000000 ≤ t.nanosecond
  · rw [if_pos hn, if_pos hn]
    by_cases hlast : t.second % 60 = 59
    · rw [if_neg fun hnext => hnext.2 hlast, hlast, timeOfDay?_sixty (by omega) (by omega)]
      refine congrArg some (Prod.ext ?_ ?_)
      · change _ = t.second
        omega
      · change _ = t.nanosecond / 1000000 * 1000000
        omega
    · rw [if_pos ⟨hn, hlast⟩, timeOfDay?_of_lt (by omega) (by omega) (by omega)]
      refine congrArg some (Prod.ext ?_ rfl)
      change _ = t.second + 1
      omega
  · rw [if_neg hn, if_neg hn, if_neg fun hnext => hn hnext.1,
      timeOfDay?_of_lt (by omega) (by omega) (by omega)]
    refine congrArg some (Prod.ext ?_ rfl)
    change _ = t.second
    omega

theorem parse_text (h : t.IsReading) (hoffset : t.offset = 0)
    (hyear : 0 ≤ t.date.year ∧ t.date.year ≤ 9999) :
    parse (t.text .milliseconds true) = .ok t.inMilliseconds := by
  have hsecond := h.second
  have hnanosecond := h.nanosecond
  have hshown : t.shownSecond ≤ 60 := by
    unfold shownSecond
    split <;> omega
  have hmillisecond : t.shownMillisecond < 1000 := by
    unfold shownMillisecond
    split <;> omega
  rw [text_eq hoffset, parse_zuluText hyear (by omega) (by omega) hshown hmillisecond
    (timeOfDay?_shown h), ← inMilliseconds_date, ← hoffset, ← inMilliseconds_offset]

/-- What is less than a millisecond is not written. -/
theorem stamp_inMilliseconds (h : t.IsReading) (hoffset : t.offset = 0) :
    t.inMilliseconds.stamp = t.stamp := by
  have hnanosecond := h.nanosecond
  have hshown : t.inMilliseconds.second / 60 = t.second / 60 ∧
      t.inMilliseconds.shownSecond = t.shownSecond ∧
      t.inMilliseconds.shownMillisecond = t.shownMillisecond := by
    unfold shownSecond shownMillisecond inMilliseconds
    split
    · rename_i hnext
      dsimp only
      rw [if_pos hnext.1, if_pos hnext.1, if_neg (by omega), if_neg (by omega)]
      omega
    · dsimp only
      by_cases hn : 1000000000 ≤ t.nanosecond
      · rw [if_pos hn, if_pos hn, if_pos (by omega), if_pos (by omega)]
        omega
      · rw [if_neg hn, if_neg hn, if_neg (by omega), if_neg (by omega)]
        omega
  obtain ⟨hminute, hsecond, hmillisecond⟩ := hshown
  have hhour : t.inMilliseconds.second / 3600 = t.second / 3600 := by omega
  rw [stamp, stamp, text_eq (inMilliseconds_offset.trans hoffset), text_eq hoffset, hhour, hminute,
    hsecond, hmillisecond, inMilliseconds_date]

theorem elapsed_inMilliseconds : t.inMilliseconds.elapsed = t.elapsed - t.elapsed % 1000000 := by
  unfold inMilliseconds
  split
  · simp only [elapsed]
    omega
  · simp only [elapsed]
    omega

end Instant

end Calendar

end RuleBench
