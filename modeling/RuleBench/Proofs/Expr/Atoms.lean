import RuleBench.Proofs.Expr.Tokens

set_option autoImplicit false

/-!
# Atoms at the front of a text

What is read as an atom is one, and an atom is read whole where the text after it lets it end.
-/

namespace RuleBench.Expr

/-! ## What is read -/

theorem constant?_sound {table : List (String × Expr)} {s rest : List Char} {e : Expr}
    (h : constant? table s = some (e, rest)) :
    ∃ spelling w, (spelling, e) ∈ table ∧ s = w ++ rest ∧ Spells spelling w := by
  induction table with
  | nil => cases h
  | cons entry table ih =>
    obtain ⟨spelling, b⟩ := entry
    simp only [constant?] at h
    split at h
    · rename_i r hr
      cases h
      obtain ⟨w, hs, hw⟩ := afterToken?_eq_some_iff.mp hr
      exact ⟨spelling, w, List.mem_cons_self, hs, hw⟩
    · obtain ⟨spelling', w, hm, hs, hw⟩ := ih h
      exact ⟨spelling', w, List.mem_cons_of_mem _ hm, hs, hw⟩

theorem digits_takeWhile {s : List Char} (h : (s.takeWhile Text.asciiDigit).isEmpty = false) :
    Digits (s.takeWhile Text.asciiDigit) :=
  ⟨by simpa using h, fun _ hc => List.mem_takeWhile_imp hc⟩

theorem numeral?_sound {s rest : List Char} {v : Json} (h : numeral? s = some (v, rest)) :
    ∃ w, s = w ++ rest ∧ Atom (.literal v) w := by
  have hs : s = s.takeWhile Text.asciiDigit ++ s.dropWhile Text.asciiDigit :=
    List.takeWhile_append_dropWhile.symm
  simp only [numeral?] at h
  split at h
  · cases h
  · rename_i hne
    have hw := digits_takeWhile (Bool.eq_false_iff.mpr hne)
    have whole : (if digitsValue (s.takeWhile Text.asciiDigit) < 0x8000000000000000 then
        some (Json.ofNat (digitsValue (s.takeWhile Text.asciiDigit)), s.dropWhile Text.asciiDigit)
        else none) = some (v, rest) → ∃ w, s = w ++ rest ∧ Atom (.literal v) w := by
      intro h
      split at h
      · rename_i hsmall
        cases h
        exact ⟨_, hs, .integer hw hsmall⟩
      · cases h
    split at h
    · rename_i more hmore
      split at h
      · exact whole h
      · rename_i hfraction
        cases h
        refine ⟨_, ?_, .decimal hw (digits_takeWhile (Bool.eq_false_iff.mpr hfraction))⟩
        rw [hmore] at hs
        simpa using hs
    · exact whole h

theorem stringFrom_sound {reversed s t rest : List Char}
    (h : stringFrom reversed s = some (t, rest)) :
    ∃ w t', s = w ++ '"' :: rest ∧ Quoted w t' ∧ t = reversed.reverse ++ t' := by
  fun_induction stringFrom reversed s with
  | case1 => cases h
  | case2 reversed s =>
    cases h
    exact ⟨[], [], rfl, .nil, by simp⟩
  | case3 reversed s ih =>
    obtain ⟨w, t', rfl, hw, rfl⟩ := ih h
    exact ⟨'\\' :: '\\' :: w, '\\' :: t', rfl, .backslash hw, by simp⟩
  | case4 reversed s ih =>
    obtain ⟨w, t', rfl, hw, rfl⟩ := ih h
    exact ⟨'\\' :: '"' :: w, '"' :: t', rfl, .quote hw, by simp⟩
  | case5 reversed s ih =>
    obtain ⟨w, t', rfl, hw, rfl⟩ := ih h
    exact ⟨'\\' :: 'n' :: w, '\n' :: t', rfl, .newline hw, by simp⟩
  | case6 => cases h
  | case7 reversed c s hq _ _ _ hb ih =>
    obtain ⟨w, t', rfl, hw, rfl⟩ := ih h
    exact ⟨c :: w, c :: t', rfl, .plain (fun heq => hq heq) (fun heq => hb heq) hw, by simp⟩

theorem string?_sound {s t rest : List Char} (h : string? s = some (t, rest)) :
    ∃ w, s = w ++ rest ∧ Atom (.literal (.str (String.ofList t))) w := by
  unfold string? at h
  split at h
  · obtain ⟨w, t', rfl, hw, rfl⟩ := stringFrom_sound h
    exact ⟨'"' :: (w ++ ['"']), by simp, .string hw⟩
  · cases h

theorem lastName?_sound {s n rest : List Char} (h : lastName? s = some (n, rest)) :
    ∃ w, s = w ++ rest ∧ Atom (.last (String.ofList n)) w := by
  unfold lastName? at h
  simp only [Option.bind_eq_bind, Option.bind_eq_some_iff] at h
  obtain ⟨r, hr, h⟩ := h
  split at h
  · rename_i hgap
    obtain ⟨keyword, rfl, hk⟩ := afterToken?_eq_some_iff.mp hr
    obtain ⟨hskip, hn⟩ := name?_sound h
    obtain ⟨gap, hg, hs⟩ := exists_spaces r
    refine ⟨keyword ++ (gap ++ n), ?_, .last hk hg ?_ hn⟩
    · rw [hs, hskip]
      simp
    · rintro rfl
      obtain ⟨c, hc, hspace⟩ := Option.map_eq_some_iff.mp hgap
      obtain ⟨tail, hcons⟩ := List.head?_eq_some_iff.mp hc
      rw [hcons, List.nil_append] at hs
      rcases skipSpaces_cases (c :: tail) with hnil | ⟨d, tail', hd, hfalse⟩
      · rw [hnil] at hs
        cases hs
      · rw [hd] at hs
        cases hs
        rw [hspace] at hfalse
        cases hfalse
  · cases h

theorem orElse_eq_some_iff {α : Type} {a : Option α} {b : Unit → Option α} {x : α} :
    a.orElse b = some x ↔ a = some x ∨ (a = none ∧ b () = some x) := by
  cases a with
  | none => exact ⟨fun h => .inr ⟨rfl, h⟩, fun h => (h.resolve_left (Option.some_ne_none x).symm).2⟩
  | some y => exact ⟨.inl, fun h => h.resolve_right fun h => Option.some_ne_none y h.1⟩

theorem atom?_sound {s rest : List Char} {e : Expr} (h : atom? s = some (e, rest)) :
    ∃ w, s = w ++ rest ∧ Atom e w := by
  unfold atom? at h
  rcases orElse_eq_some_iff.mp h with h | ⟨-, h⟩
  · obtain ⟨spelling, w, hm, hs, hw⟩ := constant?_sound h
    exact ⟨w, hs, .constant hm hw⟩
  · rcases orElse_eq_some_iff.mp h with h | ⟨-, h⟩
    · obtain ⟨⟨v, r⟩, hv, heq⟩ := Option.map_eq_some_iff.mp h
      cases heq
      exact numeral?_sound hv
    · rcases orElse_eq_some_iff.mp h with h | ⟨-, h⟩
      · obtain ⟨⟨t, r⟩, ht, heq⟩ := Option.map_eq_some_iff.mp h
        cases heq
        exact string?_sound ht
      · obtain ⟨⟨n, r⟩, hn, heq⟩ := Option.map_eq_some_iff.mp h
        cases heq
        exact lastName?_sound hn

theorem Atom.height_eq {e : Expr} {w : List Char} (h : Atom e w) : e.height = 1 := by
  cases h with
  | constant h =>
    simp only [constants, List.mem_cons, Prod.mk.injEq, List.not_mem_nil, or_false] at h
    rcases h with ⟨-, rfl⟩ | ⟨-, rfl⟩ | ⟨-, rfl⟩ | ⟨-, rfl⟩ | ⟨-, rfl⟩ <;> simp [height]
  | integer | decimal | string | last | field => simp [height]

/-! ## Where atoms end -/

/-- An atom may end before this text: it goes on neither as a name nor as a fraction, and is not
the start of a call or of a former value. -/
structure Stops (rest : List Char) : Prop where
  inName : ∀ c ∈ rest.head?, inName c = false
  point : ∀ tail, rest = '.' :: tail → ∀ c ∈ tail.head?, Text.asciiDigit c = false
  name : name? (skipSpaces rest) = none
  call : afterSpaced? "(" rest = none

theorem Stops.asciiDigit {rest : List Char} (h : Stops rest) :
    ∀ c ∈ rest.head?, Text.asciiDigit c = false := by
  intro c hc
  refine Bool.eq_false_iff.mpr fun hd => ?_
  have hin := inName_of_asciiDigit hd
  rw [h.inName c hc] at hin
  cases hin

theorem Name.inName {n : List Char} (h : Name n) : ∀ c ∈ n, inName c = true := by
  obtain ⟨c, n, rfl, hc, hn⟩ := h
  intro d hd
  rcases List.mem_cons.mp hd with rfl | hd
  · exact inName_of_startsName hc
  · exact hn d hd

theorem asciiLetter_of_sameLetters {token w : List Char} (h : Text.sameLetters token w = true)
    (ht : token.all Text.asciiLetter = true) : ∀ c ∈ w, Text.asciiLetter c = true := by
  induction token generalizing w with
  | nil =>
    cases w with
    | nil => exact fun _ hc => absurd hc List.not_mem_nil
    | cons c w => cases h
  | cons t token ih =>
    cases w with
    | nil => cases h
    | cons c w =>
      simp only [Text.sameLetters, Bool.and_eq_true] at h
      simp only [List.all_cons, Bool.and_eq_true] at ht
      intro d hd
      rcases List.mem_cons.mp hd with rfl | hd
      · exact asciiLetter_of_sameLetter h.1 ht.1
      · exact ih h.2 ht.2 d hd

/-- A word in any letter case is a name. -/
theorem Spells.name {spelling : String} {w : List Char} (h : Spells spelling w)
    (hne : spelling.toList ≠ []) (hl : spelling.toList.all Text.asciiLetter = true) :
    Name w := by
  have hw := asciiLetter_of_sameLetters h hl
  cases w with
  | nil =>
    cases hs : spelling.toList with
    | nil => exact absurd hs hne
    | cons t ts =>
      unfold Spells at h
      rw [hs] at h
      cases h
  | cons c w =>
    refine ⟨c, w, rfl, startsName_of_asciiLetter (hw c List.mem_cons_self), fun d hd => ?_⟩
    exact inName_of_startsName (startsName_of_asciiLetter (hw d (List.mem_cons_of_mem _ hd)))

/-! ## What is not read -/

theorem afterToken?_cons_eq_none {t c : Char} (h : Text.sameLetter t c = false)
    (ts s : List Char) : afterToken? (t :: ts) (c :: s) = none := by
  simp [afterToken?, h]

theorem constant?_eq_none {table : List (String × Expr)} {s : List Char}
    (h : ∀ entry ∈ table, afterToken? entry.1.toList s = none) : constant? table s = none := by
  induction table with
  | nil => rfl
  | cons entry table ih =>
    obtain ⟨spelling, b⟩ := entry
    have hnone : afterToken? spelling.toList s = none := h _ List.mem_cons_self
    simp only [constant?, hnone]
    exact ih fun entry' hm => h entry' (List.mem_cons_of_mem _ hm)

theorem head?_of_mem_constants {entry : String × Expr} (h : entry ∈ constants) :
    entry.1.toList.head? = some '.' := by
  revert entry
  decide

theorem constant?_cons_eq_none {c : Char} (h : c ≠ '.') (s : List Char) :
    constant? constants (c :: s) = none := by
  have hc : Text.sameLetter '.' c = false :=
    Bool.eq_false_iff.mpr fun hs => h (eq_of_sameLetter hs (by decide))
  refine constant?_eq_none fun entry hm => ?_
  obtain ⟨ts, hts⟩ := List.head?_eq_some_iff.mp (head?_of_mem_constants hm)
  rw [hts]
  exact afterToken?_cons_eq_none hc ts s

theorem numeral?_cons_eq_none {c : Char} (h : Text.asciiDigit c = false) (s : List Char) :
    numeral? (c :: s) = none := by
  simp [numeral?, h]

theorem string?_cons_eq_none {c : Char} (h : c ≠ '"') (s : List Char) :
    string? (c :: s) = none := by
  unfold string?
  split
  · rename_i heq
    cases heq
    exact absurd rfl h
  · rfl

theorem lastName?_cons_eq_none {c : Char} (h : Text.asciiLetter c = false) (s : List Char) :
    lastName? (c :: s) = none := by
  have hc : Text.sameLetter 'L' c = false := by
    refine Bool.eq_false_iff.mpr fun hs => ?_
    rw [asciiLetter_of_sameLetter hs (by decide)] at h
    cases h
  have hnone : afterToken? "LAST".toList (c :: s) = none := afterToken?_cons_eq_none hc _ s
  simp only [lastName?, hnone]
  rfl

theorem lastName?_name_eq_none {n rest : List Char} (hn : Name n) (hr : Stops rest) :
    lastName? (n ++ rest) = none := by
  unfold lastName?
  cases hl : afterToken? "LAST".toList (n ++ rest) with
  | none => rfl
  | some r =>
    obtain ⟨w, hw, hs⟩ := afterToken?_eq_some_iff.mp hl
    have letters := asciiLetter_of_sameLetters hs (by decide)
    have hsplit : ∃ n', n = w ++ n' ∧ r = n' ++ rest := by
      rcases List.append_eq_append_iff.mp hw with ⟨a, ha, hrest⟩ | ⟨a, ha, hr'⟩
      · cases a with
        | nil => exact ⟨[], by simpa using ha.symm, by simpa using hrest.symm⟩
        | cons c a =>
          have hc := letters c (by rw [ha]; simp)
          have hin := inName_of_startsName (startsName_of_asciiLetter hc)
          rw [hr.inName c (by rw [hrest]; rfl)] at hin
          cases hin
      · exact ⟨a, ha, hr'⟩
    obtain ⟨n', rfl, rfl⟩ := hsplit
    simp only [Option.bind_eq_bind, Option.bind_some]
    split
    · rename_i hgap
      obtain ⟨c, hc, hspace⟩ := Option.map_eq_some_iff.mp hgap
      cases n' with
      | nil => exact hr.name
      | cons d n' =>
        cases hc
        have hin := hn.inName c (by simp)
        rw [inName_of_isSpace hspace] at hin
        cases hin
    · rfl

/-! ## What is read whole -/

theorem constant?_append {table : List (String × Expr)} {spelling : String} {e : Expr}
    {w : List Char} (hp : table.Pairwise fun a b => agree a.1.toList b.1.toList = false)
    (h : (spelling, e) ∈ table) (hw : Spells spelling w) (rest : List Char) :
    constant? table (w ++ rest) = some (e, rest) := by
  have hhere := afterToken?_append hw rest
  induction table with
  | nil => cases h
  | cons entry table ih =>
    obtain ⟨hfirst, hrest⟩ := List.pairwise_cons.mp hp
    rcases List.mem_cons.mp h with rfl | hm
    · simp only [constant?, hhere]
    · have hnone := afterToken?_eq_none hhere (hfirst (spelling, e) hm)
      simp only [constant?, hnone]
      exact ih hrest hm

theorem numeral?_integer {w rest : List Char} (h : Digits w) (small : digitsValue w < 2 ^ 63)
    (hr : Stops rest) : numeral? (w ++ rest) = some (Json.ofNat (digitsValue w), rest) := by
  have hempty : w.isEmpty = false := by simpa using h.1
  have hsmall : digitsValue w < 0x8000000000000000 := small
  simp only [numeral?, takeWhile_append_stop h.2 hr.asciiDigit,
    dropWhile_append_stop h.2 hr.asciiDigit, hempty, Bool.false_eq_true, ↓reduceIte, hsmall]
  split
  · rename_i tail
    have hstop := takeWhile_append_stop (w := []) (by simp) (hr.point tail rfl)
    rw [List.nil_append] at hstop
    rw [hstop]
    rfl
  · rfl

theorem numeral?_decimal {whole fraction rest : List Char} (hw : Digits whole)
    (hf : Digits fraction) (hr : Stops rest) :
    numeral? (whole ++ '.' :: (fraction ++ rest)) =
      some (decimalValue whole fraction, rest) := by
  have hpoint : ∀ c ∈ ('.' :: (fraction ++ rest)).head?, Text.asciiDigit c = false := by
    intro c hc
    cases hc
    decide
  have hwhole : whole.isEmpty = false := by simpa using hw.1
  have hfraction : fraction.isEmpty = false := by simpa using hf.1
  simp only [numeral?, takeWhile_append_stop hw.2 hpoint, dropWhile_append_stop hw.2 hpoint,
    takeWhile_append_stop hf.2 hr.asciiDigit, dropWhile_append_stop hf.2 hr.asciiDigit, hwhole,
    hfraction, Bool.false_eq_true, ↓reduceIte]

theorem stringFrom_append {w t : List Char} (h : Quoted w t) (reversed rest : List Char) :
    stringFrom reversed (w ++ '"' :: rest) = some (reversed.reverse ++ t, rest) := by
  induction h generalizing reversed with
  | nil => simp [stringFrom]
  | plain hq hb _ ih => simp [stringFrom, hb, ih]
  | backslash _ ih | quote _ ih | newline _ ih => simp [stringFrom, ih]

theorem lastName?_append {keyword gap n rest : List Char} (hk : Spells "LAST" keyword)
    (hg : Spaces gap) (hne : gap ≠ []) (hn : Name n) (hr : Stops rest) :
    lastName? (keyword ++ (gap ++ (n ++ rest))) = some (n, rest) := by
  have hafter := afterToken?_append hk (gap ++ (n ++ rest))
  have hskip : skipSpaces (n ++ rest) = n ++ rest := by
    obtain ⟨c, n, rfl, hc, -⟩ := hn
    refine skipSpaces_cons (Bool.eq_false_iff.mpr fun hs => ?_) _
    have hin := inName_of_startsName hc
    rw [inName_of_isSpace hs] at hin
    cases hin
  have hhead : (gap ++ (n ++ rest)).head?.map isSpace = some true := by
    cases gap with
    | nil => exact absurd rfl hne
    | cons c gap => simp [hg c List.mem_cons_self]
  simp only [lastName?, hafter, Option.bind_eq_bind, Option.bind_some, hhead, ↓reduceIte,
    skipSpaces_append hg, hskip, hn.name?_append hr.inName]

theorem atom?_of_startsName {c : Char} (h : startsName c = true) (s : List Char) :
    atom? (c :: s) =
      (lastName? (c :: s)).map fun (n, rest) => (.last (String.ofList n), rest) := by
  have hne : ∀ d, startsName d = false → c ≠ d := by
    rintro d hd rfl
    rw [h] at hd
    cases hd
  have hd : Text.asciiDigit c = false := by
    refine Bool.eq_false_iff.mpr fun hd => ?_
    rw [startsName_of_asciiDigit hd] at h
    cases h
  rw [atom?, constant?_cons_eq_none (hne '.' (by decide)), numeral?_cons_eq_none hd,
    string?_cons_eq_none (hne '"' (by decide))]
  rfl

theorem Name.isSpace_head {c : Char} (h : startsName c = true) : isSpace c = false := by
  refine Bool.eq_false_iff.mpr fun hs => ?_
  have hin := inName_of_startsName h
  rw [inName_of_isSpace hs] at hin
  cases hin

theorem Atom.exists_cons {e : Expr} {w : List Char} (h : Atom e w) :
    ∃ c tail, w = c :: tail ∧ isSpace c = false ∧ c ≠ '(' := by
  have ofName : ∀ {n : List Char}, Name n →
      ∃ c tail, n = c :: tail ∧ isSpace c = false ∧ c ≠ '(' := by
    rintro n ⟨c, n, rfl, hc, -⟩
    refine ⟨c, n, rfl, Name.isSpace_head hc, ?_⟩
    rintro rfl
    exact absurd hc (by decide)
  have ofDigits : ∀ {d : List Char}, Digits d →
      ∃ c tail, d = c :: tail ∧ isSpace c = false ∧ c ≠ '(' := by
    rintro d ⟨hne, hd⟩
    cases d with
    | nil => exact absurd rfl hne
    | cons c d =>
      have hc := hd c List.mem_cons_self
      refine ⟨c, d, rfl, Bool.eq_false_iff.mpr fun hs => ?_, ?_⟩
      · have hin := inName_of_asciiDigit hc
        rw [inName_of_isSpace hs] at hin
        cases hin
      · rintro rfl
        exact absurd hc (by decide)
  cases h with
  | constant hm hw =>
    obtain ⟨ts, hts⟩ := List.head?_eq_some_iff.mp (head?_of_mem_constants hm)
    unfold Spells at hw
    rw [hts] at hw
    cases w with
    | nil => cases hw
    | cons c w =>
      simp only [Text.sameLetters, Bool.and_eq_true] at hw
      have hc := eq_of_sameLetter hw.1 (by decide)
      subst hc
      exact ⟨'.', w, rfl, by decide, by decide⟩
  | integer hd => exact ofDigits hd
  | decimal hw =>
    obtain ⟨c, tail, rfl, hc⟩ := ofDigits hw
    exact ⟨c, _, rfl, hc⟩
  | string => exact ⟨'"', _, rfl, by decide, by decide⟩
  | last hk =>
    obtain ⟨c, tail, rfl, hc⟩ := ofName (hk.name (by decide) (by decide))
    exact ⟨c, _, rfl, hc⟩
  | field hn => exact ofName hn

/-- An atom other than a field is read as such. -/
theorem Atom.atom?_append {e : Expr} {w rest : List Char} (h : Atom e w) (hr : Stops rest) :
    atom? (w ++ rest) = some (e, rest) ∨
      (Name w ∧ e = .field (String.ofList w) ∧ atom? (w ++ rest) = none) := by
  cases h with
  | constant hm hw =>
    have hc := constant?_append (by decide) hm hw rest
    exact .inl (by simp [atom?, hc])
  | integer hw small =>
    obtain ⟨hne, hd⟩ := hw
    have hnum := numeral?_integer ⟨hne, hd⟩ small hr
    cases w with
    | nil => exact absurd rfl hne
    | cons c w =>
      have hc : c ≠ '.' := by
        rintro rfl
        exact absurd (hd _ List.mem_cons_self) (by decide)
      rw [List.cons_append] at hnum ⊢
      exact .inl (by simp [atom?, constant?_cons_eq_none hc, hnum])
  | @decimal whole fraction hw hf =>
    obtain ⟨hne, hd⟩ := hw
    have hnum := numeral?_decimal ⟨hne, hd⟩ hf hr
    cases whole with
    | nil => exact absurd rfl hne
    | cons c whole =>
      have hc : c ≠ '.' := by
        rintro rfl
        exact absurd (hd _ List.mem_cons_self) (by decide)
      rw [List.cons_append] at hnum
      exact .inl (by simp [atom?, constant?_cons_eq_none hc, hnum])
  | @string w t ht =>
    have hs := stringFrom_append ht [] rest
    have hc := constant?_cons_eq_none (c := '"') (by decide) (w ++ '"' :: rest)
    have hn := numeral?_cons_eq_none (c := '"') (by decide) (w ++ '"' :: rest)
    exact .inl (by simp [atom?, hc, hn, string?, hs])
  | @last keyword gap n hk hg hne hn =>
    have hlast := lastName?_append hk hg hne hn hr
    obtain ⟨c, k, rfl, hc, -⟩ := hk.name (by decide) (by decide)
    refine .inl ?_
    simp only [List.cons_append, List.append_assoc] at hlast ⊢
    rw [atom?_of_startsName hc, hlast]
    rfl
  | field hn =>
    have hlast := lastName?_name_eq_none hn hr
    refine .inr ⟨hn, rfl, ?_⟩
    obtain ⟨c, n, rfl, hc, -⟩ := hn
    rw [List.cons_append] at hlast ⊢
    rw [atom?_of_startsName hc, hlast]
    rfl

/-! ## Names of functions -/

theorem Function.spells_of_ofName? {n : List Char} {f : Function}
    (h : Function.ofName? n = some f) : Spells f.name n := by
  have hf := List.find?_some h
  exact hf

theorem Function.ofName?_of_spells {f : Function} {n : List Char} (h : Spells f.name n) :
    Function.ofName? n = some f := by
  have distinct : ∀ f g : Function, agree f.name.toList g.name.toList = true → f = g := by
    intro f g
    cases f <;> cases g <;> decide
  have hmem : f ∈ Function.all := by cases f <;> decide
  cases hg : Function.ofName? n with
  | none => exact absurd h (List.find?_eq_none.mp hg f hmem)
  | some g =>
    have hspells := Function.spells_of_ofName? hg
    have hagree := agree_of_afterToken? (afterToken?_append hspells []) (afterToken?_append h [])
    rw [distinct g f hagree]

theorem Function.isName_of_spells {f : Function} {n : List Char} (h : Spells f.name n) :
    Name n :=
  h.name (by cases f <;> decide) (by cases f <;> decide)

theorem Function.atom?_eq_none {f : Function} {n : List Char} (h : Spells f.name n)
    (rest : List Char) : atom? (n ++ rest) = none := by
  have hagree : agree "LAST".toList f.name.toList = false := by cases f <;> decide
  have hnone := afterToken?_eq_none (afterToken?_append h rest) hagree
  obtain ⟨c, n, rfl, hc, -⟩ := Function.isName_of_spells h
  rw [List.cons_append] at hnone ⊢
  rw [atom?_of_startsName hc, lastName?, hnone]
  rfl

end RuleBench.Expr
