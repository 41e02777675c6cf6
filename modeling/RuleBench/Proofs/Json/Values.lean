import Mathlib.Data.List.Forall2
import RuleBench.Proofs.Json.Layout

set_option autoImplicit false

/-!
# Values read back

A value is read back from every text that writes it if it nests no deeper than is read and if its
doubles are read back.
-/

namespace RuleBench.Json

mutual

/-- How many lists and objects stand inside one another. -/
def nesting : Json → Nat
  | .arr items => nestingItems items + 1
  | .obj members => nestingMembers members + 1
  | _ => 0

def nestingItems : List Json → Nat
  | [] => 0
  | v :: rest => max (nesting v) (nestingItems rest)

def nestingMembers : List (String × Json) → Nat
  | [] => 0
  | (_, v) :: rest => max (nesting v) (nestingMembers rest)

end

mutual

/-- The doubles in a value. -/
def doubles : Json → List Binary64
  | .num (.real x) => [x]
  | .arr items => doublesItems items
  | .obj members => doublesMembers members
  | _ => []

def doublesItems : List Json → List Binary64
  | [] => []
  | v :: rest => doubles v ++ doublesItems rest

def doublesMembers : List (String × Json) → List Binary64
  | [] => []
  | (_, v) :: rest => doubles v ++ doublesMembers rest

end

/-- All doubles in the value are read back. -/
def Legible (v : Json) : Prop := ∀ x ∈ v.doubles, ReadsBack x

theorem nestingItems_le_iff {items : List Json} {n : Nat} :
    nestingItems items ≤ n ↔ ∀ v ∈ items, v.nesting ≤ n := by
  induction items with
  | nil => simp [nestingItems]
  | cons v rest ih => simp [nestingItems, ih]

theorem nestingMembers_le_iff {members : List (String × Json)} {n : Nat} :
    nestingMembers members ≤ n ↔ ∀ m ∈ members, m.2.nesting ≤ n := by
  induction members with
  | nil => simp [nestingMembers]
  | cons m rest ih =>
    obtain ⟨name, v⟩ := m
    simp [nestingMembers, ih]

theorem legible_arr_iff {items : List Json} :
    (arr items).Legible ↔ ∀ v ∈ items, v.Legible := by
  simp only [Legible, doubles]
  induction items with
  | nil => simp [doublesItems]
  | cons v rest ih => simp [doublesItems, or_imp, forall_and, ih]

theorem legible_obj_iff {members : List (String × Json)} :
    (obj members).Legible ↔ ∀ m ∈ members, m.2.Legible := by
  simp only [Legible, doubles]
  induction members with
  | nil => simp [doublesMembers]
  | cons m rest ih =>
    obtain ⟨name, v⟩ := m
    simp [doublesMembers, or_imp, forall_and, ih]

namespace Scan

variable {α β : Type}

/-- Where a value may end behind a text that writes `v`, the scan yields `a` on it, and it passes
over blanks in front. -/
def Reads (s : Scan α) (v : Json) (a : α) : Prop :=
  ∀ gap text rest, Blank gap → Writes v text → Stops rest → Yields s (gap ++ (text ++ rest)) a rest

theorem Reads.bind {s : Scan α} {f : α → Scan β} {v : Json} {a : α} {b : β} (h : Reads s v a)
    (hf : ∀ rest, Yields (f a) rest b rest) : Reads (s >>= f) v b :=
  fun gap text rest hgap hwrites hrest => (h gap text rest hgap hwrites hrest).bind (hf rest)

/-- As `Reads`, where the scan starts behind the name of a member. -/
def ReadsTail (s : Scan α) (v : Json) (a : α) : Prop :=
  ∀ tail rest, WritesTail v tail → Stops rest → Yields s (tail ++ rest) a rest

/-- What reads the value of a member reads it behind the colon. -/
theorem Reads.tail {s : Scan α} {f : α → Scan β} {v : Json} {a : α} {b : β} (h : Reads s v a)
    (hf : ∀ rest, Yields (f a) rest b rest) :
    ReadsTail (do Scan.colon; let a ← s; f a) v b := by
  intro tail rest htail hrest
  obtain ⟨hbefore, hgap, hwrites⟩ := htail
  rw [List.append_assoc, List.cons_append, List.append_assoc]
  exact (Yields.colon hbefore _).bind (h.bind hf _ _ _ hgap hwrites hrest)

/-- How the members of an object lead from one state to another. -/
def Gathers (member : String → α → Scan α) : List (String × Json) → α → α → Prop
  | [], state, final => state = final
  | m :: rest, state, final =>
    ∃ next, ReadsTail (member m.1 state) m.2 next ∧ Gathers member rest next final

theorem Gathers.append {member : String → α → Scan α} {ms more : List (String × Json)}
    {state middle final : α} (h : Gathers member ms state middle)
    (hmore : Gathers member more middle final) : Gathers member (ms ++ more) state final := by
  induction ms generalizing state with
  | nil =>
    obtain rfl : state = middle := h
    exact hmore
  | cons m ms ih =>
    obtain ⟨next, hm, hms⟩ := h
    exact ⟨next, hm, ih hms⟩

namespace Yields

theorem listGoesOn_close (first : Bool) {gap : List Char} (hgap : Blank gap) (rest : List Char) :
    Yields (listGoesOn first) (gap ++ ']' :: rest) false (']' :: rest) :=
  (look_of_blank hgap rfl rest).bind (pure false _)

theorem listGoesOn_first {gap text : List Char} (hgap : Blank gap) (h : Opens text) :
    Yields (listGoesOn true) (gap ++ text) true text := by
  match text, h with
  | c :: more, h =>
    refine (look_of_blank hgap h.1 more).bind ?_
    split
    · rename_i hnone
      cases hnone
    · rename_i hclose
      exact absurd (Option.some.inj hclose) h.2
    · exact pure true _

theorem listGoesOn_comma {before gap text : List Char} (hbefore : Blank before) (hgap : Blank gap)
    (h : Opens text) : Yields (listGoesOn false) (before ++ ',' :: (gap ++ text)) true text := by
  match text, h with
  | c :: more, h =>
    refine (look_of_blank hbefore rfl _).bind ((take ',' _).bind
      ((look_of_blank hgap h.1 more).bind ?_))
    split
    · rename_i hclose
      exact absurd (Option.some.inj hclose) h.2
    · exact pure true _
    · rename_i hnone
      cases hnone

/-- Items behind others. -/
theorem items_more {item : Scan α} {vs : List Json} {as : List α}
    (h : List.Forall₂ (Reads item) vs as) {texts : List (List Char)}
    (hwrites : WritesItems vs texts) {row : List Char} (hrow : Behind texts row)
    (rest : List Char) {fuel : Nat} (hfuel : texts.length < fuel) :
    Yields (items item false fuel) (row ++ ']' :: rest) as (']' :: rest) := by
  induction h generalizing fuel texts row with
  | nil =>
    obtain _ | fuel := fuel
    · cases hfuel
    · cases hwrites
      obtain ⟨hgap⟩ := hrow
      exact (listGoesOn_close false hgap rest).bind (pure [] _)
  | @cons v a vs as hv _ ih =>
    obtain _ | fuel := fuel
    · cases hfuel
    · cases hwrites with
      | cons hwrites hitems =>
        obtain _ | ⟨hbefore, hgap, hrow⟩ := hrow
        simp only [List.append_assoc, List.cons_append]
        refine (listGoesOn_comma hbefore hgap (hwrites.opens _)).bind ?_
        refine (hv [] _ _ blank_nil hwrites (hrow.stops .bracket rest)).bind ?_
        exact (ih hitems hrow (Nat.lt_of_succ_lt_succ hfuel)).bind (pure (a :: as) _)

theorem items {item : Scan α} {vs : List Json} {as : List α}
    (h : List.Forall₂ (Reads item) vs as) {texts : List (List Char)}
    (hwrites : WritesItems vs texts) {row : List Char} (hrow : Row texts row) (rest : List Char) :
    Yields (Scan.items item true ((row ++ ']' :: rest).length + 1)) (row ++ ']' :: rest) as
      (']' :: rest) := by
  cases h with
  | nil =>
    cases hwrites
    obtain ⟨hgap⟩ := hrow
    exact (listGoesOn_close true hgap rest).bind (pure [] _)
  | @cons v a vs as hv hvs =>
    cases hwrites with
    | cons hwrites hitems =>
      obtain _ | ⟨hgap, hrow⟩ := hrow
      simp only [List.append_assoc]
      refine (listGoesOn_first hgap (hwrites.opens _)).bind ?_
      refine (hv [] _ _ blank_nil hwrites (hrow.stops .bracket rest)).bind ?_
      refine (items_more hvs hitems hrow rest ?_).bind (pure (a :: as) _)
      have hle := hrow.length_le
      simp only [List.length_append, List.length_cons]
      omega

theorem endOfList (rest : List Char) : Yields Scan.endOfList (']' :: rest) () rest :=
  (look rfl rest).bind (take ']' rest)

/-- A list from its bracket to its end. -/
theorem listOf {inside : Nat → Scan α} {depth : Nat} {text rest : List Char} {a : α}
    (h : Yields (inside (depth + 1)) text a (']' :: rest)) :
    Yields (Scan.listOf (depth + 2) inside) ('[' :: text) a rest :=
  (take '[' text).bind (h.closedBy (endOfList rest))

theorem objectGoesOn_close (first : Bool) {gap : List Char} (hgap : Blank gap)
    (rest : List Char) :
    Yields (objectGoesOn first) (gap ++ '\x7d' :: rest) false ('\x7d' :: rest) :=
  (look_of_blank hgap rfl rest).bind (pure false _)

theorem objectGoesOn_first {gap : List Char} (hgap : Blank gap) (name : String)
    (rest : List Char) :
    Yields (objectGoesOn true) (gap ++ (stringText name ++ rest)) true (stringText name ++ rest) :=
  (look_of_blank hgap rfl _).bind (pure true _)

theorem objectGoesOn_comma {before gap : List Char} (hbefore : Blank before) (hgap : Blank gap)
    (name : String) (rest : List Char) :
    Yields (objectGoesOn false) (before ++ ',' :: (gap ++ (stringText name ++ rest))) true
      (stringText name ++ rest) :=
  (look_of_blank hbefore rfl _).bind ((take ',' _).bind
    ((look_of_blank hgap rfl _).bind (pure true _)))

/-- Members behind others. -/
theorem members_more {member : String → α → Scan α} {ms : List (String × Json)} {state final : α}
    (h : Gathers member ms state final) {texts : List (List Char)}
    (hwrites : WritesMembers ms texts) {row : List Char} (hrow : Behind texts row)
    (rest : List Char) {fuel : Nat} (hfuel : texts.length < fuel) :
    Yields (Scan.members member false state fuel) (row ++ '\x7d' :: rest) final
      ('\x7d' :: rest) := by
  induction ms generalizing state fuel texts row with
  | nil =>
    obtain _ | fuel := fuel
    · cases hfuel
    · obtain rfl : state = final := h
      cases hwrites
      obtain ⟨hgap⟩ := hrow
      exact (objectGoesOn_close false hgap rest).bind (pure _ _)
  | cons m ms ih =>
    obtain ⟨next, hm, hms⟩ := h
    obtain _ | fuel := fuel
    · cases hfuel
    · cases hwrites with
      | cons htail hmembers =>
        obtain _ | ⟨hbefore, hgap, hrow⟩ := hrow
        simp only [List.append_assoc, List.cons_append]
        refine (objectGoesOn_comma hbefore hgap _ _).bind ((memberName _ _).bind ?_)
        refine (hm _ _ htail (hrow.stops .brace rest)).bind ?_
        exact ih hms hmembers hrow (Nat.lt_of_succ_lt_succ hfuel)

theorem members {member : String → α → Scan α} {ms : List (String × Json)} {state final : α}
    (h : Gathers member ms state final) {texts : List (List Char)}
    (hwrites : WritesMembers ms texts) {row : List Char} (hrow : Row texts row)
    (rest : List Char) :
    Yields (Scan.members member true state ((row ++ '\x7d' :: rest).length + 1))
      (row ++ '\x7d' :: rest) final ('\x7d' :: rest) := by
  cases ms with
  | nil =>
    obtain rfl : state = final := h
    cases hwrites
    obtain ⟨hgap⟩ := hrow
    exact (objectGoesOn_close true hgap rest).bind (pure _ _)
  | cons m ms =>
    obtain ⟨next, hm, hms⟩ := h
    cases hwrites with
    | cons htail hmembers =>
      obtain _ | ⟨hgap, hrow⟩ := hrow
      simp only [List.append_assoc]
      refine (objectGoesOn_first hgap _ _).bind ((memberName _ _).bind ?_)
      refine (hm _ _ htail (hrow.stops .brace rest)).bind (members_more hms hmembers hrow rest ?_)
      have hle := hrow.length_le
      simp only [List.length_append, List.length_cons]
      omega

theorem endOfObject (rest : List Char) : Yields Scan.endOfObject ('\x7d' :: rest) () rest :=
  (look rfl rest).bind (take '\x7d' rest)

/-- An object from its brace to its end. -/
theorem objectOf {inside : Nat → Scan α} {depth : Nat} {text rest : List Char} {a : α}
    (h : Yields (inside (depth + 1)) text a ('\x7d' :: rest)) :
    Yields (Scan.objectOf (depth + 2) inside) ('\x7b' :: text) a rest :=
  (take '\x7b' text).bind (h.closedBy (endOfObject rest))

end Yields

end Scan

/-! ## Values -/

/-- What is left of the depth inside a list or an object. -/
theorem exists_depth {depth n : Nat} (h : n + 1 ≤ depth) : ∃ d, depth = d + 1 ∧ n ≤ d :=
  ⟨depth - 1, by omega, by omega⟩

namespace Scan

variable {α : Type}

theorem reads_number (depth : Nat) {n : Number} (h : ∀ x, n = .real x → ReadsBack x) :
    Reads (value (depth + 1)) (.num n) (.num n) := by
  intro gap text rest hgap hwrites hrest c hc
  cases hwrites
  obtain ⟨negative, figures, hfigures, htext, hnumber⟩ := exists_number n h
  rw [htext] at hc
  obtain ⟨c', hc', heq⟩ := value_eq_number depth negative hgap hfigures hc
  rw [heq]
  exact ((hnumber rest hrest).bind (.pure (Json.num n) rest)).placed c' hc'

/-- The members as written, the last first. -/
theorem gathers_entries {item : Scan α} {ms : List (String × Json)} {es : List (String × α)}
    (h : List.Forall₂ (fun m e => m.1 = e.1 ∧ Reads item m.2 e.2) ms es)
    (before : List (String × α)) :
    Gathers (fun name es => do
      colon
      return (name, ← item) :: es) ms before (es.reverse ++ before) := by
  induction h generalizing before with
  | nil => rfl
  | @cons m e ms es hm _ ih =>
    obtain ⟨hname, hm⟩ := hm
    refine ⟨e :: before, hm.tail fun rest => ?_, ?_⟩
    · rw [hname]
      exact .pure _ rest
    · rw [List.reverse_cons, List.append_assoc]
      exact ih (e :: before)

theorem reads_value {v : Json} {depth : Nat} (hdepth : v.nesting ≤ depth) (h : v.Legible) :
    Reads (value (depth + 1)) v v := by
  induction v using Json.induct generalizing depth with
  | num n =>
    refine reads_number depth ?_
    rintro x rfl
    exact h x (List.mem_singleton_self x)
  | null =>
    intro gap text rest hgap hwrites _
    cases hwrites
    exact ((Yields.look_of_blank hgap rfl _).bind ((Yields.take 'n' _).bind
      ((Yields.word ['u', 'l', 'l'] rest).bind (.pure Json.null rest)))).placed
  | bool b =>
    intro gap text rest hgap hwrites _
    cases hwrites
    cases b with
    | true =>
      exact ((Yields.look_of_blank hgap rfl _).bind ((Yields.take 't' _).bind
        ((Yields.word ['r', 'u', 'e'] rest).bind (.pure (Json.bool true) rest)))).placed
    | false =>
      exact ((Yields.look_of_blank hgap rfl _).bind ((Yields.take 'f' _).bind
        ((Yields.word ['a', 'l', 's', 'e'] rest).bind (.pure (Json.bool false) rest)))).placed
  | str s =>
    intro gap text rest hgap hwrites _
    cases hwrites
    rw [stringText_append]
    exact ((Yields.look_of_blank hgap rfl _).bind ((Yields.take '"' _).bind
      ((Yields.string s rest).bind (.pure (Json.str s) rest)))).placed
  | arr vs ih =>
    intro gap text rest hgap hwrites _
    obtain ⟨d, rfl, hd⟩ := exists_depth hdepth
    have hvs := nestingItems_le_iff.mp hd
    have hlegible := legible_arr_iff.mp h
    cases hwrites with
    | arr hwrites hrow =>
      have hitems := Yields.items
        (List.forall₂_same.mpr fun v hv => ih v hv (hvs v hv) (hlegible v hv)) hwrites hrow rest
      rw [List.append_assoc]
      exact ((Yields.look_of_blank hgap rfl _).bind ((Yields.take '[' _).bind
        (((Yields.fuel _).bind (hitems.bind (.pure (Json.arr vs) _))).closedBy
          (.endOfList rest)))).placed
  | obj ms ih =>
    intro gap text rest hgap hwrites _
    obtain ⟨d, rfl, hd⟩ := exists_depth hdepth
    have hms := nestingMembers_le_iff.mp hd
    have hlegible := legible_obj_iff.mp h
    have hentries := gathers_entries (List.forall₂_same.mpr fun m hm =>
      ⟨rfl, ih m hm (hms m hm) (hlegible m hm)⟩) []
    have hmake : Yields (pure (Json.obj (ms.reverse ++ []).reverse)) ('\x7d' :: rest)
        (Json.obj ms) ('\x7d' :: rest) := by
      rw [List.append_nil, List.reverse_reverse]
      exact .pure (Json.obj ms) _
    cases hwrites with
    | obj hwrites hrow =>
      rw [List.append_assoc]
      exact ((Yields.look_of_blank hgap rfl _).bind ((Yields.take '\x7b' _).bind
        (((Yields.fuel _).bind ((Yields.members hentries hwrites hrow rest).bind hmake)).closedBy
          (.endOfObject rest)))).placed

end Scan

end RuleBench.Json
