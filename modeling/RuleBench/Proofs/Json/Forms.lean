import RuleBench.Json.Form
import RuleBench.Proofs.Json.Members
import RuleBench.Proofs.Json.Values

set_option autoImplicit false

/-!
# Forms that read back

A form restores something from a JSON value when it makes it of the value, both of its text and of
the value itself, wherever that has been kept.  What forms are put together from restores, and so
does what is put together.
-/

namespace RuleBench.Json

/-! ## Values in canonical form -/

mutual

/-- The members of every object ascend by name. -/
def InOrder : Json → Prop
  | .arr items => InOrderItems items
  | .obj members => Ascending members ∧ InOrderMembers members
  | _ => True

def InOrderItems : List Json → Prop
  | [] => True
  | v :: rest => InOrder v ∧ InOrderItems rest

def InOrderMembers : List (String × Json) → Prop
  | [] => True
  | (_, v) :: rest => InOrder v ∧ InOrderMembers rest

end

theorem inOrderItems_iff {items : List Json} : InOrderItems items ↔ ∀ v ∈ items, v.InOrder := by
  induction items with
  | nil => simp [InOrderItems]
  | cons v rest ih => simp [InOrderItems, ih]

theorem inOrderMembers_iff {members : List (String × Json)} :
    InOrderMembers members ↔ ∀ m ∈ members, m.2.InOrder := by
  induction members with
  | nil => simp [InOrderMembers]
  | cons m rest ih =>
    obtain ⟨name, v⟩ := m
    simp [InOrderMembers, ih]

theorem canonicalItems_eq_map (items : List Json) : canonicalItems items = items.map canonical := by
  induction items with
  | nil => rfl
  | cons v rest ih => rw [canonicalItems, ih, List.map_cons]

theorem canonicalMembers_eq_map (members : List (String × Json)) :
    canonicalMembers members = members.map fun m => (m.1, m.2.canonical) := by
  induction members with
  | nil => rfl
  | cons m rest ih => rw [canonicalMembers, ih, List.map_cons]

theorem canonical_of_inOrder {v : Json} (h : v.InOrder) : v.canonical = v := by
  induction v using Json.induct with
  | null | bool _ | num _ | str _ => rfl
  | arr items ih =>
    rw [InOrder, inOrderItems_iff] at h
    rw [canonical, canonicalItems_eq_map, List.map_congr_left fun v hv => ih v hv (h v hv),
      List.map_id']
  | obj members ih =>
    rw [InOrder, inOrderMembers_iff] at h
    have hsame : members.map (fun m => (m.1, m.2.canonical)) = members.map id :=
      List.map_congr_left fun m hm => Prod.ext rfl (ih m hm (h.2 m hm))
    rw [canonical, canonicalMembers_eq_map, hsame, List.map_id, sortMembers_eq_self h.1]

open Scan (Reads Yields)

namespace Form

variable {α β γ : Type}

structure Restores (form : Form α) (v : Json) (a : α) : Prop where
  load : ∀ held, form.load held v = .ok a
  scan : ∀ {depth : Nat}, v.nesting ≤ depth → v.Legible → Reads (form.scan (depth + 1)) v a

theorem Restores.read_of_writes {form : Form α} {v : Json} {a : α} (h : form.Restores v a)
    (hdepth : v.nesting < depthLimit) (hlegible : v.Legible) {text : List Char}
    (hwrites : Writes v text) : form.read (String.ofList text) = .ok a := by
  have hscan := h.scan (Nat.le_of_lt_succ hdepth) hlegible [] text [] blank_nil hwrites trivial
  rw [List.nil_append, List.append_nil] at hscan
  exact hscan.scanText_eq false

theorem Restores.read {form : Form α} {v : Json} {a : α} (h : form.Restores v a)
    (hdepth : v.nesting < depthLimit) (hlegible : v.Legible) : form.read v.compact = .ok a :=
  h.read_of_writes hdepth hlegible (writes_compactText v)

/-- A text can be read if its characters can be scanned. -/
theorem read_ofList {form : Form α} {chars : List Char} {a : α}
    (h : (match (do let a ← form.scan depthLimit; Scan.endOfText; return a)
      (Cursor.start chars false) with
      | .ok a _ => some a
      | .error _ _ => none) = some a) : form.read (.ofList chars) = .ok a := by
  unfold read scanText
  rw [String.toList_ofList]
  split at h
  case h_1 a c heq =>
    rw [heq]
    exact congrArg Except.ok (Option.some.inj h)
  case h_2 => cases h

theorem Restores.map {form : Form α} {v : Json} {a : α} (h : form.Restores v a) (f : α → β) :
    (form.map f).Restores v (f a) where
  load held := congrArg (Except.map f) (h.load held)
  scan hdepth hlegible := (h.scan hdepth hlegible).bind (.pure (f a))

/-! ## Plain values -/

theorem restores_any {v : Json} (h : v.InOrder) : any.Restores v v where
  load _ := congrArg Except.ok (canonical_of_inOrder h)
  scan hdepth hlegible := by
    refine (Scan.reads_value hdepth hlegible).bind fun rest => ?_
    rw [canonical_of_inOrder h]
    exact .pure v rest

theorem restores_textNamed (wanted : String) (s : String) :
    (textNamed wanted).Restores (.str s) s where
  load _ := rfl
  scan _ _ gap text rest hgap hwrites _ := by
    cases hwrites
    rw [stringText_append]
    exact (Yields.look_of_blank hgap rfl _).bind ((Yields.take '"' _).bind (.string s rest))

theorem restores_text (s : String) : text.Restores (.str s) s := restores_textNamed _ s

theorem ofNat_eq {n : Nat} (h : n < 2 ^ 64) :
    ∃ w : Whole, w.val = n ∧ ofNat n = .num (.whole w) := by
  have hbounds : -0x8000000000000000 ≤ (n : Int) ∧ (n : Int) < 0x10000000000000000 := by omega
  have hw : Whole.ofInt? n = some ⟨n, hbounds⟩ := Whole.ofInt?_val ⟨n, hbounds⟩
  -- Unfolded at `n`, the bounds would be counted down to compare them with it.
  have hunfold := congrFun (show Number.ofNat = _ by delta Number.ofNat; exact rfl) n
  rw [hw] at hunfold
  exact ⟨⟨n, hbounds⟩, rfl, congrArg Json.num hunfold⟩

theorem text_whole {w : Whole} (h : 0 ≤ w.val) :
    (Number.whole w).text = Nat.toDigits 10 w.val.natAbs := by
  rw [Number.text, if_neg (by omega), List.nil_append]

theorem restores_unsigned (wanted : String) {n : Nat} (h : n < 2 ^ 64) :
    (unsigned wanted).Restores (ofNat n) n := by
  obtain ⟨w, hw, heq⟩ := ofNat_eq h
  have hvalue : unsigned? wanted (.whole w) = .ok n := by
    rw [unsigned?, if_neg (by omega), hw, Int.toNat_natCast]
  rw [heq]
  refine ⟨fun held => hvalue, fun _ _ gap text rest hgap hwrites hrest => ?_⟩
  cases hwrites
  have hnumber := Yields.number w hrest
  rw [decide_eq_false (by omega)] at hnumber
  rw [text_whole (by omega)]
  have hplaced := Yields.placed (Yields.lift n rest)
  rw [← hvalue] at hplaced
  have hfigures := isFigures_toDigits w.val.natAbs
  match Nat.toDigits 10 w.val.natAbs, hfigures, hnumber with
  | d :: more, hd, hnumber =>
    refine (Yields.look_of_blank hgap (isSpace_of_asciiDigit hd.1) _).bind ?_
    have hread := hnumber.bind (f := fun n => Scan.placed (Scan.lift (unsigned? wanted n))) hplaced
    rcases asciiDigit_cases hd.1 with rfl | rfl | rfl | rfl | rfl | rfl | rfl | rfl | rfl | rfl <;>
      exact hread

theorem restores_optional {form : Form α} {s : String} {a : α} (h : form.Restores (.str s) a) :
    (optional form).Restores (.str s) (some a) where
  load held := congrArg (Except.map some) (h.load held)
  scan hdepth hlegible gap text rest hgap hwrites hrest := by
    cases hwrites
    have hread := h.scan hdepth hlegible [] _ rest blank_nil (.str s) hrest
    exact (Yields.look_of_blank hgap rfl _).bind (hread.bind (.pure (some a) rest))

/-! ## Lists and maps -/

theorem restores_list {form : Form α} {vs : List Json} {as : List α}
    (h : List.Forall₂ form.Restores vs as) : (list form).Restores (.arr vs) as where
  load held := by
    change loadItems form held vs = .ok as
    induction h with
    | nil => rfl
    | cons hv _ ih =>
      rw [loadItems, hv.load held, ih]
      rfl
  scan hdepth hlegible gap text rest hgap hwrites _ := by
    obtain ⟨d, rfl, hd⟩ := exists_depth hdepth
    have hlegible := legible_arr_iff.mp hlegible
    have hnesting := nestingItems_le_iff.mp hd
    have hitems : List.Forall₂ (Reads (form.scan (d + 1))) vs as := by
      have hall := (List.forall₂_and_left vs as).mpr
        ⟨fun v hv => And.intro (hnesting v hv) (hlegible v hv), h⟩
      exact hall.imp fun v a ⟨hv, hform⟩ => hform.scan hv.1 hv.2
    cases hwrites with
    | arr hwrites hrow =>
      rw [List.append_assoc]
      exact (Yields.look_of_blank hgap rfl _).bind
        (Yields.listOf ((Yields.fuel _).bind (.items hitems hwrites hrow rest))).placed

theorem restores_entries {form : Form α} {ms : List (String × Json)} {es : List (String × α)}
    (h : List.Forall₂ (fun m e => m.1 = e.1 ∧ form.Restores m.2 e.2) ms es) :
    (entries form).Restores (.obj ms) es where
  load held := by
    change loadEntries form held ms = .ok es
    induction h with
    | nil => rfl
    | @cons m e _ _ hm _ ih =>
      obtain ⟨name, v⟩ := m
      obtain ⟨rfl, hv⟩ := hm
      rw [loadEntries, hv.load held, ih]
      rfl
  scan hdepth hlegible gap text rest hgap hwrites _ := by
    obtain ⟨d, rfl, hd⟩ := exists_depth hdepth
    have hlegible := legible_obj_iff.mp hlegible
    have hnesting := nestingMembers_le_iff.mp hd
    have hmembers : List.Forall₂
        (fun m e => m.1 = e.1 ∧ Reads (form.scan (d + 1)) m.2 e.2) ms es := by
      have hall := (List.forall₂_and_left ms es).mpr
        ⟨fun m hm => And.intro (hnesting m hm) (hlegible m hm), h⟩
      exact hall.imp fun m e ⟨hm, hname, hform⟩ => ⟨hname, hform.scan hm.1 hm.2⟩
    have hmake : Yields (pure (es.reverse ++ []).reverse) ('\x7d' :: rest) es ('\x7d' :: rest) := by
      rw [List.append_nil, List.reverse_reverse]
      exact .pure es _
    cases hwrites with
    | obj hwrites hrow =>
      have hread := Yields.members (Scan.gathers_entries hmembers []) hwrites hrow rest
      rw [List.append_assoc]
      exact (Yields.look_of_blank hgap rfl _).bind
        (Yields.objectOf ((Yields.fuel _).bind (hread.bind hmake))).placed

end Form

end RuleBench.Json
