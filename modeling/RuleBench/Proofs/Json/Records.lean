import RuleBench.Proofs.Json.Forms

set_option autoImplicit false

/-!
# Records that read back

A record is restored from the members of its fields, in the order of the fields, where a field that
may be missing may be.  Members of other names in front of them make no difference.
-/

namespace RuleBench.Json

open Scan (Reads ReadsTail Yields Gathers)
open Form (Restores)

/-! ## Values that nobody wants -/

/-- The value is passed over to its end. -/
def Skipped (v : Json) : Prop := Reads Scan.skipValue v ()

theorem skipped_str (s : String) : (str s).Skipped := by
  intro gap text rest hgap hwrites _
  cases hwrites
  rw [stringText_append]
  refine (Yields.fuel _).bind (Yields.bind (a := none) ?_ (.pure () rest))
  exact (Yields.look_of_blank hgap rfl _).bind ((Yields.take '"' _).bind
    ((Yields.skipString s rest).bind (.pure none rest)))

theorem skipped_ofNat {n : Nat} (h : n < 2 ^ 64) : (ofNat n).Skipped := by
  obtain ⟨w, hw, heq⟩ := Form.ofNat_eq h
  rw [heq]
  intro gap text rest hgap hwrites hrest
  cases hwrites
  have hskip := Yields.skipNumber w.val.natAbs hrest
  rw [Form.text_whole (by omega)]
  refine (Yields.fuel _).bind (Yields.bind (a := none) ?_ (.pure () rest))
  have hfigures := isFigures_toDigits w.val.natAbs
  match Nat.toDigits 10 w.val.natAbs, hfigures, hskip with
  | d :: more, hd, hskip =>
    refine (Yields.look_of_blank hgap (isSpace_of_asciiDigit hd.1) _).bind ?_
    have hread := hskip.bind (f := fun _ => pure (none : Option Scan.Skip)) (.pure none rest)
    rcases asciiDigit_cases hd.1 with rfl | rfl | rfl | rfl | rfl | rfl | rfl | rfl | rfl | rfl <;>
      exact hread

namespace Fields

variable {α β : Type}

/-- Reading a member leads from one draft to another. -/
structure Takes (fs : Fields α) (m : String × Json) (d d' : fs.Draft) : Prop where
  load : ∀ held, fs.loadMember held m.1 m.2 d = .ok d'
  scan : ∀ {depth : Nat}, m.2.nesting ≤ depth → m.2.Legible →
    ReadsTail (fs.scanMember (depth + 1) m.1 d) m.2 d'

/-- Reading members, one after another. -/
def TakesAll (fs : Fields α) : List (String × Json) → fs.Draft → fs.Draft → Prop
  | [], d, d' => d = d'
  | m :: ms, d, d' => ∃ e, fs.Takes m d e ∧ TakesAll fs ms e d'

theorem TakesAll.load {fs : Fields α} {ms : List (String × Json)} {d d' : fs.Draft}
    (h : fs.TakesAll ms d d') (held : Held) : fs.loadMembers held ms d = .ok d' := by
  induction ms generalizing d with
  | nil => exact congrArg Except.ok h
  | cons m ms ih =>
    obtain ⟨e, hm, hms⟩ := h
    rw [loadMembers, hm.load held]
    exact ih hms

theorem TakesAll.gathers {fs : Fields α} {ms : List (String × Json)} {d d' : fs.Draft}
    (h : fs.TakesAll ms d d') {depth : Nat} (hdepth : ∀ m ∈ ms, m.2.nesting ≤ depth)
    (hlegible : ∀ m ∈ ms, m.2.Legible) :
    Gathers (fun name draft => fs.scanMember (depth + 1) name draft) ms d d' := by
  induction ms generalizing d with
  | nil => exact h
  | cons m ms ih =>
    obtain ⟨e, hm, hms⟩ := h
    obtain ⟨hd, hdepth⟩ := List.forall_mem_cons.mp hdepth
    obtain ⟨hl, hlegible⟩ := List.forall_mem_cons.mp hlegible
    exact ⟨e, hm.scan hd hl, ih hms hdepth hlegible⟩

theorem TakesAll.append {fs : Fields α} {ms more : List (String × Json)} {d d' d'' : fs.Draft}
    (h : fs.TakesAll ms d d') (hmore : fs.TakesAll more d' d'') :
    fs.TakesAll (ms ++ more) d d'' := by
  induction ms generalizing d with
  | nil =>
    obtain rfl : d = d' := h
    exact hmore
  | cons m ms ih =>
    obtain ⟨e, hm, hms⟩ := h
    exact ⟨e, hm, ih hms⟩

section Field

variable {name : String} {form : Form α} {default : Option α} {rest : Fields β} {v : Json} {a : α}
  {m : String × Json} {d d' : rest.Draft}

theorem takes_first (h : form.Restores v a) (d : rest.Draft) :
    (field name form default rest).Takes (name, v) (none, d) (some a, d) where
  load held := by
    have hmember : (field name form default rest).loadMember held name v (none, d) = (do
        return ((some (← form.load held v), d) : Option α × rest.Draft)) := if_pos rfl
    exact hmember.trans (by rw [h.load held]; rfl)
  scan {depth} hdepth hlegible := by
    have hmember : (field name form default rest).scanMember (depth + 1) name (none, d) = (do
        Scan.colon
        return ((some (← form.scan (depth + 1)), d) : Option α × rest.Draft)) := if_pos rfl
    rw [hmember]
    exact (h.scan hdepth hlegible).tail (.pure (some a, d))

theorem Takes.later (h : rest.Takes m d d') (hne : name ≠ m.1) (slot : Option α) :
    (field name form default rest).Takes m (slot, d) (slot, d') where
  load held := by
    have hmember : (field name form default rest).loadMember held m.1 m.2 (slot, d) = (do
        return ((slot, ← rest.loadMember held m.1 m.2 d) : Option α × rest.Draft)) := if_neg hne
    exact hmember.trans (by rw [h.load held]; rfl)
  scan {depth} hdepth hlegible tail text htail htext := by
    have hmember : (field name form default rest).scanMember (depth + 1) m.1 (slot, d) = (do
        return ((slot, ← rest.scanMember (depth + 1) m.1 d) : Option α × rest.Draft)) := if_neg hne
    rw [hmember]
    exact (h.scan hdepth hlegible tail text htail htext).bind (.pure (slot, d') _)

theorem TakesAll.later {ms : List (String × Json)} (h : rest.TakesAll ms d d')
    (hne : ∀ m ∈ ms, name ≠ m.1) (slot : Option α) :
    (field name form default rest).TakesAll ms (slot, d) (slot, d') := by
  induction ms generalizing d with
  | nil => exact congrArg (Prod.mk slot) h
  | cons m ms ih =>
    obtain ⟨e, hm, hms⟩ := h
    obtain ⟨hn, hne⟩ := List.forall_mem_cons.mp hne
    exact ⟨(slot, e), hm.later hn slot, ih hms hne⟩

end Field

theorem takes_other {fs : Fields α} {m : String × Json} (hname : m.1 ∉ fs.names)
    (h : m.2.Skipped) (d : fs.Draft) : fs.Takes m d d := by
  induction fs with
  | done => exact ⟨fun _ => rfl, fun _ _ => h.tail (.pure d)⟩
  | field name form default rest ih =>
    obtain ⟨slot, d⟩ := d
    obtain ⟨hne, hname⟩ := not_or.mp (mt List.mem_cons.mpr hname)
    exact (ih hname d).later (Ne.symm hne) slot

theorem takesAll_others {fs : Fields α} {ms : List (String × Json)}
    (h : ∀ m ∈ ms, m.1 ∉ fs.names ∧ m.2.Skipped) (d : fs.Draft) : fs.TakesAll ms d d := by
  induction ms with
  | nil => rfl
  | cons m ms ih =>
    obtain ⟨hm, hms⟩ := List.forall_mem_cons.mp h
    exact ⟨d, takes_other hm.1 hm.2 d, ih hms⟩

/-- These members are those of the fields, in order, and restore what belongs to the fields. -/
inductive Holds : {α : Type} → Fields α → List (String × Json) → α → Prop where
  | done : Holds .done [] ()
  | field {α β : Type} {name : String} {form : Form α} {default : Option α} {rest : Fields β}
      {v : Json} {ms : List (String × Json)} {a : α} {b : β} (h : form.Restores v a)
      (hrest : Holds rest ms b) : Holds (.field name form default rest) ((name, v) :: ms) (a, b)
  | missing {α β : Type} {name : String} {form : Form α} {default : Option α} {rest : Fields β}
      {ms : List (String × Json)} {a : α} {b : β}
      (h : (default.orElse fun _ => form.absent) = some a) (hrest : Holds rest ms b) :
      Holds (.field name form default rest) ms (a, b)

theorem Holds.mem_names {fs : Fields α} {ms : List (String × Json)} {a : α} (h : fs.Holds ms a) :
    ∀ m ∈ ms, m.1 ∈ fs.names := by
  induction h with
  | done => exact List.forall_mem_nil _
  | field _ _ ih =>
    exact List.forall_mem_cons.mpr
      ⟨List.mem_cons_self, fun m hm => List.mem_cons_of_mem _ (ih m hm)⟩
  | missing _ _ ih => exact fun m hm => List.mem_cons_of_mem _ (ih m hm)

theorem Holds.exists_draft {fs : Fields α} {ms : List (String × Json)} {a : α} (h : fs.Holds ms a)
    (hnames : fs.names.Nodup) : ∃ d, fs.TakesAll ms fs.blank d ∧ fs.complete d = .ok a := by
  induction h with
  | done => exact ⟨(), rfl, rfl⟩
  | @field _ _ name _ _ _ v ms a b h hrest ih =>
    obtain ⟨hname, hnames⟩ := List.nodup_cons.mp hnames
    obtain ⟨d, htakes, hcomplete⟩ := ih hnames
    have hne : ∀ m ∈ ms, name ≠ m.1 := fun m hm heq => hname (heq ▸ hrest.mem_names m hm)
    refine ⟨(some a, d), ⟨_, takes_first h _, htakes.later hne (some a)⟩, ?_⟩
    change (do return (a, ← complete _ d)) = _
    rw [hcomplete]
    rfl
  | @missing _ _ name form default _ ms a b h hrest ih =>
    obtain ⟨hname, hnames⟩ := List.nodup_cons.mp hnames
    obtain ⟨d, htakes, hcomplete⟩ := ih hnames
    have hne : ∀ m ∈ ms, name ≠ m.1 := fun m hm heq => hname (heq ▸ hrest.mem_names m hm)
    refine ⟨(none, d), htakes.later hne none, ?_⟩
    have hslot : ((none : Option _).orElse fun _ => default.orElse fun _ => form.absent) = some a :=
      h
    simp only [complete, hslot, hcomplete]
    rfl

section Record

variable {fs : Fields α} {before ms : List (String × Json)} {a : α}

/-- The members of a record, behind others that do not belong to it. -/
theorem Holds.exists_takesAll (h : fs.Holds ms a) (hnames : fs.names.Nodup)
    (hbefore : ∀ m ∈ before, m.1 ∉ fs.names ∧ m.2.Skipped) :
    ∃ d, fs.TakesAll (before ++ ms) fs.blank d ∧ fs.complete d = .ok a := by
  obtain ⟨d, htakes, hcomplete⟩ := h.exists_draft hnames
  exact ⟨d, (takesAll_others hbefore _).append htakes, hcomplete⟩

theorem Holds.load (h : fs.Holds ms a) (hnames : fs.names.Nodup)
    (hbefore : ∀ m ∈ before, m.1 ∉ fs.names ∧ m.2.Skipped) (held : Held) (title : String) :
    fs.load held title (.obj (before ++ ms)) = .ok a := by
  obtain ⟨d, htakes, hcomplete⟩ := h.exists_takesAll hnames hbefore
  change (do complete fs (← loadMembers held fs (before ++ ms) (blank fs))) = _
  rw [htakes.load held]
  exact hcomplete

theorem Holds.restores (before : List (String × Json)) (h : fs.Holds ms a)
    (hnames : fs.names.Nodup) (hbefore : ∀ m ∈ before, m.1 ∉ fs.names ∧ m.2.Skipped)
    (title : String) (make : α → β) :
    (Form.record title fs make).Restores (.obj (before ++ ms)) (make a) where
  load held := congrArg (Except.map make) (h.load hnames hbefore held title)
  scan hdepth hlegible gap text rest hgap hwrites _ := by
    obtain ⟨n, rfl, hn⟩ := exists_depth hdepth
    obtain ⟨d, htakes, hcomplete⟩ := h.exists_takesAll hnames hbefore
    have hgathers := htakes.gathers (nestingMembers_le_iff.mp hn) (legible_obj_iff.mp hlegible)
    have hmake := (Yields.lift a ('\x7d' :: rest)).bind (f := fun a => pure (make a))
      (.pure (make a) _)
    rw [← hcomplete] at hmake
    cases hwrites with
    | obj hwrites hrow =>
      rw [List.append_assoc]
      exact (Yields.look_of_blank hgap rfl _).bind (Yields.objectOf ((Yields.fuel _).bind
        ((Yields.members hgathers hwrites hrow rest).bind hmake))).placed

end Record

end Fields

/-! ## A record beside a key -/

namespace Form

variable {α β γ : Type}

/-- Reading these members leads from one split to another. -/
structure Split.Takes (keyName : String) (key : Form α) (ms : List (String × Json))
    (s s' : Split α) : Prop where
  load : ∀ held more, Split.loadMembers keyName key held (ms ++ more) s =
    Split.loadMembers keyName key held more s'
  scan : ∀ {depth : Nat}, (∀ m ∈ ms, m.2.nesting ≤ depth) → (∀ m ∈ ms, m.2.Legible) →
    Gathers (fun name s => Split.scanMember keyName key (depth + 1) name s) ms s s'

namespace Split

variable {keyName : String} {key : Form α} {v : Json} {a : α} {m : String × Json}
  {ms more before after : List (String × Json)} {s s' s'' : Split α}

theorem takes_nil (s : Split α) : Takes keyName key [] s s where
  load _ _ := rfl
  scan _ _ := rfl

theorem Takes.append (h : Takes keyName key ms s s') (hmore : Takes keyName key more s' s'') :
    Takes keyName key (ms ++ more) s s'' where
  load held rest := by rw [List.append_assoc, h.load, hmore.load]
  scan hdepth hlegible :=
    have ⟨hd, hdmore⟩ := List.forall_mem_append.mp hdepth
    have ⟨hl, hlmore⟩ := List.forall_mem_append.mp hlegible
    (h.scan hd hl).append (hmore.scan hdmore hlmore)

theorem takes_other (hname : m.1 ≠ keyName) (s : Split α) :
    Takes keyName key [m] s { s with others := m :: s.others } where
  load _ _ := if_neg hname
  scan hdepth hlegible := by
    have hread := Scan.reads_value (hdepth m (List.mem_singleton_self m))
      (hlegible m (List.mem_singleton_self m))
    refine ⟨_, ?_, rfl⟩
    simp only [Split.scanMember, if_neg hname]
    exact hread.tail (.pure _)

theorem takes_key (h : key.Restores v a) (others : List (String × Json)) :
    Takes keyName key [(keyName, v)] ⟨none, others⟩ ⟨some a, others⟩ where
  load held more := by
    rw [List.singleton_append, Split.loadMembers, if_pos rfl, h.load held]
    rfl
  scan hdepth hlegible := by
    have hread := h.scan (hdepth _ (List.mem_singleton_self _))
      (hlegible _ (List.mem_singleton_self _))
    refine ⟨_, ?_, rfl⟩
    simp only [Split.scanMember, if_pos]
    exact hread.tail (.pure _)

theorem takes_others (h : ∀ m ∈ ms, m.1 ≠ keyName) (s : Split α) :
    Takes keyName key ms s { s with others := ms.reverse ++ s.others } := by
  induction ms generalizing s with
  | nil => exact takes_nil s
  | cons m ms ih =>
    obtain ⟨hm, hms⟩ := List.forall_mem_cons.mp h
    rw [List.reverse_cons, List.append_assoc]
    exact (takes_other hm s).append (ih hms _)

/-- A key among other members. -/
theorem takes_all (h : key.Restores v a) (hbefore : ∀ m ∈ before, m.1 ≠ keyName)
    (hafter : ∀ m ∈ after, m.1 ≠ keyName) :
    Takes keyName key (before ++ (keyName, v) :: after) ⟨none, []⟩
      ⟨some a, (before ++ after).reverse⟩ := by
  have hall := (takes_others hbefore ⟨none, []⟩).append
    ((takes_key h _).append (takes_others hafter _))
  simpa only [List.append_nil, List.singleton_append, List.reverse_append] using hall

theorem Takes.loadMembers_eq (h : Takes keyName key ms s s') (held : Held) :
    Split.loadMembers keyName key held ms s = .ok s' := by
  have hload := h.load held []
  rwa [List.append_nil] at hload

end Split

theorem restores_beside {title keyName : String} {key : Form α} {inner : Form β}
    {make : α → β → γ} {v : Json} {ms : List (String × Json)} {a : α} {b : β}
    (hkey : key.Restores v a) (hinner : inner.load .buffered (.obj ms) = .ok b)
    (hnames : ∀ m ∈ ms, m.1 ≠ keyName) :
    (beside title keyName key inner make).Restores (.obj ((keyName, v) :: ms)) (make a b) := by
  have hfinish : Split.finish keyName inner ⟨some a, ms.reverse⟩ = .ok (a, b) := by
    simp only [Split.finish, List.reverse_reverse, hinner]
    rfl
  have htakes : Split.Takes keyName key ((keyName, v) :: ms) ⟨none, []⟩ ⟨some a, ms.reverse⟩ :=
    Split.takes_all hkey (List.forall_mem_nil _) hnames
  refine ⟨fun held => ?_, fun hdepth hlegible gap text rest hgap hwrites _ => ?_⟩
  · change (do
      let s ← Split.loadMembers keyName key held ((keyName, v) :: ms) ⟨none, []⟩
      let p ← s.finish keyName inner
      return make p.1 p.2) = _
    rw [htakes.loadMembers_eq held]
    change (do
      let p ← Split.finish keyName inner ⟨some a, ms.reverse⟩
      return make p.1 p.2) = _
    rw [hfinish]
    rfl
  · obtain ⟨d, rfl, hd⟩ := exists_depth hdepth
    have hgathers := htakes.scan (nestingMembers_le_iff.mp hd) (legible_obj_iff.mp hlegible)
    have hmake := (Yields.lift (a, b) ('\x7d' :: rest)).bind (f := fun p => pure (make p.1 p.2))
      (.pure (make a b) _)
    rw [← hfinish] at hmake
    cases hwrites with
    | obj hwrites hrow =>
      rw [List.append_assoc]
      exact (Yields.look_of_blank hgap rfl _).bind (Yields.objectOf ((Yields.fuel _).bind
        ((Yields.members hgathers hwrites hrow rest).bind hmake))).placed

/-! ## Tagged alternatives -/

/-- The tag as a form of its own. -/
def tagForm (table : List (String × α)) : Form α where
  scan _ := scanChoice table
  load := loadTag table
  absent := none

theorem loadTagged_eq (table : List (String × α)) (held : Held) (ms : List (String × Json))
    (s : Split α) :
    loadTagged table held ms s = Split.loadMembers tagName (tagForm table) held ms s := by
  induction ms generalizing s with
  | nil => rfl
  | cons m ms ih =>
    obtain ⟨name, v⟩ := m
    simp only [loadTagged, Split.loadMembers, ih]
    rfl

theorem reads_scanChoice {table : List (String × α)} {name : String} {a : α}
    (h : findMember name table = some a) : Reads (scanChoice table) (.str name) a := by
  intro gap text rest hgap hwrites _
  cases hwrites
  have hchoose : choose table name = .ok a := by rw [choose, h]
  have hlift := (Yields.lift a rest).placed
  rw [← hchoose] at hlift
  rw [stringText_append]
  exact Yields.bind ((Yields.look_of_blank hgap rfl _).bind
    ((Yields.take '"' _).bind (.string name rest))) hlift

theorem restores_tagForm {table : List (String × α)} {name : String} {a : α}
    (h : findMember name table = some a) : (tagForm table).Restores (.str name) a where
  load _ := by
    change choose table name = _
    rw [choose, h]
  scan _ _ := reads_scanChoice h

theorem restores_choice {table : List (String × α)} {name : String} {a : α}
    (h : findMember name table = some a) : (choice table).Restores (.str name) a where
  load _ := by
    change choose table name = _
    rw [choose, h]
  scan _ _ gap text rest hgap hwrites hrest := by
    have hread := reads_scanChoice h [] text rest blank_nil hwrites hrest
    cases hwrites
    exact (Yields.look_of_blank hgap rfl _).bind hread

/-- What goes with each tag. -/
def tagTable (name : String) (variants : List (String × String × Variant β)) :
    List (String × (Json → Except Cause β)) :=
  variants.map fun v => (v.1, v.2.2 ("struct variant " ++ name ++ "::" ++ v.2.1))

theorem restores_tagged {name tag : String} {variants : List (String × String × Variant β)}
    {make : Json → Except Cause β} (before after : List (String × Json)) {b : β}
    (htag : findMember tag (tagTable name variants) = some make)
    (hmake : make (.obj (before ++ after)) = .ok b) (hbefore : ∀ m ∈ before, m.1 ≠ tagName)
    (hafter : ∀ m ∈ after, m.1 ≠ tagName) :
    (tagged name variants).Restores (.obj (before ++ (tagName, .str tag) :: after)) b := by
  have htakes := Split.takes_all (restores_tagForm htag) hbefore hafter
  have htaken : Split.tag ⟨some make, (before ++ after).reverse⟩ =
      .ok (make, .obj (before ++ after)) := by
    rw [Split.tag, List.reverse_reverse]
  refine ⟨fun held => ?_, fun hdepth hlegible gap text rest hgap hwrites _ => ?_⟩
  · have hload := htakes.loadMembers_eq held
    rw [← loadTagged_eq] at hload
    change (do
      let p ← (← loadTagged (tagTable name variants) held
        (before ++ (tagName, Json.str tag) :: after) ⟨none, []⟩).tag
      p.1 p.2) = _
    rw [hload]
    change (do
      let p ← Split.tag ⟨some make, (before ++ after).reverse⟩
      p.1 p.2) = _
    rw [htaken]
    exact hmake
  · obtain ⟨d, rfl, hd⟩ := exists_depth hdepth
    have hgathers := htakes.scan (nestingMembers_le_iff.mp hd) (legible_obj_iff.mp hlegible)
    have hlift := Yields.lift (make, Json.obj (before ++ after)) ('\x7d' :: rest)
    rw [← htaken] at hlift
    have hfinal := Yields.lift b rest
    rw [← hmake] at hfinal
    cases hwrites with
    | obj hwrites hrow =>
      rw [List.append_assoc]
      exact Yields.bind ((Yields.look_of_blank hgap rfl _).bind (Yields.objectOf
        ((Yields.fuel _).bind ((Yields.members hgathers hwrites hrow rest).bind hlift)))).placed
        hfinal

end Form

end RuleBench.Json
