import RuleBench.Proofs.Json.Doubles
import RuleBench.Proofs.Json.Strings

set_option autoImplicit false

/-!
# Layouts

A text writes a value when it consists of the parts of the value in their order, with blanks between
them or without.  The compact text of a value writes it, and so does the pretty one.
-/

namespace RuleBench.Json

/-- Induction where all items of a list and all members of an object may be assumed. -/
@[elab_as_elim]
theorem induct {motive : Json → Prop} (null : motive .null) (bool : ∀ b, motive (.bool b))
    (num : ∀ n, motive (.num n)) (str : ∀ s, motive (.str s))
    (arr : ∀ items, (∀ v ∈ items, motive v) → motive (.arr items))
    (obj : ∀ members, (∀ m ∈ members, motive m.2) → motive (.obj members))
    (v : Json) : motive v :=
  @Json.rec motive (fun items => ∀ v ∈ items, motive v) (fun members => ∀ m ∈ members, motive m.2)
    (fun m => motive m.2) null bool num str arr obj (List.forall_mem_nil _)
    (fun _ _ hv hrest => List.forall_mem_cons.mpr ⟨hv, hrest⟩) (List.forall_mem_nil _)
    (fun _ _ hm hrest => List.forall_mem_cons.mpr ⟨hm, hrest⟩) (fun _ _ hv => hv) v

/-! ## Rows -/

/-- What stands behind an item or a member: further ones, each behind a comma. -/
inductive Behind : List (List Char) → List Char → Prop where
  | none {gap : List Char} (h : Blank gap) : Behind [] gap
  | more {before gap text row : List Char} {texts : List (List Char)} (hbefore : Blank before)
      (hgap : Blank gap) (h : Behind texts row) :
      Behind (text :: texts) (before ++ ',' :: (gap ++ (text ++ row)))

/-- Items or members, with commas between them. -/
inductive Row : List (List Char) → List Char → Prop where
  | empty {gap : List Char} (h : Blank gap) : Row [] gap
  | first {gap text row : List Char} {texts : List (List Char)} (hgap : Blank gap)
      (h : Behind texts row) : Row (text :: texts) (gap ++ (text ++ row))

theorem behind_flatMap {gap close : List Char} (hgap : Blank gap) (hclose : Blank close)
    (texts : List (List Char)) :
    Behind texts ((texts.flatMap fun text => ',' :: (gap ++ text)) ++ close) := by
  induction texts with
  | nil => exact .none hclose
  | cons text texts ih =>
    rw [List.flatMap_cons, List.append_assoc, List.cons_append, List.append_assoc]
    exact .more blank_nil hgap ih

theorem Behind.length_le {texts : List (List Char)} {row : List Char} (h : Behind texts row) :
    texts.length ≤ row.length := by
  induction h with
  | none => exact Nat.zero_le _
  | more _ _ _ ih =>
    simp only [List.length_cons, List.length_append]
    omega

/-- Behind an item or a member a value may end. -/
theorem Behind.stops {texts : List (List Char)} {row : List Char} (h : Behind texts row) {c : Char}
    (hc : EndsValue c) (rest : List Char) : Stops (row ++ c :: rest) := by
  have hblank {gap text : List Char} (hgap : Blank gap) (htext : Stops text) :
      Stops (gap ++ text) := by
    cases gap with
    | nil => exact htext
    | cons b gap => exact endsValue_of_isSpace (hgap b List.mem_cons_self)
  cases h with
  | none h => exact hblank h hc
  | more hbefore _ _ =>
    rw [List.append_assoc]
    exact hblank hbefore EndsValue.comma

/-! ## Texts that write a value -/

mutual

/-- The text writes the value. -/
inductive Writes : Json → List Char → Prop where
  | null : Writes .null ['n', 'u', 'l', 'l']
  | bool (b : Bool) : Writes (.bool b) (compactText (.bool b))
  | num (n : Number) : Writes (.num n) n.text
  | str (s : String) : Writes (.str s) (stringText s)
  | arr {items : List Json} {texts : List (List Char)} {row : List Char}
      (h : WritesItems items texts) (hrow : Row texts row) :
      Writes (.arr items) ('[' :: row ++ [']'])
  | obj {members : List (String × Json)} {texts : List (List Char)} {row : List Char}
      (h : WritesMembers members texts) (hrow : Row texts row) :
      Writes (.obj members) ('\x7b' :: row ++ ['\x7d'])

inductive WritesItems : List Json → List (List Char) → Prop where
  | nil : WritesItems [] []
  | cons {v : Json} {text : List Char} {items : List Json} {texts : List (List Char)}
      (h : Writes v text) (hitems : WritesItems items texts) :
      WritesItems (v :: items) (text :: texts)

inductive WritesMembers : List (String × Json) → List (List Char) → Prop where
  | nil : WritesMembers [] []
  | cons {name : String} {v : Json} {tail : List Char} {members : List (String × Json)}
      {texts : List (List Char)} (h : WritesTail v tail) (hmembers : WritesMembers members texts) :
      WritesMembers ((name, v) :: members) ((stringText name ++ tail) :: texts)

/-- The text writes what stands behind the name of a member: a colon and the value. -/
inductive WritesTail : Json → List Char → Prop where
  | colon {v : Json} {before gap text : List Char} (hbefore : Blank before) (hgap : Blank gap)
      (h : Writes v text) : WritesTail v (before ++ ':' :: (gap ++ text))

end

theorem writesItems_map {f : Json → List Char} {items : List Json}
    (h : ∀ v ∈ items, Writes v (f v)) : WritesItems items (items.map f) := by
  induction items with
  | nil => exact .nil
  | cons v items ih =>
    obtain ⟨hv, hitems⟩ := List.forall_mem_cons.mp h
    exact .cons hv (ih hitems)

/-- The text of a member, with blanks behind the colon. -/
def memberText (gap : List Char) (f : Json → List Char) (m : String × Json) : List Char :=
  stringText m.1 ++ ':' :: (gap ++ f m.2)

theorem writesMembers_map {gap : List Char} (hgap : Blank gap) {f : Json → List Char}
    {members : List (String × Json)} (h : ∀ m ∈ members, Writes m.2 (f m.2)) :
    WritesMembers members (members.map (memberText gap f)) := by
  induction members with
  | nil => exact .nil
  | cons m members ih =>
    obtain ⟨hm, hmembers⟩ := List.forall_mem_cons.mp h
    exact .cons (.colon blank_nil hgap hm) (ih hmembers)

/-! ### Compact and pretty texts -/

theorem compactItems_cons (v : Json) (rest : List Json) :
    compactItems (v :: rest) =
      compactText v ++ (rest.map compactText).flatMap fun text => ',' :: text := by
  induction rest generalizing v with
  | nil => simp [compactItems]
  | cons w rest ih => simp [compactItems, ih]

theorem compactMembers_cons (m : String × Json) (rest : List (String × Json)) :
    compactMembers (m :: rest) = memberText [] compactText m ++
      (rest.map (memberText [] compactText)).flatMap fun text => ',' :: text := by
  induction rest generalizing m with
  | nil => simp [compactMembers, memberText]
  | cons w rest ih => simp [compactMembers, memberText, ih]

theorem writes_compactText (v : Json) : Writes v v.compactText := by
  induction v using Json.induct with
  | null => exact .null
  | bool b => exact .bool b
  | num n => exact .num n
  | str s => exact .str s
  | arr items ih =>
    refine .arr (writesItems_map ih) ?_
    cases items with
    | nil => exact .empty blank_nil
    | cons v rest =>
      have hrow := behind_flatMap blank_nil blank_nil (rest.map compactText)
      rw [List.append_nil] at hrow
      rw [compactItems_cons]
      exact .first blank_nil hrow
  | obj members ih =>
    refine .obj (writesMembers_map blank_nil ih) ?_
    cases members with
    | nil => exact .empty blank_nil
    | cons m rest =>
      have hrow := behind_flatMap blank_nil blank_nil (rest.map (memberText [] compactText))
      rw [List.append_nil] at hrow
      rw [compactMembers_cons]
      exact .first blank_nil hrow

theorem blank_newLine (depth : Nat) : Blank (newLine depth) :=
  List.forall_mem_cons.mpr ⟨rfl, fun _ hc => List.eq_of_mem_replicate hc ▸ rfl⟩

theorem prettyItems_cons (depth : Nat) (v : Json) (rest : List Json) :
    prettyItems depth (v :: rest) = newLine depth ++ (prettyText depth v ++
      (rest.map (prettyText depth)).flatMap fun text => ',' :: (newLine depth ++ text)) := by
  induction rest generalizing v with
  | nil => simp [prettyItems]
  | cons w rest ih => simp [prettyItems, ih]

theorem prettyMembers_cons (depth : Nat) (m : String × Json) (rest : List (String × Json)) :
    prettyMembers depth (m :: rest) =
      newLine depth ++ (memberText [' '] (prettyText depth) m ++
        (rest.map (memberText [' '] (prettyText depth))).flatMap fun text =>
          ',' :: (newLine depth ++ text)) := by
  induction rest generalizing m with
  | nil => simp [prettyMembers, memberText]
  | cons w rest ih => simp [prettyMembers, memberText, ih]

theorem writes_prettyText (v : Json) (depth : Nat) : Writes v (v.prettyText depth) := by
  induction v using Json.induct generalizing depth with
  | null => exact .null
  | bool b => cases b <;> exact .bool _
  | num n => exact .num n
  | str s => exact .str s
  | arr items ih =>
    cases items with
    | nil => exact .arr .nil (.empty blank_nil)
    | cons v rest =>
      have hgap := blank_newLine (depth + 1)
      have hrow := behind_flatMap hgap (blank_newLine depth) (rest.map (prettyText (depth + 1)))
      have hitems := writesItems_map fun w hw => ih w hw (depth + 1)
      have hwrites := Writes.arr hitems (.first hgap hrow)
      simpa only [prettyText, prettyItems_cons, List.cons_append, List.append_assoc] using hwrites
  | obj members ih =>
    cases members with
    | nil => exact .obj .nil (.empty blank_nil)
    | cons m rest =>
      have hgap := blank_newLine (depth + 1)
      have hrow := behind_flatMap hgap (blank_newLine depth)
        (rest.map (memberText [' '] (prettyText (depth + 1))))
      have hblank : Blank [' '] := List.forall_mem_singleton.mpr rfl
      have hmembers := writesMembers_map hblank fun w hw => ih w hw (depth + 1)
      have hwrites := Writes.obj hmembers (.first hgap hrow)
      simpa only [prettyText, prettyMembers_cons, List.cons_append, List.append_assoc] using
        hwrites

/-! ### How they start -/

/-- The text starts as a value may. -/
def Opens : List Char → Prop
  | [] => False
  | c :: _ => Cursor.isSpace c = false ∧ c ≠ ']'

theorem opens_number (n : Number) (rest : List Char) : Opens (n.text ++ rest) := by
  obtain ⟨negative, figures, hfigures, htext⟩ := exists_figures n
  rw [htext]
  match negative, figures, hfigures with
  | true, _, _ => exact ⟨rfl, by decide⟩
  | false, d :: more, h =>
    refine ⟨isSpace_of_asciiDigit h.1, ?_⟩
    rintro rfl
    exact absurd h.1 (by decide)

theorem Writes.opens {v : Json} {text : List Char} (h : Writes v text) (rest : List Char) :
    Opens (text ++ rest) := by
  cases h with
  | null => exact ⟨rfl, by decide⟩
  | bool b => cases b <;> exact ⟨rfl, by decide⟩
  | num n => exact opens_number n rest
  | str s => exact ⟨rfl, by decide⟩
  | arr _ _ => exact ⟨rfl, by decide⟩
  | obj _ _ => exact ⟨rfl, by decide⟩

end RuleBench.Json
