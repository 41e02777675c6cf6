import Mathlib.Data.List.Nodup
import Mathlib.Data.Set.Function
import Mathlib.Data.String.Basic
import RuleBench.Json.Basic

set_option autoImplicit false

/-!
# Maps from names

A map from names is the list of its entries, ascending by name.  Such lists are equal when they have
the same entry under each name.
-/

namespace RuleBench.Json

variable {α : Type}

def Ascending (members : List (String × α)) : Prop :=
  members.Pairwise fun a b => a.1 < b.1

def putAll (members entries : List (String × α)) : List (String × α) :=
  entries.foldl (fun sorted m => putMember m.1 m.2 sorted) members

theorem putAll_append (members entries more : List (String × α)) :
    putAll members (entries ++ more) = putAll (putAll members entries) more :=
  List.foldl_append

theorem findMember_putMember (name other : String) (value : α) (members : List (String × α)) :
    findMember other (putMember name value members) =
      if name = other then some value else findMember other members := by
  induction members with
  | nil => rfl
  | cons m rest ih =>
    obtain ⟨n, v⟩ := m
    by_cases hlt : name < n
    · simp only [putMember, if_pos hlt, findMember]
    · by_cases heq : name = n
      · subst heq
        by_cases ho : name = other <;> simp [putMember, findMember, ho]
      · simp only [putMember, if_neg hlt, if_neg heq, findMember, ih]
        by_cases hn : n = other
        · have hne : name ≠ other := fun h => heq (h.trans hn.symm)
          simp only [if_pos hn, if_neg hne]
        · simp only [if_neg hn]

/-- Of entries under one name, the one that is put last stays. -/
theorem findMember_putAll_eq_getLast? (members entries : List (String × α)) (name : String) :
    findMember name (putAll members entries) =
      ((entries.filter fun e => e.1 = name).getLast?.map Prod.snd).or (findMember name members) := by
  induction entries generalizing members with
  | nil => rfl
  | cons e entries ih =>
    refine (ih (putMember e.1 e.2 members)).trans ?_
    rw [findMember_putMember]
    by_cases he : e.1 = name
    · simp only [he, if_true, decide_true, List.filter_cons_of_pos, List.getLast?_cons]
      cases (entries.filter fun e => e.1 = name).getLast? <;> rfl
    · simp only [he, if_false, decide_false, Bool.false_eq_true, not_false_eq_true,
        List.filter_cons_of_neg]

theorem mem_putMember {name : String} {value : α} {members : List (String × α)}
    {e : String × α} (h : e ∈ putMember name value members) : e = (name, value) ∨ e ∈ members := by
  induction members with
  | nil => exact .inl (List.mem_singleton.mp h)
  | cons m rest ih =>
    obtain ⟨n, v⟩ := m
    simp only [putMember] at h
    split at h
    · exact List.mem_cons.mp h
    · split at h
      · exact (List.mem_cons.mp h).imp_right (List.mem_cons_of_mem _)
      · rcases List.mem_cons.mp h with h | h
        · exact .inr (h ▸ List.mem_cons_self)
        · exact (ih h).imp_right (List.mem_cons_of_mem _)

theorem Ascending.putMember {members : List (String × α)} (h : Ascending members) (name : String)
    (value : α) : Ascending (putMember name value members) := by
  induction members with
  | nil => exact List.pairwise_singleton _ _
  | cons m rest ih =>
    obtain ⟨n, v⟩ := m
    have hrest := List.pairwise_cons.mp h
    simp only [Json.putMember]
    split
    · rename_i hlt
      refine List.pairwise_cons.mpr ⟨?_, h⟩
      intro e he
      rcases List.mem_cons.mp he with rfl | he
      · exact hlt
      · exact hlt.trans (hrest.1 e he)
    · rename_i hlt
      split
      · rename_i heq
        subst heq
        exact List.pairwise_cons.mpr hrest
      · rename_i hne
        refine List.pairwise_cons.mpr ⟨?_, ih hrest.2⟩
        intro e he
        rcases mem_putMember he with rfl | he
        · exact lt_of_le_of_ne (not_lt.mp hlt) (Ne.symm hne)
        · exact hrest.1 e he

theorem Ascending.putAll {members : List (String × α)} (h : Ascending members)
    (entries : List (String × α)) : Ascending (putAll members entries) := by
  induction entries generalizing members with
  | nil => exact h
  | cons e entries ih => exact ih (h.putMember e.1 e.2)

theorem ascending_sortMembers (entries : List (String × α)) : Ascending (sortMembers entries) :=
  Ascending.putAll List.Pairwise.nil entries

theorem Ascending.nodup {members : List (String × α)} (h : Ascending members) :
    (members.map Prod.fst).Nodup :=
  List.pairwise_map.mpr (h.imp fun hlt => hlt.ne)

theorem findMember_eq_some_iff {members : List (String × α)} (h : (members.map Prod.fst).Nodup)
    {name : String} {value : α} :
    findMember name members = some value ↔ (name, value) ∈ members := by
  induction members with
  | nil => simp [findMember]
  | cons m rest ih =>
    obtain ⟨n, v⟩ := m
    obtain ⟨hn, hrest⟩ := List.nodup_cons.mp h
    by_cases heq : n = name
    · subst heq
      have hno : (n, value) ∉ rest := fun hm =>
        hn (List.mem_map.mpr ⟨_, hm, rfl⟩)
      simp [findMember, hno, eq_comm]
    · have hne : (name, value) ≠ (n, v) := fun hh => heq (congrArg Prod.fst hh).symm
      simp [findMember, heq, ih hrest, Ne.symm heq]

theorem exists_findMember_iff {name : String} {members : List (String × α)} :
    (∃ value, findMember name members = some value) ↔ name ∈ members.map Prod.fst := by
  induction members with
  | nil => simp [findMember]
  | cons m rest ih =>
    obtain ⟨n, v⟩ := m
    by_cases heq : n = name
    · simp [findMember, heq]
    · simp [findMember, heq, ih, Ne.symm heq]

theorem mem_names_putMember (name other : String) (value : α) (members : List (String × α)) :
    other ∈ (putMember name value members).map Prod.fst ↔
      other = name ∨ other ∈ members.map Prod.fst := by
  simp only [← exists_findMember_iff, findMember_putMember]
  by_cases heq : name = other
  · simp [heq]
  · simp [heq, Ne.symm heq]

theorem mem_names_putAll (name : String) (members entries : List (String × α)) :
    name ∈ (putAll members entries).map Prod.fst ↔
      name ∈ members.map Prod.fst ∨ name ∈ entries.map Prod.fst := by
  induction entries generalizing members with
  | nil => simp [putAll]
  | cons e entries ih =>
    refine (ih (putMember e.1 e.2 members)).trans ?_
    rw [mem_names_putMember, List.map_cons, List.mem_cons, or_assoc, or_left_comm]

theorem findMember_append (name : String) (members more : List (String × α)) :
    findMember name (members ++ more) = (findMember name members).or (findMember name more) := by
  induction members with
  | nil => rfl
  | cons m rest ih =>
    simp only [List.cons_append, findMember, ih]
    split <;> rfl

theorem findMember_append_cons_of_ne {name other : String} (h : name ≠ other)
    (members : List (String × α)) (value : α) (more : List (String × α)) :
    findMember name (members ++ (other, value) :: more) = findMember name (members ++ more) := by
  simp only [findMember_append, findMember, if_neg h.symm]

theorem findMember_putAll (members : List (String × α)) {entries : List (String × α)}
    (h : (entries.map Prod.fst).Nodup) (name : String) :
    findMember name (putAll members entries) =
      (findMember name entries).or (findMember name members) := by
  induction entries generalizing members with
  | nil => rfl
  | cons e entries ih =>
    obtain ⟨n, v⟩ := e
    obtain ⟨hn, hrest⟩ := List.nodup_cons.mp h
    have hput := ih (putMember n v members) hrest
    rw [findMember_putMember] at hput
    refine hput.trans ?_
    by_cases heq : n = name
    · subst heq
      have hnone : findMember n entries = none := by
        refine Option.eq_none_iff_forall_ne_some.mpr fun value hv => hn ?_
        exact List.mem_map.mpr ⟨_, (findMember_eq_some_iff hrest).mp hv, rfl⟩
      simp [findMember, hnone]
    · simp [findMember, heq]

theorem perm_of_findMember {l r : List (String × α)} (hl : (l.map Prod.fst).Nodup)
    (hr : (r.map Prod.fst).Nodup) (h : ∀ name, findMember name l = findMember name r) :
    l.Perm r := by
  refine (List.perm_ext_iff_of_nodup (hl.of_map Prod.fst) (hr.of_map Prod.fst)).mpr fun e => ?_
  rw [← findMember_eq_some_iff hl, ← findMember_eq_some_iff hr, h]

/-- Two maps with the same entry under each name are equal. -/
theorem Ascending.ext {l r : List (String × α)} (hl : Ascending l) (hr : Ascending r)
    (h : ∀ name, findMember name l = findMember name r) : l = r := by
  refine List.Perm.eq_of_pairwise ?_ hl hr (perm_of_findMember hl.nodup hr.nodup h)
  intro a b _ _ hab hba
  exact absurd hab hba.not_gt

/-- Entries under two names may be put in either order. -/
theorem Ascending.putMember_comm {members : List (String × α)} (h : Ascending members)
    {name other : String} (hne : name ≠ other) (value value' : α) :
    Json.putMember other value' (Json.putMember name value members) =
      Json.putMember name value (Json.putMember other value' members) := by
  refine ((h.putMember name value).putMember other value').ext
    ((h.putMember other value').putMember name value) fun found => ?_
  simp only [findMember_putMember]
  by_cases hother : other = found
  · have hname : name ≠ found := fun heq => hne (heq.trans hother.symm)
    simp only [if_pos hother, if_neg hname]
  · simp only [if_neg hother]

theorem findMember_sortMembers {entries : List (String × α)} (h : (entries.map Prod.fst).Nodup)
    (name : String) : findMember name (sortMembers entries) = findMember name entries := by
  have hput := findMember_putAll [] h name
  rwa [show findMember name ([] : List (String × α)) = none from rfl, Option.or_none] at hput

theorem sortMembers_eq_self {members : List (String × α)} (h : Ascending members) :
    sortMembers members = members :=
  (ascending_sortMembers members).ext h (findMember_sortMembers h.nodup)

/-- The order in which entries under different names are put does not matter. -/
theorem sortMembers_eq_of_perm {entries others : List (String × α)}
    (h : (entries.map Prod.fst).Nodup) (hp : entries.Perm others) :
    sortMembers entries = sortMembers others := by
  have h' : (others.map Prod.fst).Nodup := (hp.map Prod.fst).nodup_iff.mp h
  refine (ascending_sortMembers _).ext (ascending_sortMembers _) fun name => ?_
  rw [findMember_sortMembers h, findMember_sortMembers h']
  refine Option.ext fun value => ?_
  rw [findMember_eq_some_iff h, findMember_eq_some_iff h', hp.mem_iff]

theorem perm_sortMembers {entries : List (String × α)} (h : (entries.map Prod.fst).Nodup) :
    (sortMembers entries).Perm entries :=
  perm_of_findMember (ascending_sortMembers entries).nodup h (findMember_sortMembers h)

/-! ## Other values, other names -/

section Values

variable {β : Type} (f : α → β)

theorem findMember_map (name : String) (members : List (String × α)) :
    findMember name (members.map fun e => (e.1, f e.2)) = (findMember name members).map f := by
  induction members with
  | nil => rfl
  | cons m rest ih =>
    simp only [List.map_cons, findMember, ih]
    split <;> rfl

theorem map_putMember (name : String) (value : α) (members : List (String × α)) :
    (putMember name value members).map (fun e => (e.1, f e.2)) =
      putMember name (f value) (members.map fun e => (e.1, f e.2)) := by
  induction members with
  | nil => rfl
  | cons m rest ih =>
    simp only [List.map_cons, putMember]
    split
    · rfl
    · split
      · rfl
      · rw [List.map_cons, ih]

end Values

/-- A map with names out of a list. -/
structure Under (names : List String) (members : List (String × α)) : Prop where
  ascending : Ascending members
  mem : ∀ e ∈ members, e.1 ∈ names

def renameKeys (ρ : String → String) (members : List (String × α)) : List (String × α) :=
  sortMembers (members.map fun e => (ρ e.1, e.2))

theorem ascending_renameKeys (ρ : String → String) (members : List (String × α)) :
    Ascending (renameKeys ρ members) :=
  ascending_sortMembers _

namespace Under

variable {ρ : String → String} {names : List String} {members : List (String × α)} {name : String}

theorem nil (names : List String) : Under names ([] : List (String × α)) := ⟨.nil, nofun⟩

theorem putMember (h : Under names members) (hname : name ∈ names) (value : α) :
    Under names (Json.putMember name value members) where
  ascending := h.ascending.putMember name value
  mem e he := (mem_putMember he).elim (fun heq => heq ▸ hname) (h.mem e)

theorem nodup_renamed (apart : Set.InjOn ρ {n | n ∈ names}) (h : Under names members) :
    ((members.map fun e => (ρ e.1, e.2)).map Prod.fst).Nodup := by
  rw [List.map_map, show (Prod.fst ∘ fun e : String × α => (ρ e.1, e.2)) = ρ ∘ Prod.fst from rfl,
    ← List.map_map]
  refine h.ascending.nodup.map_on fun a ha b hb hab => apart ?_ ?_ hab
  · obtain ⟨e, he, rfl⟩ := List.mem_map.mp ha
    exact h.mem e he
  · obtain ⟨e, he, rfl⟩ := List.mem_map.mp hb
    exact h.mem e he

theorem length_renameKeys (apart : Set.InjOn ρ {n | n ∈ names}) (h : Under names members) :
    (renameKeys ρ members).length = members.length := by
  rw [renameKeys, (perm_sortMembers (h.nodup_renamed apart)).length_eq, List.length_map]

theorem findMember_renameKeys (apart : Set.InjOn ρ {n | n ∈ names}) (h : Under names members)
    (hname : name ∈ names) :
    findMember (ρ name) (renameKeys ρ members) = findMember name members := by
  rw [renameKeys, findMember_sortMembers (h.nodup_renamed apart)]
  refine Option.ext fun value => ?_
  rw [findMember_eq_some_iff (h.nodup_renamed apart), findMember_eq_some_iff h.ascending.nodup,
    List.mem_map]
  constructor
  · rintro ⟨e, he, heq⟩
    obtain ⟨hρ, rfl⟩ := Prod.mk.inj heq
    rwa [← apart (h.mem e he) hname hρ]
  · exact fun hm => ⟨_, hm, rfl⟩

theorem findMember_renameKeys_eq_none (apart : Set.InjOn ρ {n | n ∈ names})
    (h : Under names members) (hname : ∀ n ∈ names, ρ n ≠ name) :
    findMember name (renameKeys ρ members) = none := by
  refine Option.eq_none_iff_forall_ne_some.mpr fun value hfound => ?_
  rw [renameKeys, findMember_sortMembers (h.nodup_renamed apart),
    findMember_eq_some_iff (h.nodup_renamed apart), List.mem_map] at hfound
  obtain ⟨e, he, heq⟩ := hfound
  exact hname e.1 (h.mem e he) (Prod.mk.inj heq).1

theorem renameKeys_putMember (apart : Set.InjOn ρ {n | n ∈ names}) (h : Under names members)
    (hname : name ∈ names) (value : α) :
    renameKeys ρ (Json.putMember name value members) =
      Json.putMember (ρ name) value (renameKeys ρ members) := by
  have hput := h.putMember hname value
  refine (ascending_renameKeys ρ _).ext ((ascending_renameKeys ρ _).putMember _ _) fun other => ?_
  rw [findMember_putMember]
  -- A name that none of the old ones becomes has no entry on either side.
  by_cases hother : ∃ n ∈ names, ρ n = other
  · obtain ⟨n, hn, rfl⟩ := hother
    rw [hput.findMember_renameKeys apart hn, h.findMember_renameKeys apart hn, findMember_putMember]
    simp only [apart.eq_iff hname hn]
  · have hother : ∀ n ∈ names, ρ n ≠ other := fun n hn heq => hother ⟨n, hn, heq⟩
    rw [hput.findMember_renameKeys_eq_none apart hother,
      h.findMember_renameKeys_eq_none apart hother, if_neg (hother name hname)]

end Under

end RuleBench.Json
