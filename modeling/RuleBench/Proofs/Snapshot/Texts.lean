import RuleBench.Proofs.Round.Wire

set_option autoImplicit false

/-!
# Snapshots in files

A snapshot is read back from every text that writes it, so also from the pretty text in which it is
kept, and the same goes for the form for sharing.  The form for sharing can be read out of the full
one: the ids are passed over.
-/

namespace RuleBench

open Json (Fields Writes writes_prettyText)
open Json.Form (restores_text restores_list)

namespace SharedSnapshot

theorem restores (s : SharedSnapshot) : form.Restores s.toJson s := by
  refine Fields.Holds.restores [] (a := (s.data, s.previousData, s.rules, ())) ?_ (by decide)
    (List.forall_mem_nil _) _ _
  exact .field (restores_text _) (.field (restores_text _)
    (.field (restores_listOf fun r _ => Rule.restores labels_nil r) .done))

theorem shallow (s : SharedSnapshot) : s.toJson.Shallow 3 := by
  have hrule (r : Rule) : r.toJson.Shallow 1 := .obj (by simp [Rule.members, Json.Shallow.str])
  have hrules : (Json.arr (s.rules.map Rule.toJson)).Shallow 2 :=
    .arr (List.forall_mem_map.mpr fun r _ => hrule r)
  exact .obj (by simp [Json.Shallow.str, hrules])

theorem read_of_writes (s : SharedSnapshot) {text : List Char} (h : Writes s.toJson text) :
    form.read (String.ofList text) = .ok s :=
  s.restores.read_of_writes (s.shallow.1.trans_lt (by decide)) s.shallow.2 h

theorem read_pretty (s : SharedSnapshot) : form.read s.toJson.pretty = .ok s :=
  s.read_of_writes (writes_prettyText s.toJson 0)

end SharedSnapshot

namespace Snapshot

theorem restores (s : Snapshot) : form.Restores s.toJson s := by
  refine Fields.Holds.restores [] (a := (s.data, s.previousData, s.rules, ())) ?_ (by decide)
    (List.forall_mem_nil _) _ _
  exact .field (restores_text _) (.field (restores_text _)
    (.field (restores_listOf fun r _ => r.restores) .done))

/-- Read in the form for sharing, a snapshot loses its ids. -/
theorem restores_toShared (s : Snapshot) : SharedSnapshot.form.Restores s.toJson s.toShared := by
  have hrule (r : ListedRule) : Rule.form.Restores r.toJson r.toRule :=
    Rule.restores (labels_id (Json.skipped_str r.id)) r.toRule
  have hrules : (Json.Form.list Rule.form).Restores (.arr (s.rules.map ListedRule.toJson))
      (s.rules.map ListedRule.toRule) :=
    restores_list (List.forall₂_map_left_iff.mpr (List.forall₂_map_right_iff.mpr
      (List.forall₂_same.mpr fun r _ => hrule r)))
  refine Fields.Holds.restores []
    (a := (s.data, s.previousData, s.rules.map ListedRule.toRule, ())) ?_ (by decide)
    (List.forall_mem_nil _) _ _
  exact .field (restores_text _) (.field (restores_text _) (.field hrules .done))

theorem shallow (s : Snapshot) : s.toJson.Shallow 3 := by
  have hrules : (Json.arr (s.rules.map ListedRule.toJson)).Shallow 2 :=
    .arr (List.forall_mem_map.mpr fun r _ => r.shallow)
  exact .obj (by simp [Json.Shallow.str, hrules])

theorem ofText_of_read {text : String} {s : Snapshot} (h : form.read text = .ok s) :
    ofText text = .ok s := by
  rw [ofText, h]
  rfl

theorem ofText_of_writes (s : Snapshot) {text : List Char} (h : Writes s.toJson text) :
    ofText (String.ofList text) = .ok s :=
  ofText_of_read (s.restores.read_of_writes (s.shallow.1.trans_lt (by decide)) s.shallow.2 h)

theorem ofText_toText (s : Snapshot) : ofText s.toText = .ok s :=
  s.ofText_of_writes (writes_prettyText s.toJson 0)

theorem ofSharedText_toSharedText (fresh : Nat → String) (s : Snapshot) :
    ofSharedText fresh s.toSharedText = .ok (ofShared fresh s.toShared) := by
  rw [ofSharedText, toSharedText, s.toShared.read_pretty]
  rfl

theorem ofSharedText_toText (fresh : Nat → String) (s : Snapshot) :
    ofSharedText fresh s.toText = .ok (ofShared fresh s.toShared) := by
  have hread := s.restores_toShared.read_of_writes (s.shallow.1.trans_lt (by decide)) s.shallow.2
    (writes_prettyText s.toJson 0)
  rw [ofSharedText, toText, Json.pretty, hread]
  rfl

/-- Every snapshot is read back from its text, in full and in the form for sharing; so a text that
is read at all comes to rest when it is written and read once more. -/
theorem texts_read_back :
    (∀ s : Snapshot, ofText s.toText = .ok s) ∧
    (∀ (text : String) (s : Snapshot), ofText text = .ok s →
      ∃ s', ofText s.toText = .ok s' ∧ s'.toText = s.toText) ∧
    (∀ s : SharedSnapshot, SharedSnapshot.form.read s.toJson.pretty = .ok s) ∧
    ∀ (text : String) (s : SharedSnapshot), SharedSnapshot.form.read text = .ok s →
      ∃ s', SharedSnapshot.form.read s.toJson.pretty = .ok s' ∧
        s'.toJson.pretty = s.toJson.pretty :=
  ⟨ofText_toText, fun _ s _ => ⟨s, s.ofText_toText, rfl⟩, SharedSnapshot.read_pretty,
    fun _ s _ => ⟨s, s.read_pretty, rfl⟩⟩

/-- Members in another order, blanks, and characters that are escaped without need. -/
def looseText : List Char :=
  ("\x7b \"rules\" : [ ] ,\"previousData\":\"\\u0000\\/\",\n\"more\":[1]," ++
    "\"data\":\"\\u0041\\n\"\x7d").toList

theorem loose_text_comes_to_rest :
    ofText (.ofList looseText) = .ok ⟨"A\n", "\x00/", []⟩ ∧
    (∃ s', ofText (toText ⟨"A\n", "\x00/", []⟩) = .ok s' ∧
      s'.toText = toText ⟨"A\n", "\x00/", []⟩) ∧
    (∃ s', SharedSnapshot.form.read (SharedSnapshot.toJson ⟨"A\n", "\x00/", []⟩).pretty = .ok s' ∧
      s'.toJson.pretty = (SharedSnapshot.toJson ⟨"A\n", "\x00/", []⟩).pretty) := by
  have hshared : SharedSnapshot.form.read (.ofList looseText) = .ok ⟨"A\n", "\x00/", []⟩ :=
    Json.Form.read_ofList (by decide +kernel)
  have htext : ofText (.ofList looseText) = .ok ⟨"A\n", "\x00/", []⟩ :=
    ofText_of_read (Json.Form.read_ofList (by decide +kernel))
  exact ⟨htext, texts_read_back.2.1 _ _ htext, texts_read_back.2.2.2 _ _ hshared⟩

end Snapshot

end RuleBench
