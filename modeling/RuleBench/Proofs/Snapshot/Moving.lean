import RuleBench.Proofs.Snapshot.Editing

set_option autoImplicit false

/-!
# Moving a rule

A rule that is moved in one direction again and again goes one place further each time until it
stands at the end of the list, and then stays there.  The other rules keep their order.  A move that
has taken place is undone by one in the opposite direction.
-/

namespace RuleBench

def Direction.opposite : Direction → Direction
  | .up => .down
  | .down => .up

namespace Snapshot

/-- Moves a rule in one direction this many times, and lists what each move says. -/
def moveTimes (s : Snapshot) (id : String) (d : Direction) :
    Nat → Except SnapshotError (Snapshot × List Bool)
  | 0 => .ok (s, [])
  | k + 1 => do
    let (t, moved) ← s.moveRule id d
    let (u, rest) ← t.moveTimes id d k
    return (u, moved :: rest)

/-- The rule at one index of a snapshot stands at another index of the second one, and all else is
the same. -/
structure Transfers (s : Snapshot) (i : Nat) (r : ListedRule) (j : Nat) (t : Snapshot) : Prop where
  stands : t.rules[j]? = some r
  others : t.rules.eraseIdx j = s.rules.eraseIdx i
  data : t.data = s.data
  previousData : t.previousData = s.previousData

/-! ## What lies ahead -/

/-- A rule among others.  Those ahead are the ones it meets on the way in this direction; both they
and those behind are listed from the nearest on. -/
def arrange (d : Direction) (ahead : List ListedRule) (r : ListedRule) (behind : List ListedRule) :
    List ListedRule :=
  match d with
  | .up => ahead.reverse ++ r :: behind
  | .down => behind.reverse ++ r :: ahead

theorem arrange_opposite (d : Direction) (ahead behind : List ListedRule) (r : ListedRule) :
    arrange d.opposite behind r ahead = arrange d ahead r behind := by
  cases d <;> rfl

/-- The index of a rule among others. -/
def place (d : Direction) (ahead behind : List ListedRule) : Nat :=
  match d with
  | .up => ahead.length
  | .down => behind.length

/-- All rules but the one that moves. -/
def others (d : Direction) (ahead behind : List ListedRule) : List ListedRule :=
  match d with
  | .up => ahead.reverse ++ behind
  | .down => behind.reverse ++ ahead

theorem getElem?_arrange (d : Direction) (ahead behind : List ListedRule) (r : ListedRule) :
    (arrange d ahead r behind)[place d ahead behind]? = some r := by
  cases d <;> simp [arrange, place]

theorem eraseIdx_arrange (d : Direction) (ahead behind : List ListedRule) (r : ListedRule) :
    (arrange d ahead r behind).eraseIdx (place d ahead behind) = others d ahead behind := by
  cases d <;> simp [arrange, place, others, List.eraseIdx_append_of_length_le]

theorem others_passed (d : Direction) (ahead behind : List ListedRule) (k : Nat) :
    others d (ahead.drop k) ((ahead.take k).reverse ++ behind) = others d ahead behind := by
  cases d with
  | up =>
    simp only [others]
    rw [← List.append_assoc, ← List.reverse_append, List.take_append_drop]
  | down => simp [others]

structure Faces (s : Snapshot) (d : Direction) (ahead : List ListedRule) (r : ListedRule)
    (behind : List ListedRule) : Prop where
  rules : s.rules = arrange d ahead r behind
  apart : ∀ q ∈ ahead ++ behind, q.id ≠ r.id

namespace Faces

variable {s t : Snapshot} {d : Direction} {ahead behind : List ListedRule} {q r : ListedRule}

theorem turn (h : s.Faces d ahead r behind) : s.Faces d.opposite behind r ahead where
  rules := h.rules.trans (arrange_opposite d ahead behind r).symm
  apart q hq := h.apart q (List.mem_append.mpr (List.mem_append.mp hq).symm)

theorem split_up (h : s.Faces .up ahead r behind) : s.Split r.id ahead.reverse r behind where
  rules := h.rules
  id_eq := rfl
  first q hq := h.apart q (List.mem_append_left _ (List.mem_reverse.mp hq))

theorem split_down (h : s.Faces .down ahead r behind) : s.Split r.id behind.reverse r ahead where
  rules := h.rules
  id_eq := rfl
  first q hq := h.apart q (List.mem_append_right _ (List.mem_reverse.mp hq))

theorem pass (h : s.Faces d (q :: ahead) r behind) :
    Faces { s with rules := arrange d ahead r (q :: behind) } d ahead r (q :: behind) where
  rules := rfl
  apart p hp := h.apart p (by simpa [or_left_comm] using hp)

/-- With nothing ahead the rule stays. -/
theorem moveRule_nil (h : s.Faces d [] r behind) : s.moveRule r.id d = .ok (s, false) := by
  cases d with
  | up => exact h.split_up.moveRule_first
  | down => exact h.split_down.moveRule_last

/-- A rule changes places with the nearest one ahead. -/
theorem moveRule_cons (h : s.Faces d (q :: ahead) r behind) :
    s.moveRule r.id d = .ok ({ s with rules := arrange d ahead r (q :: behind) }, true) := by
  cases d with
  | up =>
    have hsplit := h.split_up
    rw [List.reverse_cons] at hsplit
    exact hsplit.moveRule_up
  | down => simpa [arrange] using h.split_down.moveRule_down

/-- After some moves the rule has passed as many of the others, or else all that were ahead. -/
theorem moveTimes_eq (h : s.Faces d ahead r behind) (k : Nat) :
    s.moveTimes r.id d k = .ok
      ({ s with rules := arrange d (ahead.drop k) r ((ahead.take k).reverse ++ behind) },
        List.replicate (min ahead.length k) true ++ List.replicate (k - ahead.length) false) := by
  induction k generalizing s ahead behind with
  | zero =>
    have hrules : arrange d ahead r behind = s.rules := h.rules.symm
    simp [moveTimes, hrules]
  | succ k ih =>
    cases ahead with
    | nil =>
      have hrest := ih h
      simp only [moveTimes, h.moveRule_nil, bind, Except.bind, hrest, pure, Except.pure]
      simp [List.replicate_succ]
    | cons q ahead =>
      have hrest := ih h.pass
      simp only [moveTimes, h.moveRule_cons, bind, Except.bind, hrest, pure, Except.pure]
      simp [List.replicate_succ, Nat.succ_min_succ]

theorem transfers (h : s.Faces d ahead r behind) (k : Nat) :
    s.Transfers (place d ahead behind) r (place d (ahead.drop k) ((ahead.take k).reverse ++ behind))
      { s with rules := arrange d (ahead.drop k) r ((ahead.take k).reverse ++ behind) } where
  stands := getElem?_arrange d _ _ r
  others := by rw [eraseIdx_arrange, others_passed, h.rules, eraseIdx_arrange]
  data := rfl
  previousData := rfl

theorem undone (h : s.Faces d ahead r behind) (hmove : s.moveRule r.id d = .ok (t, true)) :
    t.moveRule r.id d.opposite = .ok (s, true) := by
  cases ahead with
  | nil =>
    rw [h.moveRule_nil] at hmove
    cases hmove
  | cons q ahead =>
    rw [h.moveRule_cons] at hmove
    cases hmove
    rw [h.pass.turn.moveRule_cons, arrange_opposite, ← h.rules]

end Faces

theorem faces_of_getElem? {s : Snapshot} (hids : s.ids.Nodup) {i : Nat} {r : ListedRule}
    (hr : s.rules[i]? = some r) :
    s.Faces .up (s.rules.take i).reverse r (s.rules.drop (i + 1)) := by
  obtain ⟨hi, rfl⟩ := List.getElem?_eq_some_iff.mp hr
  have hrules : s.rules = s.rules.take i ++ s.rules[i] :: s.rules.drop (i + 1) := by simp
  refine ⟨by rw [arrange, List.reverse_reverse, ← hrules], fun q hq heq => ?_⟩
  rw [ids, hrules, List.map_append, List.map_cons, List.nodup_middle, List.nodup_cons] at hids
  refine hids.1 (heq ▸ ?_)
  rw [← List.map_append]
  exact List.mem_map_of_mem (by simpa using hq)

/-- Moving a rule again and again takes it as many places up or down, but not beyond the end, and
the moves that say so come first.  The other rules keep their bodies and their order.  Every move
that takes place is undone by the opposite one. -/
theorem moves_stop_at_the_end (s : Snapshot) (hids : s.ids.Nodup) :
    (∀ i r, s.rules[i]? = some r → ∀ k,
      (∃ t, s.moveTimes r.id .up k =
          .ok (t, List.replicate (min i k) true ++ List.replicate (k - i) false) ∧
        s.Transfers i r (i - k) t) ∧
      ∃ t, s.moveTimes r.id .down k =
          .ok (t, List.replicate (min (s.rules.length - 1 - i) k) true ++
            List.replicate (k - (s.rules.length - 1 - i)) false) ∧
        s.Transfers i r (min (s.rules.length - 1) (i + k)) t) ∧
    ∀ id d t, s.moveRule id d = .ok (t, true) → t.moveRule id d.opposite = .ok (s, true) := by
  refine ⟨fun i r hr k => ?_, fun id d t hmove => ?_⟩
  · have hi : i < s.rules.length := (List.getElem?_eq_some_iff.mp hr).1
    have hup := faces_of_getElem? hids hr
    have hbefore : (s.rules.take i).reverse.length = i := by simp; omega
    have hafter : (s.rules.drop (i + 1)).length = s.rules.length - 1 - i := by simp; omega
    have hahead : (((s.rules.take i).reverse).drop k).length = i - k := by
      rw [List.length_drop, hbefore]
    have hpassed : (((s.rules.drop (i + 1)).take k).reverse ++ (s.rules.take i).reverse).length =
        min (s.rules.length - 1) (i + k) := by
      rw [List.length_append, hbefore, List.length_reverse, List.length_take, hafter]
      omega
    refine ⟨⟨_, hbefore ▸ hup.moveTimes_eq k, ?_⟩, _, hafter ▸ hup.turn.moveTimes_eq k, ?_⟩
    · have htransfers := hup.transfers k
      rwa [place, place, hbefore, hahead] at htransfers
    · have htransfers := hup.turn.transfers k
      rwa [Direction.opposite, place, place, hbefore, hpassed] at htransfers
  · have hid : id ∈ s.ids := by
      by_contra hid
      rw [moveRule_of_not_mem hid] at hmove
      cases hmove
    obtain ⟨r, hr, rfl⟩ := mem_ids_iff.mp hid
    obtain ⟨i, hi⟩ := List.mem_iff_getElem?.mp hr
    have hup := faces_of_getElem? hids hi
    cases d with
    | up => exact hup.undone hmove
    | down => exact hup.turn.undone hmove

private def beds : ListedRule := .ofRule "beds" ⟨"Beds", .warning, "Beds = 0", "No beds"⟩

/-- Rules under three ids, of which `beds` is the second. -/
private def offer : Snapshot where
  data := "\x7b\x7d"
  previousData := "null"
  rules :=
    [.ofRule "price" ⟨"ListPrice", .accept, "ListPrice > 0", "A price is needed"⟩, beds,
      .ofRule "status" ⟨"MlsStatus", .reject, "MlsStatus = .EMPTY.", "A status is needed"⟩]

/-- The second of three rules has one place to go to on either side, from where it comes back. -/
theorem second_of_three_has_a_place_on_either_side :
    offer.ids.Nodup ∧ offer.rules[1]? = some beds ∧
      (∃ t, offer.moveTimes "beds" .up 3 = .ok (t, [true, false, false]) ∧
        offer.Transfers 1 beds 0 t) ∧
      (∃ t, offer.moveTimes "beds" .down 2 = .ok (t, [true, false]) ∧
        offer.Transfers 1 beds 2 t) ∧
      ∃ t, offer.moveRule "beds" .down = .ok (t, true) ∧ t.ids = ["price", "status", "beds"] ∧
        t.moveRule "beds" .up = .ok (offer, true) := by
  have hids : offer.ids.Nodup := by decide
  obtain ⟨hmoves, hback⟩ := moves_stop_at_the_end offer hids
  exact ⟨hids, rfl, (hmoves 1 beds rfl 3).1, (hmoves 1 beds rfl 2).2,
    _, rfl, rfl, hback "beds" .down _ rfl⟩

end Snapshot

end RuleBench
