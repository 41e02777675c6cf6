import RuleBench.Proofs.Call.Run

set_option autoImplicit false

/-!
# Which reply a call gets

A call gets the payload of the first envelope under its number that is dispatched while the call is
pending, and gets it once.  Hence what a call gets does not depend on the order in which replies to
different calls arrive.
-/

namespace RuleBench.Correlator

variable {α β : Type}

/-- The envelopes that were dispatched while their calls were pending. -/
def answers (log : List (Event β)) : List (Envelope β) :=
  log.filterMap fun
    | .dispatched e true => some e
    | _ => none

def firstAnswer? (id : Nat) (log : List (Event β)) : Option β :=
  ((answers log).find? fun e => e.id == id).map (·.payload)

/-- What polls of a handle have returned. -/
def results (id : Nat) (log : List (Event β)) : List (Except CallError β) :=
  log.filterMap fun
    | .resolved i r => if i = id then some r else none
    | _ => none

/-- A poll of the handle has returned this, or would now. -/
def ResolvesTo (log : List (Event β)) (c : Correlator α β) (id : Nat) (r : Except CallError β) :
    Prop :=
  r ∈ results id log ∨ id ∈ c.held ∧ c.result? id = some r

theorem firstAnswer?_eq_some_iff {log : List (Event β)} (h : ((answers log).map (·.id)).Nodup)
    (id : Nat) (b : β) : firstAnswer? id log = some b ↔ ⟨id, b⟩ ∈ answers log := by
  unfold firstAnswer?
  constructor
  · intro hf
    obtain ⟨e, he, rfl⟩ := Option.map_eq_some_iff.mp hf
    have hid : e.id = id := by simpa using List.find?_some he
    exact hid ▸ List.mem_of_find?_eq_some he
  · intro hm
    cases hf : (answers log).find? fun e => e.id == id with
    | none => exact absurd (List.find?_eq_none.mp hf _ hm) (by simp)
    | some e =>
      have hid : e.id = id := by simpa using List.find?_some hf
      rw [List.inj_on_of_nodup_map h (List.mem_of_find?_eq_some hf) hm hid]
      rfl

/-! ## The log accounts for the state -/

/-- What the log says about handles that are held and about those that have been resolved. -/
structure Accounts (log : List (Event β)) (c : Correlator α β) : Prop where
  coherent : c.Coherent
  nodup : ((answers log).map (·.id)).Nodup
  answered_lt : ∀ e ∈ answers log, e.id < c.nextId
  answered_pending : ∀ e ∈ answers log, e.id ∉ c.pending
  held : ∀ id ∈ c.held, ∀ b, c.result? id = some (.ok b) ↔ ⟨id, b⟩ ∈ answers log
  resolved_lt : ∀ id, ∀ r ∈ results id log, id < c.nextId
  resolved_held : ∀ id, ∀ r ∈ results id log, id ∉ c.held
  resolved : ∀ id, ∀ r ∈ results id log, ∀ b, r = .ok b ↔ ⟨id, b⟩ ∈ answers log
  once : ∀ id, (results id log).length ≤ 1

namespace Accounts

variable {log : List (Event β)} {c : Correlator α β}

theorem start (hc : c.Coherent) (hd : c.delivered = []) : Accounts [] c := by
  constructor
  · exact hc
  all_goals simp [answers, results, hc.result?_eq_ok_iff, hd]

/-- A change that leaves what is held as it was, but for handles given up and handles of new
calls. -/
theorem of_quiet (h : Accounts log c) {d : Correlator α β} (hd : d.Coherent)
    (hn : c.nextId ≤ d.nextId)
    (hp : ∀ id ∈ d.pending, id ∈ c.pending ∨ c.nextId ≤ id)
    (hh : ∀ id ∈ d.held, (id ∈ c.held ∧
      ∀ b, d.result? id = some (.ok b) ↔ c.result? id = some (.ok b)) ∨
      (c.nextId ≤ id ∧ d.result? id = none)) : Accounts log d where
  coherent := hd
  nodup := h.nodup
  answered_lt e he := Nat.lt_of_lt_of_le (h.answered_lt e he) hn
  answered_pending e he hm := by
    rcases hp e.id hm with hm | hm
    · exact h.answered_pending e he hm
    · exact Nat.not_le_of_lt (h.answered_lt e he) hm
  held id hid b := by
    rcases hh id hid with ⟨hid, hr⟩ | ⟨hle, hr⟩
    · rw [hr, h.held id hid]
    · rw [hr]
      constructor
      · intro hf
        cases hf
      · intro he
        exact absurd (h.answered_lt _ he) (Nat.not_lt_of_le hle)
  resolved_lt id r hr := Nat.lt_of_lt_of_le (h.resolved_lt id r hr) hn
  resolved_held id r hr hid := by
    rcases hh id hid with ⟨hid, -⟩ | ⟨hle, -⟩
    · exact h.resolved_held id r hr hid
    · exact Nat.not_le_of_lt (h.resolved_lt id r hr) hle
  resolved := h.resolved
  once := h.once

theorem withChannel (h : Accounts log c) (channel : Channel α β) :
    Accounts log { c with channel } :=
  h.of_quiet (h.coherent.withChannel channel) (Nat.le_refl _) (fun _ hid => .inl hid)
    fun _ hid => .inl ⟨hid, fun _ => Iff.rfl⟩

theorem submit (h : Accounts log c) (a : α) : Accounts log (c.submit a).2 := by
  have hd := h.coherent.submit a
  have hold := fun id (hid : id ∈ c.held) => h.coherent.result?_submit a hid
  rcases submit_cases c a with ⟨e, n, hs, hn⟩ | hs
  · rw [hs] at hd ⊢
    exact h.of_quiet hd hn (fun _ hid => .inl hid) fun _ hid => .inl ⟨hid, fun _ => Iff.rfl⟩
  · rw [hs] at hd hold ⊢
    refine h.of_quiet hd (Nat.le_succ _) ?_ ?_
    · intro id hid
      rcases List.mem_append.mp hid with hid | hid
      · exact .inl hid
      · exact .inr (Nat.le_of_eq (List.mem_singleton.mp hid).symm)
    · intro id hid
      rcases List.mem_append.mp hid with hid | hid
      · exact .inl ⟨hid, fun b => by rw [hold id hid]⟩
      · have heq : id = c.nextId := List.mem_singleton.mp hid
        refine .inr ⟨Nat.le_of_eq heq.symm, (hd.result?_eq_none_iff id).mpr ?_⟩
        exact List.mem_append_right _ (List.mem_singleton.mpr heq)

theorem forget (h : Accounts log c) (id : Nat) : Accounts log (c.forget id) := by
  refine h.of_quiet (h.coherent.forget id) (Nat.le_refl _) ?_ ?_
  · intro i hi
    exact .inl (List.mem_filter.mp hi).1
  · intro i hi
    obtain ⟨hi, hne⟩ := List.mem_filter.mp hi
    have hne : i ≠ id := by simpa using hne
    exact .inl ⟨hi, fun b => by rw [result?_forget c hne]⟩

theorem stop (h : Accounts log c) {d : Correlator α β} (hd : d.Coherent)
    (hn : d.nextId = c.nextId) (hh : d.held = c.held) (hdel : d.delivered = c.delivered)
    (hp : d.pending = []) : Accounts log d := by
  refine h.of_quiet hd (Nat.le_of_eq hn.symm) ?_ ?_
  · intro id hid
    rw [hp] at hid
    exact absurd hid List.not_mem_nil
  · intro id hid
    refine .inl ⟨hh ▸ hid, fun b => ?_⟩
    rw [result?_stopped hdel hp]
    cases c.result? id <;> simp

/-- An envelope for a call that is not pending is lost without a trace. -/
theorem stray (h : Accounts log c) (e : Envelope β) :
    Accounts (log ++ [.dispatched e false]) c := by
  have ha : answers (log ++ [.dispatched e false]) = answers log := by simp [answers]
  have hr : ∀ id, results id (log ++ [.dispatched e false]) = results id log := by simp [results]
  exact {
    coherent := h.coherent
    nodup := ha ▸ h.nodup
    answered_lt := ha ▸ h.answered_lt
    answered_pending := ha ▸ h.answered_pending
    held := ha ▸ h.held
    resolved_lt := fun id => hr id ▸ h.resolved_lt id
    resolved_held := fun id => hr id ▸ h.resolved_held id
    resolved := fun id => ha ▸ hr id ▸ h.resolved id
    once := fun id => hr id ▸ h.once id }

theorem answer (h : Accounts log c) {e : Envelope β} (he : e.id ∈ c.pending) :
    Accounts (log ++ [.dispatched e true]) (c.resolve e) := by
  have ha : answers (log ++ [.dispatched e true]) = answers log ++ [e] := by simp [answers]
  have hr : ∀ id, results id (log ++ [.dispatched e true]) = results id log := by simp [results]
  have hc : c.resolve e = { c with
      pending := c.pending.filter (· != e.id)
      delivered := c.delivered ++ [(e.id, e.payload)] } := by simp [Correlator.resolve, he]
  have heh := h.coherent.pending_held e.id he
  have hfresh : ∀ a ∈ answers log, a.id ≠ e.id := fun a hm hid =>
    h.answered_pending a hm (hid ▸ he)
  constructor
  · exact h.coherent.resolve e
  · rw [ha, List.map_append, List.map_singleton]
    refine List.nodup_append.mpr ⟨h.nodup, by simp, ?_⟩
    intro a hm b hb hab
    obtain ⟨x, hx, rfl⟩ := List.mem_map.mp hm
    exact hfresh x hx (hab.trans (List.mem_singleton.mp hb))
  · rw [ha, hc]
    intro a hm
    rcases List.mem_append.mp hm with hm | hm
    · exact h.answered_lt a hm
    · rw [List.mem_singleton.mp hm]
      exact h.coherent.held_lt _ heh
  · rw [ha, hc]
    intro a hm hp
    obtain ⟨hp, hne⟩ := List.mem_filter.mp hp
    rcases List.mem_append.mp hm with hm | hm
    · exact h.answered_pending a hm hp
    · rw [List.mem_singleton.mp hm] at hne
      simp at hne
  · rw [ha]
    intro id hid b
    have hid : id ∈ c.held := by simpa [hc] using hid
    rw [h.coherent.result?_resolve]
    by_cases heq : e.id = id
    · subst heq
      rw [if_pos ⟨rfl, he⟩]
      constructor
      · intro hb
        cases hb
        exact List.mem_append_right _ (List.mem_singleton_self _)
      · intro hm
        rcases List.mem_append.mp hm with hm | hm
        · exact absurd rfl (hfresh ⟨e.id, b⟩ hm)
        · rw [← List.mem_singleton.mp hm]
    · have hno : ¬ (e.id = id ∧ id ∈ c.pending) := fun hh => heq hh.1
      have hne : (⟨id, b⟩ : Envelope β) ≠ e := fun hh => heq (congrArg Envelope.id hh).symm
      rw [if_neg hno, h.held id hid]
      simp [hne]
  · rw [hc]
    intro id r hm
    exact h.resolved_lt id r (hr id ▸ hm)
  · rw [hc]
    intro id r hm
    exact h.resolved_held id r (hr id ▸ hm)
  · rw [ha]
    intro id r hm b
    rw [hr] at hm
    have hne : (⟨id, b⟩ : Envelope β) ≠ e := by
      rintro rfl
      exact h.resolved_held id r hm heh
    rw [h.resolved id r hm]
    simp [hne]
  · intro id
    rw [hr]
    exact h.once id

theorem dispatch (h : Accounts log c) :
    Accounts (log ++ c.events .dispatch) c.dispatch := by
  have hd := h.coherent.dispatch
  rcases dispatch_cases c with ⟨e, rest, hl, hr, hs⟩ | ⟨-, hr, -, hs⟩ | ⟨hi, hs⟩
  · have hlog : c.events .dispatch = [.dispatched e (c.pending.contains e.id)] := by
      simp [events, hl, hr]
    have hw := h.withChannel { c.channel with replies := rest }
    rw [hs, hlog]
    by_cases he : e.id ∈ c.pending
    · rw [List.contains_iff_mem.mpr he]
      exact hw.answer he
    · have hno : c.pending.contains e.id = false := by simpa using he
      have hsame : resolve { c with channel := { c.channel with replies := rest } } e =
          { c with channel := { c.channel with replies := rest } } := by simp [resolve, he]
      rw [hsame, hno]
      exact hw.stray e
  · have hlog : c.events .dispatch = [] := by simp [events, hr]
    rw [hlog, List.append_nil, hs]
    exact h.stop (hs ▸ hd) rfl rfl rfl rfl
  · have hlog : c.events .dispatch = [] := by
      unfold isIdle at hi
      unfold events
      cases hl : c.listens <;> simp_all
    rw [hlog, List.append_nil, hs]
    exact h

theorem poll (h : Accounts log c) {id : Nat} (hid : id ∈ c.held) :
    Accounts (log ++ c.events (.poll id)) (c.poll id).2 := by
  cases hr : c.result? id with
  | none =>
    have hlog : c.events (.poll id) = [] := by simp [events, hr]
    have hp : (c.poll id).2 = c := by simp [Correlator.poll, hr]
    rw [hlog, List.append_nil, hp]
    exact h
  | some r =>
    have hlog : c.events (.poll id) = [.resolved id r] := by simp [events, hr]
    have hp : (c.poll id).2 = c.forget id := by simp [Correlator.poll, hr]
    have ha : answers (log ++ [.resolved id r]) = answers log := by simp [answers]
    have hres : ∀ i, results i (log ++ [.resolved id r]) =
        results i log ++ if id = i then [r] else [] := by
      intro i
      by_cases hi : id = i <;> simp [results, hi]
    have hnone : results id log = [] :=
      List.eq_nil_iff_forall_not_mem.mpr fun x hx => h.resolved_held id x hx hid
    have hf := h.forget id
    have hmem : ∀ i, ∀ x ∈ results i (log ++ [.resolved id r]),
        x ∈ results i log ∨ i = id ∧ x = r := by
      intro i x hx
      rw [hres] at hx
      rcases List.mem_append.mp hx with hx | hx
      · exact .inl hx
      · split at hx
        · rename_i heq
          exact .inr ⟨heq.symm, List.mem_singleton.mp hx⟩
        · exact absurd hx List.not_mem_nil
    rw [hlog, hp]
    constructor
    · exact hf.coherent
    · exact ha ▸ hf.nodup
    · exact ha ▸ hf.answered_lt
    · exact ha ▸ hf.answered_pending
    · exact ha ▸ hf.held
    · intro i x hx
      rcases hmem i x hx with hx | ⟨rfl, -⟩
      · exact hf.resolved_lt i x hx
      · exact h.coherent.held_lt i hid
    · intro i x hx
      rcases hmem i x hx with hx | ⟨rfl, -⟩
      · exact hf.resolved_held i x hx
      · simp [Correlator.forget]
    · intro i x hx b
      rw [ha]
      rcases hmem i x hx with hx | ⟨rfl, rfl⟩
      · exact h.resolved i x hx b
      · rw [← h.held i hid, hr, Option.some.injEq]
    · intro i
      rw [hres]
      by_cases heq : id = i
      · subst heq
        simp [hnone]
      · simpa [heq] using h.once i

theorem act (h : Accounts log c) (a : Action α β) (ok : c.Permits a) :
    Accounts (log ++ c.events a) (c.act a) := by
  have quiet : ∀ {d : Correlator α β}, Accounts log d → Accounts (log ++ []) d := fun hd =>
    (List.append_nil log).symm ▸ hd
  cases a with
  | submit a => exact quiet (h.submit a)
  | poll id => exact h.poll ok
  | forget id => exact quiet (h.forget id)
  | drop => exact quiet (h.stop h.coherent.drop rfl rfl rfl rfl)
  | dispatch => exact h.dispatch
  | take =>
    refine quiet ?_
    simp only [Correlator.act, Correlator.take]
    split
    · exact h.withChannel _
    · exact h
  | reply e =>
    refine quiet ?_
    simp only [Correlator.act, Correlator.reply]
    split
    · exact h
    · split
      · exact h
      · exact h.withChannel _
  | dropRequests => exact quiet (h.withChannel _)
  | dropReplies => exact quiet (h.withChannel _)

theorem run {log : List (Event β)} {c : Correlator α β} (h : Run log c) : Accounts log c := by
  induction h with
  | connected => exact start coherent_connected rfl
  | unavailable reason => exact start (coherent_unavailable reason) rfl
  | step _ a ok ih => exact ih.act a ok

theorem resolvesTo (h : Accounts log c) {id : Nat} {r : Except CallError β}
    (hr : ResolvesTo log c id r) (b : β) : r = .ok b ↔ ⟨id, b⟩ ∈ answers log := by
  rcases hr with hr | ⟨hid, hr⟩
  · exact h.resolved id r hr b
  · rw [← h.held id hid, hr, Option.some.injEq]

theorem not_pending (h : Accounts log c) {id : Nat}
    (hid : c.nextId ≤ id ∨ (firstAnswer? id log).isSome ∨ id ∉ c.held) : id ∉ c.pending := by
  intro hp
  have hheld := h.coherent.pending_held id hp
  rcases hid with hle | ha | hno
  · exact Nat.not_le_of_lt (h.coherent.held_lt id hheld) hle
  · obtain ⟨b, hb⟩ := Option.isSome_iff_exists.mp ha
    exact h.answered_pending _ ((firstAnswer?_eq_some_iff h.nodup id b).mp hb) hp
  · exact hno hheld

end Accounts

/-- In every run: a handle resolves to a reply if and only if that is the first answer to its call;
one that is still held then does so at the next poll; none does so twice.  Numbers that were never
issued, are answered already or belong to nobody are not pending, and an envelope under a number
that is not pending changes nothing.  Two runs with the same answers, in whatever order they came,
resolve every handle to the same replies. -/
theorem handle_resolves_to_first_answer {log : List (Event β)} {c : Correlator α β}
    (h : Run log c) :
    (∀ id r, ResolvesTo log c id r → ∀ b, r = .ok b ↔ firstAnswer? id log = some b) ∧
    (∀ id ∈ c.held, ∀ b, firstAnswer? id log = some b →
      c.poll id = (some (.ok b), c.forget id)) ∧
    (∀ id, (results id log).length ≤ 1 ∧ (results id log ≠ [] → id ∉ c.held)) ∧
    (∀ id, c.nextId ≤ id ∨ (firstAnswer? id log).isSome ∨ id ∉ c.held → id ∉ c.pending) ∧
    (∀ e rest, c.listens = true → c.channel.replies = e :: rest → e.id ∉ c.pending →
      c.dispatch = { c with channel := { c.channel with replies := rest } }) ∧
    (∀ (log' : List (Event β)) (c' : Correlator α β), Run log' c' →
      (answers log').Perm (answers log) → ∀ id r, ResolvesTo log c id r →
        (∀ r', ResolvesTo log' c' id r' → ∀ b, r = .ok b ↔ r' = .ok b) ∧
        (id ∈ c'.held → ∀ b, r = .ok b → c'.poll id = (some (.ok b), c'.forget id))) := by
  have ha := Accounts.run h
  have first := fun id b => firstAnswer?_eq_some_iff ha.nodup id b
  have due : ∀ {log : List (Event β)} {c : Correlator α β}, Accounts log c → ∀ id ∈ c.held, ∀ b,
      ⟨id, b⟩ ∈ answers log → c.poll id = (some (.ok b), c.forget id) := by
    intro log c ha id hid b hb
    have hr := (ha.held id hid b).mpr hb
    simp [Correlator.poll, hr]
  refine ⟨?_, ?_, ?_, fun id => ha.not_pending, ?_, ?_⟩
  · intro id r hr b
    rw [first, ha.resolvesTo hr]
  · intro id hid b hb
    exact due ha id hid b ((first id b).mp hb)
  · intro id
    refine ⟨ha.once id, fun hne => ?_⟩
    obtain ⟨r, hr⟩ := List.exists_mem_of_ne_nil _ hne
    exact ha.resolved_held id r hr
  · intro e rest hl hr he
    simp [Correlator.dispatch, hl, hr, resolve, he]
  · intro log' c' h' hperm id r hr
    have ha' := Accounts.run h'
    have same : ∀ b, r = .ok b ↔ ⟨id, b⟩ ∈ answers log' := fun b => by
      rw [ha.resolvesTo hr, hperm.mem_iff]
    refine ⟨fun r' hr' b => ?_, fun hid b hb => ?_⟩
    · rw [same, ha'.resolvesTo hr']
    · exact due ha' id hid b ((same b).mp hb)

/-- Two calls whose replies come in the other order, the first after a stray one. -/
theorem swapped_replies_resolve : ∃ (log : List (Event String)) (c : Correlator Unit String),
    Run log c ∧ answers log = [⟨1, "second"⟩, ⟨0, "first"⟩] ∧ 0 ∈ c.held ∧
      c.poll 0 = (some (.ok "first"), c.forget 0) := by
  have sent := ((Run.connected.step (.submit ()) rfl).step (.submit ()) rfl : Run (β := String) _ _)
  have replied := ((sent.step (.reply ⟨1, "second"⟩) trivial).step (.reply ⟨7, "stray"⟩) trivial).step
    (.reply ⟨0, "first"⟩) trivial
  have taken := ((replied.step .dispatch trivial).step .dispatch trivial).step .dispatch trivial
  exact ⟨_, _, taken, rfl, by decide,
    (handle_resolves_to_first_answer taken).2.1 0 (by decide) "first" rfl⟩

end RuleBench.Correlator
