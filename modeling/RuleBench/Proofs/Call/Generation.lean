import Mathlib.Data.List.Pairwise
import RuleBench.Proofs.Call.History

set_option autoImplicit false

/-!
# Only the latest generation counts

At rest a session shows what became of the call of its latest update, whatever became of those
before it, and whenever that came.  The invariant relates the history to every update that is under
way, and to the state and the failure published last.
-/

namespace RuleBench.Session

def observed (s : Session) : Nat × EvaluationState × Option CallError :=
  (s.generation, s.state, s.failure?)

/-- Nothing goes on in the background: there is nothing to dispatch, and no update is under way but
those whose call is. -/
def IsIdle (s : Session) : Prop :=
  s.correlator.isIdle = true ∧
    ∀ t ∈ s.tasks, ∃ call, t.phase = .waiting call ∧ s.correlator.result? call = none

/-! ## Updates under way -/

/-- What the history tells of an update that is under way. -/
def Told (log : List Event) (c : Correlator Request Reply) (t : Task) : Prop :=
  match t.phase with
  | .begun => Unsent t.generation log
  | .waiting call =>
    Sent t.generation call log ∧ call ∈ c.held ∧ fate t.generation log = c.result? call
  | .ended outcome => fate t.generation log = some outcome
  | .failing e => fate t.generation log = some (.error e)

theorem Told.of_result {log : List Event} {c d : Correlator Request Reply} {t : Task}
    (h : Told log c t) (hr : ∀ call, t.phase = .waiting call → call ∈ c.held →
      call ∈ d.held ∧ d.result? call = c.result? call) : Told log d t := by
  unfold Told at h ⊢
  split at h
  · exact h
  · rename_i call hp
    obtain ⟨hs, hheld, hf⟩ := h
    obtain ⟨hheld, hres⟩ := hr call hp hheld
    exact ⟨hs, hheld, hf.trans hres.symm⟩
  · exact h
  · exact h

theorem Told.append {log : List Event} {c d : Correlator Request Reply} {t : Task}
    (h : Told log c t) {e : Event} (he : ¬ e.IsSendingOf t.generation)
    (hr : ∀ call, t.phase = .waiting call → call ∈ c.held →
      call ∈ d.held ∧ d.result? call = (c.result? call).or (ending call e)) :
    Told (log ++ [e]) d t := by
  unfold Told at h ⊢
  split at h
  · refine unsent_append.mpr ⟨h, ?_⟩
    intro x hx
    rwa [List.mem_singleton.mp hx]
  · rename_i call hp
    obtain ⟨hs, hheld, hf⟩ := h
    obtain ⟨hheld, hres⟩ := hr call hp hheld
    refine ⟨hs.append _, hheld, ?_⟩
    rw [fate_append_of_sent hs, hf, hres]
  · exact fate_append_of_some h _
  · exact fate_append_of_some h _

/-- Two updates may be at these phases at the same time: they do not wait for the same call, and
do not both record a failure. -/
def Phase.Apart : Phase → Phase → Prop
  | .waiting call, .waiting other => call ≠ other
  | .failing _, .failing _ => False
  | _, _ => True

theorem Phase.Apart.symm {p q : Phase} (h : p.Apart q) : q.Apart p := by
  cases p <;> cases q <;> first | exact h | exact Ne.symm h

def Apart (t u : Task) : Prop := t.generation ≠ u.generation ∧ t.phase.Apart u.phase

instance : Std.Symm Apart := ⟨fun _ _ h => ⟨h.1.symm, h.2.symm⟩⟩

/-- Updates under way, up to generation `n`. -/
structure TasksTold (log : List Event) (c : Correlator Request Reply) (n : Nat)
    (tasks : List Task) : Prop where
  pos : ∀ t ∈ tasks, 0 < t.generation
  le : ∀ t ∈ tasks, t.generation ≤ n
  apart : tasks.Pairwise Apart
  told : ∀ t ∈ tasks, Told log c t

theorem mem_move {tasks : List Task} {generation : Nat} {phase : Phase} {t : Task} :
    t ∈ (tasks.map fun t => if t.generation = generation then { t with phase } else t) ↔
      (t = ⟨generation, phase⟩ ∧ ∃ u ∈ tasks, u.generation = generation) ∨
      (t ∈ tasks ∧ t.generation ≠ generation) := by
  rw [List.mem_map]
  constructor
  · rintro ⟨u, hu, rfl⟩
    by_cases hg : u.generation = generation
    · rw [if_pos hg]
      exact .inl ⟨by rw [hg], u, hu, hg⟩
    · rw [if_neg hg]
      exact .inr ⟨hu, hg⟩
  · rintro (⟨rfl, u, hu, hg⟩ | ⟨ht, hg⟩)
    · exact ⟨u, hu, by rw [if_pos hg, hg]⟩
    · exact ⟨t, ht, by rw [if_neg hg]⟩

namespace TasksTold

variable {log : List Event} {c : Correlator Request Reply} {n : Nat} {tasks : List Task}

theorem mono (h : TasksTold log c n tasks) {log' : List Event} {c' : Correlator Request Reply}
    (keep : ∀ t ∈ tasks, Told log c t → Told log' c' t) : TasksTold log' c' n tasks :=
  { h with told := fun t ht => keep t ht (h.told t ht) }

theorem close (h : TasksTold log c n tasks) (generation : Nat) :
    TasksTold log c n (tasks.filter fun t => t.generation != generation) where
  pos t ht := h.pos t (List.mem_filter.mp ht).1
  le t ht := h.le t (List.mem_filter.mp ht).1
  apart := h.apart.filter _
  told t ht := h.told t (List.mem_filter.mp ht).1

theorem begin (h : TasksTold log c n tasks) (hu : Unsent (n + 1) log) :
    TasksTold (log ++ [.begun]) c (n + 1) (tasks ++ [⟨n + 1, .begun⟩]) := by
  have both : ∀ {p : Task → Prop}, (∀ t ∈ tasks, p t) → p ⟨n + 1, .begun⟩ →
      ∀ t ∈ tasks ++ [⟨n + 1, .begun⟩], p t := by
    intro p hold hnew t ht
    rcases List.mem_append.mp ht with ht | ht
    · exact hold t ht
    · exact List.mem_singleton.mp ht ▸ hnew
  constructor
  · exact both h.pos (Nat.succ_pos n)
  · exact both (fun t ht => Nat.le_succ_of_le (h.le t ht)) (Nat.le_refl _)
  · refine List.pairwise_append.mpr ⟨h.apart, List.pairwise_singleton _ _, ?_⟩
    intro t ht u hu
    rw [List.mem_singleton.mp hu]
    have hle := h.le t ht
    refine ⟨by simp only; omega, ?_⟩
    cases t.phase <;> trivial
  · refine both (fun t ht => (h.told t ht).append id fun call _ hheld => ⟨hheld, by simp [ending]⟩) ?_
    refine unsent_append.mpr ⟨hu, ?_⟩
    intro e he
    rw [List.mem_singleton.mp he]
    exact id

/-- One update goes on to another phase, while the history may tell more. -/
theorem move (h : TasksTold log c n tasks) {log' : List Event} {c' : Correlator Request Reply}
    {t : Task} (ht : t ∈ tasks) (phase : Phase)
    (own : Told log' c' ⟨t.generation, phase⟩)
    (others : ∀ u ∈ tasks, u.generation ≠ t.generation →
      Told log' c' u ∧ phase.Apart u.phase) :
    TasksTold log' c' n
      (tasks.map fun u => if u.generation = t.generation then { u with phase } else u) := by
  constructor
  · intro u hu
    rcases mem_move.mp hu with ⟨rfl, -⟩ | ⟨hu, -⟩
    · exact h.pos t ht
    · exact h.pos u hu
  · intro u hu
    rcases mem_move.mp hu with ⟨rfl, -⟩ | ⟨hu, -⟩
    · exact h.le t ht
    · exact h.le u hu
  · refine List.pairwise_map.mpr (h.apart.imp_of_mem ?_)
    intro a b ha hb hab
    by_cases hga : a.generation = t.generation
    · have hgb : b.generation ≠ t.generation := fun hgb => hab.1 (hga.trans hgb.symm)
      rw [if_pos hga, if_neg hgb]
      exact ⟨hab.1, (others b hb hgb).2⟩
    · rw [if_neg hga]
      by_cases hgb : b.generation = t.generation
      · rw [if_pos hgb]
        exact ⟨hab.1, (others a ha hga).2.symm⟩
      · rw [if_neg hgb]
        exact hab
  · intro u hu
    rcases mem_move.mp hu with ⟨rfl, -⟩ | ⟨hu, hg⟩
    · exact own
    · exact (others u hu hg).1

end TasksTold

/-! ## The state and the failure -/

def IsBusy (s : Session) : Prop := ∃ t ∈ s.tasks, t.generation = s.generation

/-- Until the latest update is over nothing shows of it; then what became of it shows, and if that
is a failure, no other one is being recorded. -/
structure LatestTold (log : List Event) (s : Session) : Prop where
  failure_le : ∀ g e, s.failure = some (g, e) → g ≤ s.generation
  busy : s.IsBusy → s.state = .loading ∧ s.failure? = none
  ended : ¬ s.IsBusy → s.observed = shown log
  known : ¬ s.IsBusy → s.generation = 0 ∨ (fate s.generation log).isSome
  alone : ¬ s.IsBusy → s.failure? ≠ none → ∀ t ∈ s.tasks, ∀ e, t.phase ≠ .failing e

structure Tells (log : List Event) (s : Session) : Prop where
  coherent : s.correlator.Coherent
  begun : s.generation = log.countP Event.isBegun
  unsent : ∀ g, s.generation < g → Unsent g log
  tasks : TasksTold log s.correlator s.generation s.tasks
  latest : LatestTold log s

theorem shown_of_fate {log : List Event} {n : Nat} (hn : n = log.countP Event.isBegun)
    (hpos : 0 < n) : shown log = display n (fate n log) := by
  subst hn
  simp only [shown, if_neg (Nat.ne_of_gt hpos)]

/-- A step that publishes nothing of the latest update: that is under way after it if it was before,
and a failure that is about to be recorded is that of the latest update or was so before. -/
theorem LatestTold.of_silent {log more : List Event} {s s' : Session} (h : LatestTold log s)
    (hlog : s.generation = log.countP Event.isBegun) (hm : more.countP Event.isBegun = 0)
    (ho : s'.observed = s.observed)
    (hf : ∀ g e, s'.failure = some (g, e) → g ≤ s.generation)
    (hb : s'.IsBusy ↔ s.IsBusy)
    (ha : ∀ t ∈ s'.tasks, ∀ e, t.phase = .failing e → t ∈ s.tasks ∨ t.generation = s.generation) :
    LatestTold (log ++ more) s' := by
  have hg : s'.generation = s.generation := congrArg Prod.fst ho
  have hs : s'.state = s.state := congrArg (fun o => o.2.1) ho
  have hf? : s'.failure? = s.failure? := congrArg (fun o => o.2.2) ho
  constructor
  · intro g e he
    rw [hg]
    exact hf g e he
  · intro hb'
    rw [hs, hf?]
    exact h.busy (hb.mp hb')
  · intro hb'
    have hb' := mt hb.mpr hb'
    rw [ho, h.ended hb', shown_append hm (hlog ▸ h.known hb')]
  · intro hb'
    rw [hg]
    refine (h.known (mt hb.mpr hb')).imp_right fun hk => ?_
    obtain ⟨r, hr⟩ := Option.isSome_iff_exists.mp hk
    rw [fate_append_of_some hr]
    rfl
  · intro hb' hne t ht e he
    rcases ha t ht e he with hold | hgen
    · exact h.alone (mt hb.mpr hb') (hf? ▸ hne) t hold e he
    · exact hb' ⟨t, ht, hgen.trans hg.symm⟩

theorem isBusy_move (s : Session) (generation : Nat) (phase : Phase) :
    (s.move generation phase).IsBusy ↔ s.IsBusy := by
  constructor
  · rintro ⟨t, ht, hg⟩
    rcases mem_move.mp ht with ⟨rfl, u, hu, hug⟩ | ⟨ht, -⟩
    · exact ⟨u, hu, hug.trans hg⟩
    · exact ⟨t, ht, hg⟩
  · rintro ⟨t, ht, hg⟩
    by_cases htg : t.generation = generation
    · exact ⟨⟨generation, phase⟩, mem_move.mpr (.inl ⟨rfl, t, ht, htg⟩), htg.symm.trans hg⟩
    · exact ⟨t, mem_move.mpr (.inr ⟨ht, htg⟩), hg⟩

theorem mem_close {s : Session} {generation : Nat} {t : Task} :
    t ∈ (s.close generation).tasks ↔ t ∈ s.tasks ∧ t.generation ≠ generation := by
  simp [close]

theorem isBusy_close {s : Session} {generation : Nat} (hg : s.generation ≠ generation) :
    (s.close generation).IsBusy ↔ s.IsBusy := by
  constructor
  · rintro ⟨t, ht, htg⟩
    exact ⟨t, (mem_close.mp ht).1, htg⟩
  · rintro ⟨t, ht, htg⟩
    exact ⟨t, mem_close.mpr ⟨ht, fun h => hg (htg.symm.trans h)⟩, htg⟩

namespace Tells

variable {log : List Event} {s : Session}

theorem start {c : Correlator Request Reply} (hc : c.Coherent) : Tells [] (start c) where
  coherent := hc
  begun := rfl
  unsent _ _ _ he := absurd he List.not_mem_nil
  tasks := by constructor <;> simp [Session.start]
  latest := by
    constructor <;> simp [Session.start, IsBusy, observed, shown, failure?]

theorem begin (h : Tells log s) : Tells (log ++ [.begun]) s.begin := by
  constructor
  · exact h.coherent
  · simp [Session.begin, publish, h.begun, Event.isBegun]
  · intro g hg
    refine unsent_append.mpr ⟨h.unsent g (Nat.lt_of_succ_lt hg), ?_⟩
    intro e he
    rw [List.mem_singleton.mp he]
    exact id
  · exact h.tasks.begin (h.unsent _ (Nat.lt_succ_self _))
  · have hb : s.begin.IsBusy :=
      ⟨⟨s.generation + 1, .begun⟩, List.mem_append_right _ (List.mem_singleton_self _), rfl⟩
    have hf : s.begin.failure? = none := by
      unfold failure?
      split
      · rename_i g e he
        have hle := h.latest.failure_le g e he
        have hne : g ≠ s.begin.generation := Nat.ne_of_lt (Nat.lt_succ_of_le hle)
        rw [if_neg hne]
      · rfl
    exact {
      failure_le := fun g e he => Nat.le_succ_of_le (h.latest.failure_le g e he)
      busy := fun _ => ⟨rfl, hf⟩
      ended := fun hn => absurd hb hn
      known := fun hn => absurd hb hn
      alone := fun hn => absurd hb hn }

/-- One update goes on to another phase. -/
theorem moved (h : Tells log s) {t : Task} (ht : t ∈ s.tasks) {c' : Correlator Request Reply}
    (hc : c'.Coherent) {more : List Event} (hm : more.countP Event.isBegun = 0)
    (hu : ∀ g, s.generation < g → Unsent g more) {phase : Phase}
    (own : Told (log ++ more) c' ⟨t.generation, phase⟩)
    (others : ∀ u ∈ s.tasks, u.generation ≠ t.generation →
      Told (log ++ more) c' u ∧ phase.Apart u.phase)
    (hp : ∀ e, phase = .failing e → t.generation = s.generation) :
    Tells (log ++ more) ({ s with correlator := c' }.move t.generation phase) where
  coherent := hc
  begun := by rw [List.countP_append, hm, Nat.add_zero]; exact h.begun
  unsent g hg := unsent_append.mpr ⟨h.unsent g hg, hu g hg⟩
  tasks := h.tasks.move ht phase own others
  latest := by
    refine h.latest.of_silent h.begun hm rfl h.latest.failure_le (isBusy_move _ _ _) ?_
    intro u hmem e he
    rcases mem_move.mp hmem with ⟨rfl, -⟩ | ⟨hmem, -⟩
    · exact .inr (hp e he)
    · exact .inl hmem

theorem send (h : Tells log s) {generation : Nat} (ht : ⟨generation, .begun⟩ ∈ s.tasks)
    (snapshot : Snapshot) (now : Calendar.Instant) :
    Tells (log ++ s.events (.send generation snapshot now))
      (s.act (.send generation snapshot now)) := by
  have hc := h.coherent.submit (Request.ofSnapshot snapshot now)
  have hres := fun call (hheld : call ∈ s.correlator.held) =>
    h.coherent.result?_submit (Request.ofSnapshot snapshot now) hheld
  have hunsent : Unsent generation log := h.tasks.told _ ht
  have hle : generation ≤ s.generation := h.tasks.le _ ht
  rcases Correlator.submit_cases s.correlator (Request.ofSnapshot snapshot now) with
    ⟨e, n, hs, -⟩ | hs
  · have hact : s.act (.send generation snapshot now) =
        { s with correlator := { s.correlator with nextId := n } }.move generation
          (.ended (.error e)) := by simp only [Session.act, Session.send, hs]
    have hevents : s.events (.send generation snapshot now) = [.refused generation e] := by
      simp only [events, hs]
    rw [hs] at hc hres
    rw [hact, hevents]
    refine h.moved ht hc rfl ?_ ?_ ?_ (fun _ => Phase.noConfusion)
    · intro g hg x hx
      rw [List.mem_singleton.mp hx]
      exact fun heq : generation = g => by omega
    · change fate generation (log ++ [.refused generation e]) = _
      rw [fate_append_of_unsent hunsent]
      simp [fate]
    · intro u hu hne
      refine ⟨(h.tasks.told u hu).append (fun heq => hne heq.symm) ?_, ?_⟩
      · intro call _ hheld
        exact ⟨hheld, by simp [ending, hres call hheld]⟩
      · cases u.phase <;> trivial
  · have hact : s.act (.send generation snapshot now) =
        { s with correlator := (s.correlator.submit (Request.ofSnapshot snapshot now)).2 }.move
          generation (.waiting s.correlator.nextId) := by
      simp only [Session.act, Session.send, hs]
    have hevents : s.events (.send generation snapshot now) =
        [.accepted generation s.correlator.nextId] := by simp only [events, hs]
    have hheld : ∀ {call}, call ∈ s.correlator.held →
        call ∈ (s.correlator.submit (Request.ofSnapshot snapshot now)).2.held := by
      rw [hs]
      exact fun hheld => List.mem_append_left _ hheld
    rw [hact, hevents]
    refine h.moved ht hc rfl ?_ ?_ ?_ (fun _ => Phase.noConfusion)
    · intro g hg x hx
      rw [List.mem_singleton.mp hx]
      exact fun heq : generation = g => by omega
    · refine ⟨⟨log, [], rfl, hunsent⟩, ?_, ?_⟩
      · rw [hs]
        exact List.mem_append_right _ (List.mem_singleton_self _)
      · rw [fate_append_of_unsent hunsent, (hc.result?_eq_none_iff _).mpr]
        · simp [fate]
        · rw [hs]
          exact List.mem_append_right _ (List.mem_singleton_self _)
    · intro u hu hne
      refine ⟨(h.tasks.told u hu).append (fun heq => hne heq.symm) ?_, ?_⟩
      · intro call _ hold
        exact ⟨hheld hold, by simp [ending, hres call hold]⟩
      · have htold := h.tasks.told u hu
        unfold Told at htold
        cases hp : u.phase with
        | waiting call =>
          rw [hp] at htold
          have hlt := h.coherent.held_lt call htold.2.1
          exact fun heq : s.correlator.nextId = call => by omega
        | begun | ended _ | failing _ => trivial

theorem collect (h : Tells log s) {t : Task} {call : Nat} (ht : t ∈ s.tasks)
    (hp : t.phase = .waiting call) : Tells log (s.collect t.generation call) := by
  unfold Session.collect Correlator.poll
  cases hr : s.correlator.result? call with
  | none => exact h
  | some outcome =>
    have htold := h.tasks.told t ht
    unfold Told at htold
    rw [hp] at htold
    rw [← List.append_nil log]
    refine h.moved ht (h.coherent.forget call) rfl (fun _ _ _ hx => absurd hx List.not_mem_nil)
      ?_ ?_ (fun _ => Phase.noConfusion)
    · rw [List.append_nil]
      exact htold.2.2.trans hr
    · intro u hu hne
      have hapart := (h.tasks.apart.forall ht hu (fun heq => hne (heq ▸ rfl))).2
      rw [List.append_nil]
      refine ⟨(h.tasks.told u hu).of_result ?_, ?_⟩
      · intro other hup hheld
        rw [hp, hup] at hapart
        have hne : other ≠ call := Ne.symm hapart
        refine ⟨List.mem_filter.mpr ⟨hheld, by simpa using hne⟩, ?_⟩
        exact Correlator.result?_forget s.correlator hne
      · cases u.phase <;> trivial

/-- An update that is not the latest one ends unseen. -/
theorem superseded (h : Tells log s) {generation : Nat} (hg : s.generation ≠ generation)
    {s' : Session} (hc : s'.correlator = s.correlator)
    (htasks : s'.tasks = (s.close generation).tasks) (ho : s'.observed = s.observed)
    (hf : ∀ g e, s'.failure = some (g, e) → g ≤ s.generation) : Tells log s' := by
  have hgen : s'.generation = s.generation := congrArg Prod.fst ho
  have hbusy : s'.IsBusy ↔ s.IsBusy := by
    rw [← isBusy_close hg]
    simp only [IsBusy, htasks, hgen, close]
  constructor
  · exact hc ▸ h.coherent
  · exact hgen.trans h.begun
  · exact fun g hlt => h.unsent g (hgen ▸ hlt)
  · rw [hc, hgen, htasks]
    exact h.tasks.close generation
  · rw [← List.append_nil log]
    refine h.latest.of_silent h.begun rfl ho hf hbusy ?_
    intro u hu e _
    rw [htasks] at hu
    exact .inl (mem_close.mp hu).1

/-- What becomes of the latest update shows when that is over. -/
theorem finished (h : Tells log s) {t : Task} (ht : t ∈ s.tasks)
    (hg : s.generation = t.generation) {s' : Session} {outcome : Except CallError Reply}
    (hfate : fate t.generation log = some outcome)
    (hc : s'.correlator = s.correlator) (hgen : s'.generation = s.generation)
    (htasks : s'.tasks = (s.close t.generation).tasks)
    (hobs : s'.observed = display t.generation (some outcome))
    (hfail : ∀ g e, s'.failure = some (g, e) → g ≤ s.generation)
    (halone : s'.failure? ≠ none → ∀ u ∈ s'.tasks, ∀ e, u.phase ≠ .failing e) :
    Tells log s' where
  coherent := hc ▸ h.coherent
  begun := hgen.trans h.begun
  unsent g hlt := h.unsent g (hgen ▸ hlt)
  tasks := by
    rw [hc, hgen, htasks]
    exact h.tasks.close t.generation
  latest := by
    have hpos : 0 < s.generation := hg ▸ h.tasks.pos t ht
    have hidle : ¬ s'.IsBusy := by
      rintro ⟨u, hu, hug⟩
      rw [htasks] at hu
      exact (mem_close.mp hu).2 (hug.trans (hgen.trans hg))
    constructor
    · rw [hgen]
      exact hfail
    · exact fun hb => absurd hb hidle
    · intro _
      rw [hobs, shown_of_fate h.begun hpos, hg, hfate]
    · intro _
      rw [hgen, hg, hfate]
      exact .inr rfl
    · exact fun _ => halone

end Tells

end RuleBench.Session
