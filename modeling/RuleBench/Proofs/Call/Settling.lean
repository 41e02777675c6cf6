import Mathlib.Algebra.Order.BigOperators.Group.List
import Mathlib.Algebra.Order.Ring.Nat
import RuleBench.Proofs.Call.Service
import RuleBench.Report

set_option autoImplicit false

/-!
# Services come to rest

After the last update, whatever goes on in the background makes what is left to do less, and as long
as the one who waits has no outcome there is something left to do.  So one who waits gets the state
that comes of the last snapshot, in whatever order things happen.
-/

namespace RuleBench.Service

variable {α : Type}

/-- The caller makes no update. -/
def Action.IsBackground : Action → Prop
  | .begin => False
  | .send _ _ => False
  | _ => True

/-- Something is done that makes a difference, and no update is made. -/
def Goes (u : EvaluationUnit α) (v : Service) (a : Action) : Prop :=
  a.IsBackground ∧ v.Permits a ∧ v.act u a ≠ v

/-- Whichever way things go on, they do go on until this holds. -/
inductive Inevitable (u : EvaluationUnit α) (P : Service → Prop) : Service → Prop where
  | now {v : Service} (h : P v) : Inevitable u P v
  | later {v : Service} (some : ∃ a, Goes u v a)
      (all : ∀ a, Goes u v a → Inevitable u P (v.act u a)) : Inevitable u P v

theorem Inevitable.mono {u : EvaluationUnit α} {P Q : Service → Prop} {v : Service}
    (h : Inevitable u P v) (hPQ : ∀ v, P v → Q v) : Inevitable u Q v := by
  induction h with
  | now h => exact .now (hPQ _ h)
  | later some _ ih => exact .later some ih

/-! ## What is left to do -/

def taskWork (t : Task) : Nat :=
  match t.phase with
  | .waiting _ => 2
  | _ => 1

def waiterWork : Option Session.Wait → Nat
  | none => 2
  | some (.waiting _) => 1
  | some (.ended _) => 0

/-- A request is taken, answered and dispatched; a reply is collected and published. -/
def work (v : Service) : Nat :=
  3 * v.session.correlator.channel.requests.length + 2 * v.serving.inHand.length +
    v.session.correlator.channel.replies.length + (v.session.tasks.map taskWork).sum +
    waiterWork v.waiter

theorem taskWork_pos (t : Task) : 0 < taskWork t := by
  unfold taskWork
  split <;> omega

theorem sum_taskWork_filter_lt {tasks : List Task} {p : Task → Bool} {t : Task} (ht : t ∈ tasks)
    (hp : p t = false) : ((tasks.filter p).map taskWork).sum < (tasks.map taskWork).sum := by
  have hsplit := ((List.filter_append_perm p tasks).map taskWork).sum_eq
  rw [List.map_append, List.sum_append] at hsplit
  have hout : taskWork t ∈ (tasks.filter fun t => !p t).map taskWork :=
    List.mem_map_of_mem (List.mem_filter.mpr ⟨ht, by rw [hp]; rfl⟩)
  have hle := List.le_sum_of_mem hout
  have hpos := taskWork_pos t
  omega

theorem sum_taskWork_move_lt {s : Session} {t : Task} (ht : t ∈ s.tasks) (phase : Session.Phase)
    (hwork : taskWork ⟨t.generation, phase⟩ < taskWork t)
    (unique : ∀ u ∈ s.tasks, u.generation = t.generation → u = t) :
    ((s.move t.generation phase).tasks.map taskWork).sum < (s.tasks.map taskWork).sum := by
  have hmap : (s.move t.generation phase).tasks.map taskWork = s.tasks.map fun u =>
      taskWork (if u.generation = t.generation then { u with phase } else u) := List.map_map
  rw [hmap]
  refine List.sum_lt_sum _ _ ?_ ⟨t, ht, by rwa [if_pos rfl]⟩
  intro u hu
  split
  · rename_i hg
    rw [unique u hu hg]
    exact Nat.le_of_lt hwork
  · exact Nat.le_refl _

namespace Kept

variable {u : EvaluationUnit α} {asked : List Asked} {log : List Session.Event} {v : Service}

theorem work_advance_lt (h : Kept u asked log v) {t : Task} (ht : t ∈ v.session.tasks)
    (changes : v.act u (.advance t) ≠ v) : (v.act u (.advance t)).work < v.work := by
  have hact : v.act u (.advance t) = { v with session := v.session.advance t } := rfl
  rw [hact] at changes ⊢
  rcases h.advance_cases ht with ⟨-, hs⟩ | ⟨call, outcome, hp, hs⟩ | ⟨reply, hp, hs⟩
  · rw [hs] at changes
    exact absurd rfl changes
  · have unique (b : Task) (hb : b ∈ v.session.tasks) (hg : b.generation = t.generation) : b = t := by
      by_contra hne
      exact (h.tells.tasks.apart.forall hb ht hne).1 hg
    have hlt := sum_taskWork_move_lt ht (.ended outcome)
      (by simp only [taskWork, hp, Nat.lt_succ_self]) unique
    rw [hs]
    unfold work
    exact Nat.add_lt_add_right (Nat.add_lt_add_left hlt _) _
  · have hlt := sum_taskWork_filter_lt (p := fun b => b.generation != t.generation) ht (by simp)
    have hsame : { v with session := v.session.advance t }.work =
        { v with session := v.session.close t.generation }.work := by
      rw [hs]
      unfold Session.publishFor
      split <;> rfl
    rw [hsame]
    unfold work
    exact Nat.add_lt_add_right (Nat.add_lt_add_left hlt _) _

theorem work_dispatch_lt (h : Kept u asked log v) (changes : v.act u .dispatch ≠ v) :
    (v.act u .dispatch).work < v.work := by
  have hact : v.act u .dispatch =
      { v with session := { v.session with correlator := v.session.correlator.dispatch } } := rfl
  rw [hact] at changes ⊢
  rcases v.session.correlator.dispatch_cases with ⟨e, rest, -, hr, hd⟩ | ⟨-, -, hs, -⟩ | ⟨-, hd⟩
  · obtain ⟨pending, delivered, hresolve, -⟩ := Flow.exists_resolve
      { v.session.correlator with
        channel := { v.session.correlator.channel with replies := rest } } e
    rw [hd, hresolve]
    simp only [work, hr, List.length_cons]
    omega
  · rw [h.flow.sends] at hs
    cases hs
  · rw [hd] at changes
    exact absurd rfl changes

/-- One who looks again finds out that the latest generation has ended, if it has. -/
theorem resume_eq (h : Kept u asked log v) {w : Session.Waiter}
    (hw : v.waiter = some (.waiting w)) :
    v.session.resume w = if v.session.state.isLoading then .waiting w
      else .ended (.ok v.session.state) := by
  obtain ⟨hfailed, hstate⟩ := h.waits w hw
  unfold Session.resume
  split
  · rename_i hseen
    rw [if_pos (hstate.mp hseen.1)]
  · rename_i hunseen
    have hloaded : ¬ v.session.state.isLoading = true :=
      fun hloading => hunseen ⟨hstate.mpr hloading, hfailed⟩
    rw [Session.wait, Session.settled?, if_neg hloaded, if_neg hloaded]

theorem work_resume_lt (h : Kept u asked log v) (changes : v.act u .resume ≠ v) :
    (v.act u .resume).work < v.work := by
  have hact : v.act u .resume = v.resume := rfl
  rw [hact] at changes ⊢
  cases hw : v.waiter with
  | none => exact absurd (by simp only [Service.resume, hw]) changes
  | some x =>
    cases x with
    | ended r => exact absurd (by simp only [Service.resume, hw]) changes
    | waiting w =>
      have hresume : v.resume = { v with waiter := some (v.session.resume w) } := by
        simp only [Service.resume, hw]
      rw [hresume, h.resume_eq hw] at changes ⊢
      split at changes
      · rw [← hw] at changes
        exact absurd rfl changes
      · rename_i hloaded
        simp only [work, if_neg hloaded, hw, waiterWork]
        omega

theorem work_lt (h : Kept u asked log v) {a : Action} (goes : Goes u v a) :
    (v.act u a).work < v.work := by
  obtain ⟨background, ok, changes⟩ := goes
  cases a with
  | begin | send _ _ => exact background.elim
  | advance t => exact h.work_advance_lt ok.1 changes
  | dispatch => exact h.work_dispatch_lt changes
  | take =>
    simp only [Service.act] at changes ⊢
    rcases v.take_cases with ⟨e, rest, hs, hr, ht, hc⟩ | ⟨-, ht⟩
    · rw [ht]
      simp only [work, Session.act, Correlator.act, hc, hs, hr, Serving.inHand, List.length_cons,
        List.length_nil]
      omega
    · exact absurd ht changes
  | answer =>
    simp only [Service.act] at changes ⊢
    rcases v.answer_cases h.flow with ⟨e, hs, ha, hc⟩ | ⟨-, ha⟩
    · rw [ha]
      simp only [work, Session.act, Correlator.act, hc, hs, Serving.inHand, List.length_append,
        List.length_cons, List.length_nil]
      omega
    · exact absurd ha changes
  | wait =>
    have hless (w : Session.Wait) : waiterWork (some w) < waiterWork none := by
      cases w <;> simp [waiterWork]
    simp only [work, Service.act, ok.2]
    exact Nat.add_lt_add_left (hless _) _
  | resume => exact h.work_resume_lt changes

/-! ## When nothing is left to do -/

theorem generation_act (h : Kept u asked log v) {a : Action} (background : a.IsBackground)
    (ok : v.Permits a) : (v.act u a).session.generation = v.session.generation := by
  cases a with
  | begin | send _ _ => exact background.elim
  | advance t =>
    have hact : (v.act u (.advance t)).session = v.session.advance t := rfl
    rw [hact]
    rcases h.advance_cases ok.1 with ⟨-, hs⟩ | ⟨_, _, -, hs⟩ | ⟨_, -, hs⟩
    · rw [hs]
    · rw [hs]
      rfl
    · rw [hs]
      unfold Session.publishFor
      split <;> rfl
  | take =>
    simp only [Service.act]
    rcases v.take_cases with ⟨_, _, -, -, ht, -⟩ | ⟨-, ht⟩
    · rw [ht]
      rfl
    · rw [ht]
  | answer =>
    simp only [Service.act]
    rcases v.answer_cases h.flow with ⟨_, -, ha, -⟩ | ⟨-, ha⟩
    · rw [ha]
      rfl
    · rw [ha]
  | resume =>
    simp only [Service.act, Service.resume]
    split <;> rfl
  | dispatch | wait => rfl

/-- Nothing that goes on in the background begins an update. -/
theorem exists_act (h : Kept u asked log v) (quiet : ¬ v.IsUpdating) {a : Action}
    (goes : Goes u v a) : ∃ log', Kept u asked log' (v.act u a) ∧ ¬ (v.act u a).IsUpdating := by
  obtain ⟨background, ok, -⟩ := goes
  obtain ⟨more, hnext⟩ := h.act ok
  have hasked : asked ++ a.asked = asked := by
    cases a with
    | send _ _ => exact background.elim
    | begin | advance _ | dispatch | take | answer | wait | resume => exact List.append_nil asked
  rw [hasked] at hnext
  refine ⟨_, hnext, fun updating => ?_⟩
  have hgen := h.generation_act background ok
  have hsent := h.sent quiet
  have hunsent := hnext.unsent updating
  omega

section Stuck

variable (h : Kept u asked log v)
  (same : ∀ a : Action, a.IsBackground → v.Permits a → v.act u a = v)

include h same

theorem serving_of_stuck : v.serving = .idle := by
  rcases v.answer_cases h.flow with ⟨e, hs, ha, -⟩ | ⟨hno, -⟩
  · have hidle := congrArg Service.serving (ha.symm.trans (same .answer trivial trivial))
    exact hidle.symm
  · cases hs : v.serving with
    | idle => rfl
    | working e => exact absurd hs (hno e)
    | stopped => exact absurd hs h.flow.serves

theorem requests_of_stuck : v.session.correlator.channel.requests = [] := by
  rcases v.take_cases with ⟨e, rest, hs, -, ht, -⟩ | ⟨hnone, -⟩
  · have hworking := congrArg Service.serving (ht.symm.trans (same .take trivial trivial))
    cases hworking.trans hs
  · exact hnone (h.serving_of_stuck same)

theorem replies_of_stuck : v.session.correlator.channel.replies = [] := by
  have hsame : v.session.correlator.dispatch = v.session.correlator :=
    congrArg (fun w => w.session.correlator) (same .dispatch trivial trivial)
  rcases v.session.correlator.dispatch_cases with ⟨e, rest, -, hr, hd⟩ | ⟨-, hr, -⟩ | ⟨hidle, -⟩
  · obtain ⟨pending, delivered, hresolve, -⟩ := Flow.exists_resolve
      { v.session.correlator with
        channel := { v.session.correlator.channel with replies := rest } } e
    rw [hd, hresolve] at hsame
    have hrest : rest = e :: rest := (congrArg (fun c => c.channel.replies) hsame).trans hr
    exact absurd hrest.symm (List.cons_ne_self e rest)
  · exact hr
  · simpa [Correlator.isIdle, h.flow.listens, h.flow.sends] using hidle

theorem flow_of_stuck : v.received = numbered asked ∧ v.session.correlator.pending = [] := by
  obtain ⟨done, queued, hsent, hreceived, hreplies, hpending⟩ := h.flow.row
  rw [h.replies_of_stuck same] at hreplies
  obtain rfl := List.map_eq_nil_iff.mp hreplies.symm
  rw [h.serving_of_stuck same, h.requests_of_stuck same] at hsent hpending
  rw [h.serving_of_stuck same] at hreceived
  refine ⟨hreceived.trans hsent.symm, List.eq_nil_iff_forall_not_mem.mpr fun id hid => ?_⟩
  obtain ⟨e, he, -⟩ := hpending id hid
  exact List.not_mem_nil he

theorem not_isBusy_of_stuck (quiet : ¬ v.IsUpdating) : ¬ v.session.IsBusy := by
  rintro ⟨t, ht, hg⟩
  have hsame (lock : ∀ e, t.phase ≠ .ended (.error e)) : v.session.advance t = v.session :=
    congrArg Service.session
      (same (.advance t) trivial ⟨ht, fun e he => absurd he (lock e)⟩)
  rcases h.advance_cases ht with ⟨hp | ⟨call, hp, hr⟩, -⟩ | ⟨call, outcome, hp, hs⟩ |
    ⟨reply, hp, hs⟩
  · exact quiet (isUpdating_of_mem ht hp hg)
  · have hpending := (h.tells.coherent.result?_eq_none_iff call).mp hr
    rw [(h.flow_of_stuck same).2] at hpending
    exact List.not_mem_nil hpending
  · have hmoved : t ∈ (v.session.advance t).tasks :=
      (hsame fun e he => nomatch hp.symm.trans he).symm ▸ ht
    rw [hs] at hmoved
    rcases Session.mem_move.mp hmoved with ⟨heq, -⟩ | ⟨-, hne⟩
    · rw [heq] at hp
      cases hp
    · exact hne rfl
  · have hclosed : t ∈ (v.session.advance t).tasks :=
      (hsame fun e he => nomatch hp.symm.trans he).symm ▸ ht
    have htasks : (v.session.advance t).tasks = (v.session.close t.generation).tasks := by
      rw [hs]
      unfold Session.publishFor
      split <;> rfl
    rw [htasks] at hclosed
    exact (Session.mem_close.mp hclosed).2 rfl

theorem waiter_of_stuck (quiet : ¬ v.IsUpdating) {x : Asked} (hx : asked.getLast? = some x) :
    v.waiter = some (.ended (.ok (direct u x))) := by
  have hsettled := h.settled?_of_not_isBusy quiet (h.not_isBusy_of_stuck same quiet) hx
  cases hw : v.waiter with
  | none =>
    have hwait := congrArg Service.waiter (same .wait trivial ⟨quiet, hw⟩)
    exact nomatch hwait.trans hw
  | some wait =>
    cases wait with
    | ended r =>
      obtain ⟨y, hy, rfl⟩ := h.ended r hw
      rw [hx] at hy
      rw [Option.some.inj hy]
    | waiting w =>
      have hresume : v.resume.waiter = v.waiter :=
        congrArg Service.waiter (same .resume trivial trivial)
      have hloaded : ¬ v.session.state.isLoading = true := by
        intro hloading
        rw [Session.settled?, if_pos hloading] at hsettled
        cases hf : v.session.failure? <;> rw [hf] at hsettled <;> cases hsettled
      simp only [Service.resume, hw, h.resume_eq hw, if_neg hloaded] at hresume
      cases hresume

end Stuck

/-- After the last update, one who waits gets the state that comes of the last snapshot. -/
theorem inevitable (h : Kept u asked log v) (quiet : ¬ v.IsUpdating) {x : Asked}
    (hx : asked.getLast? = some x) :
    Inevitable u (fun w => w.received = numbered asked ∧
      w.waiter = some (.ended (.ok (direct u x)))) v := by
  -- By induction on what is left to do; the states that follow keep what this one keeps.
  generalize hn : v.work = n
  induction n using Nat.strongRecOn generalizing v log with
  | ind n ih =>
    by_cases going : ∃ a, Goes u v a
    · refine .later going fun a goes => ?_
      obtain ⟨_, hnext, hquiet⟩ := h.exists_act quiet goes
      exact ih _ (hn ▸ h.work_lt goes) hnext hquiet rfl
    · have same (a : Action) (background : a.IsBackground) (ok : v.Permits a) : v.act u a = v := by
        by_contra changes
        exact going ⟨a, background, ok, changes⟩
      exact .now ⟨(h.flow_of_stuck same).1, h.waiter_of_stuck same quiet hx⟩

end Kept

/-- Snapshots are handed over one after another, while the unit, the dispatcher and the updates go
on as they like.  The unit receives one request for each snapshot, in that order.  Whoever waits
after the last update gets, sooner or later and whatever happens first, the state that comes of the
last snapshot when the unit is asked about it alone, and so the same validation and report.  Any
snapshots can be handed over so. -/
theorem wait_ends_with_direct_evaluation (u : EvaluationUnit α) (earlier : List Asked)
    (snapshot : Snapshot) (now : Calendar.Instant) :
    (∃ v, Run u (earlier ++ [(snapshot, now)]) v ∧ ¬ v.IsUpdating ∧ v.waiter = none) ∧
    ∀ v, Run u (earlier ++ [(snapshot, now)]) v → ¬ v.IsUpdating →
      v.received ++ v.session.correlator.channel.requests =
        numbered (earlier ++ [(snapshot, now)]) ∧
      (∀ r, v.session.settled? = some r ∨ v.waiter = some (.ended r) →
        r = .ok (.ofReply (u.reply (.ofSnapshot snapshot now)))) ∧
      Inevitable u (fun w => w.received = numbered (earlier ++ [(snapshot, now)]) ∧
        ∃ state, w.waiter = some (.ended (.ok state)) ∧
          Report.ofState snapshot state =
            ⟨.ofReply (u.reply (.ofSnapshot snapshot now)),
              Validation.ofState? snapshot (.ofReply (u.reply (.ofSnapshot snapshot now)))⟩) v := by
  refine ⟨exists_run u _, fun v h quiet => ?_⟩
  obtain ⟨log, hkept⟩ := Kept.run h
  have hlast : (earlier ++ [(snapshot, now)]).getLast? = some (snapshot, now) :=
    List.getLast?_concat
  refine ⟨?_, ?_, ?_⟩
  · obtain ⟨done, queued, hsent, hreceived, -⟩ := hkept.flow.row
    rw [hsent, hreceived]
    simp only [List.append_assoc]
  · intro r hr
    obtain ⟨x, hx, rfl⟩ := hr.elim (hkept.isOutcome_of_settled? quiet) (hkept.ended r)
    obtain rfl := Option.some.inj (hlast.symm.trans hx)
    rfl
  · refine (hkept.inevitable quiet hlast).mono fun w ⟨hreceived, hwaiter⟩ => ⟨hreceived, ?_⟩
    exact ⟨_, hwaiter, rfl⟩

/-- The second snapshot is handed over while the unit is at work on the first one, which it cannot
read. -/
theorem wait_ends_with_second_of_two : ∃ v : Service,
    Run (⟨.basic, false⟩ : EvaluationUnit Expr)
      [(⟨"", "", []⟩, ⟨default, 0, 0, 0⟩), (⟨"{}", "{}", []⟩, ⟨default, 0, 0, 0⟩)] v ∧
    ¬ v.IsUpdating ∧
    Inevitable (⟨.basic, false⟩ : EvaluationUnit Expr) (fun w => w.received.length = 2 ∧
      w.waiter = some (.ended (.ok (.success ⟨[], []⟩)))) v := by
  have first := ((Run.start (u := (⟨.basic, false⟩ : EvaluationUnit Expr))).step .begin
    ⟨nofun, rfl⟩).step (.send ⟨"", "", []⟩ ⟨default, 0, 0, 0⟩) (.head _)
  have second := ((first.step .take trivial).step .begin ⟨nofun, rfl⟩).step
    (.send ⟨"{}", "{}", []⟩ ⟨default, 0, 0, 0⟩) (.tail _ (.head _))
  obtain ⟨v, hrun, quiet⟩ : ∃ v : Service, Run (⟨.basic, false⟩ : EvaluationUnit Expr)
      ([(⟨"", "", []⟩, ⟨default, 0, 0, 0⟩)] ++ [(⟨"{}", "{}", []⟩, ⟨default, 0, 0, 0⟩)]) v ∧
      ¬ v.IsUpdating := ⟨_, second, nofun⟩
  obtain ⟨-, hall⟩ := wait_ends_with_direct_evaluation _ _ _ _
  obtain ⟨-, -, hends⟩ := hall v hrun quiet
  refine ⟨v, hrun, quiet, hends.mono fun w ⟨hreceived, state, hwaiter, hreport⟩ => ⟨?_, ?_⟩⟩
  · rw [hreceived]
    rfl
  · rw [hwaiter, show state = _ from congrArg Report.state hreport]
    rfl

end RuleBench.Service
