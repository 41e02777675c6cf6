import RuleBench.Proofs.Call.Publication

set_option autoImplicit false

/-!
# Waiting for the latest generation to end

One who waits looks at the state, at the failure recorded last and at the number of the latest
generation, one after the other, and sleeps until a newer state or failure is published.  Anything
may happen between two looks.  Still nobody sleeps through the end of the latest generation, and
nobody is told how an earlier one has ended.
-/

namespace RuleBench.Session

/-- How far one has got who waits. -/
inductive Await where
  /-- The state is looked at next. -/
  | looks
  /-- The state was `loading` in this version. -/
  | sawLoading (stateVersion : Nat)
  /-- This was the failure recorded last; it is not known whether it is that of the latest
  generation. -/
  | sawFailure (w : Waiter) (failure : Option (Nat × CallError))
  /-- There is nothing to look at but what is newer than these versions. -/
  | sleeps (w : Waiter)
  | ended (result : Except CallError EvaluationState)

theorem wait_eq (s : Session) : s.wait =
    if s.state.isLoading then
      match s.failure? with
      | some e => .ended (.error e)
      | none => .waiting ⟨s.stateVersion, s.failureVersion⟩
    else .ended (.ok s.state) := by
  unfold wait settled?
  cases s.state.isLoading with
  | true => cases s.failure? <;> rfl
  | false => rfl

theorem settled?_eq_some_of_wait {s : Session} {result : Except CallError EvaluationState}
    (h : s.wait = .ended result) : s.settled? = some result := by
  unfold wait at h
  split at h
  · cases h
    assumption
  · cases h

theorem settled?_eq_none_of_wait {s : Session} {w : Waiter} (h : s.wait = .waiting w) :
    s.settled? = none := by
  unfold wait at h
  split at h
  · cases h
  · assumption

namespace Await

def ofWait : Wait → Await
  | .ended result => ended result
  | .waiting w => sleeps w

def look (s : Session) : Await → Await
  | looks => if s.state.isLoading then sawLoading s.stateVersion else ended (.ok s.state)
  | sawLoading v => sawFailure ⟨v, s.failureVersion⟩ s.failure
  | sawFailure w (some (generation, e)) =>
    if generation = s.generation then ended (.error e) else sleeps w
  | sawFailure w none => sleeps w
  | sleeps w =>
    if w.stateVersion = s.stateVersion ∧ w.failureVersion = s.failureVersion then sleeps w
    else looks
  | ended result => ended result

/-- Looks again and again, while nothing else happens, until there is nothing to look at. -/
inductive Polls (s : Session) : Await → Await → Prop where
  | rest {x : Await} (h : x.look s = x) : Polls s x x
  | look {x y : Await} (h : Polls s (x.look s) y) : Polls s x y

theorem Polls.eq_of_rests {s : Session} {x y : Await} (h : Polls s x y) (hx : x.look s = x) :
    y = x := by
  induction h with
  | rest _ => rfl
  | look _ ih =>
    rw [hx] at ih
    exact ih hx

theorem Polls.unique {s : Session} {x y z : Await} (h : Polls s x y) (h' : Polls s x z) : z = y := by
  induction h with
  | rest hx => exact h'.eq_of_rests hx
  | look h ih =>
    cases h' with
    | rest hx => exact (h.eq_of_rests (by rw [hx, hx]) |>.trans hx).symm
    | look h' => exact ih h'

theorem ofWait_injective : Function.Injective ofWait := by
  rintro (_ | _) (_ | _) h <;> cases h <;> rfl

theorem look_ofWait (s : Session) : (ofWait s.wait).look s = ofWait s.wait := by
  unfold wait
  split
  · rfl
  · exact if_pos ⟨rfl, rfl⟩

theorem look_sawFailure (s : Session) (w : Waiter) : (sawFailure w s.failure).look s =
    match s.failure? with
    | some e => ended (.error e)
    | none => sleeps w := by
  unfold failure?
  cases s.failure with
  | none => rfl
  | some p =>
    by_cases hg : p.1 = s.generation
    · simp only [look, if_pos hg]
    · simp only [look, if_neg hg]

/-- One who starts to wait is answered at once, or sleeps. -/
theorem polls_looks (s : Session) : Polls s looks (ofWait s.wait) := by
  cases hl : s.state.isLoading with
  | false =>
    have hlook : looks.look s = ended (.ok s.state) := by simp [look, hl]
    rw [wait_eq, hl]
    exact .look (hlook ▸ .rest rfl)
  | true =>
    have hlook : looks.look s = sawLoading s.stateVersion := if_pos hl
    refine .look (hlook ▸ .look (.look ?_))
    have hrest := look_ofWait s
    rw [wait_eq, if_pos hl] at hrest ⊢
    change Polls s ((sawFailure ⟨s.stateVersion, s.failureVersion⟩ s.failure).look s) _
    rw [look_sawFailure]
    revert hrest
    cases s.failure? <;> exact .rest

end Await

/-! ## What looks have found -/

/-- One session is a later one than another: a state and a generation, and a failure, are the same
as long as their versions are. -/
structure Later (s s' : Session) : Prop where
  stateVersion_le : s.stateVersion ≤ s'.stateVersion
  failureVersion_le : s.failureVersion ≤ s'.failureVersion
  same : s'.stateVersion = s.stateVersion → s'.generation = s.generation ∧ s'.state = s.state
  same_failure : s'.failureVersion = s.failureVersion → s'.failure = s.failure

theorem later_act (s : Session) (a : Action) : Later s (s.act a) := by
  generalize hs : s.act a = s'
  cases hs ▸ effect_act s a with
  | begins | publishes =>
    exact ⟨Nat.le_succ _, Nat.le_refl _, fun h => absurd h (Nat.succ_ne_self _), fun _ => rfl⟩
  | records =>
    exact ⟨Nat.le_refl _, Nat.le_succ _, fun _ => ⟨rfl, rfl⟩, fun h => absurd h (Nat.succ_ne_self _)⟩
  | quiet q =>
    exact ⟨Nat.le_of_eq q.stateVersion.symm, Nat.le_of_eq q.failureVersion.symm,
      fun _ => ⟨q.generation, q.state⟩, fun _ => q.failure⟩

theorem Later.settled? {s s' : Session} (h : Later s s')
    (hs : s'.stateVersion = s.stateVersion) (hf : s'.failureVersion = s.failureVersion) :
    s'.settled? = s.settled? := by
  obtain ⟨hg, hstate⟩ := h.same hs
  simp only [Session.settled?, failure?, hg, hstate, h.same_failure hf]

/-- This version of the state was `loading`. -/
def LoadingAt (s : Session) (v : Nat) : Prop :=
  v ≤ s.stateVersion ∧ (v = s.stateVersion → s.state.isLoading = true)

theorem LoadingAt.later {s s' : Session} {v : Nat} (h : s.LoadingAt v) (l : Later s s') :
    s'.LoadingAt v := by
  refine ⟨Nat.le_trans h.1 l.stateVersion_le, fun hv => ?_⟩
  have hs : s'.stateVersion = s.stateVersion :=
    Nat.le_antisymm (hv ▸ h.1) l.stateVersion_le
  rw [(l.same hs).2]
  exact h.2 (hv.trans hs)

/-- What one who waits has found, by what was recorded so far. -/
def Await.Found (past : List Turn) (s : Session) : Await → Prop
  | .looks => True
  | .sawLoading v => s.LoadingAt v
  | .sawFailure w failure => s.LoadingAt w.stateVersion ∧ w.failureVersion ≤ s.failureVersion ∧
      (w.failureVersion = s.failureVersion → s.failure = failure) ∧
      ∀ p ∈ failure, p ∈ recorded past
  | .sleeps w => w.stateVersion ≤ s.stateVersion ∧ w.failureVersion ≤ s.failureVersion ∧
      (w.stateVersion = s.stateVersion → w.failureVersion = s.failureVersion → s.settled? = none)
  | .ended _ => True

/-- Somebody starts to wait at any point of a course, and looks at any time since. -/
inductive Waits (c : Correlator Request Reply) : List Turn → Session → Await → Prop where
  | start {past : List Turn} {s : Session} (h : Course c past s) : Waits c past s .looks
  | look {past : List Turn} {s : Session} {x : Await} (h : Waits c past s x) :
      Waits c past s (x.look s)
  | step {past : List Turn} {s : Session} {x : Await} (h : Waits c past s x) (a : Action)
      (ok : s.Permits a) : Waits c (past ++ [⟨s, a⟩]) (s.act a) x

theorem Waits.course {c : Correlator Request Reply} {past : List Turn} {s : Session} {x : Await}
    (h : Waits c past s x) : Course c past s := by
  induction h with
  | start h => exact h
  | look _ ih => exact ih
  | step _ a ok ih => exact ih.step a ok

namespace Await.Found

variable {past : List Turn} {s : Session} {x : Await}

theorem later (h : x.Found past s) (a : Action) : x.Found (past ++ [⟨s, a⟩]) (s.act a) := by
  have l := later_act s a
  cases x with
  | looks => trivial
  | sawLoading v => exact LoadingAt.later h l
  | sawFailure w failure =>
    obtain ⟨hloading, hle, hfailure, hrecorded⟩ := h
    refine ⟨hloading.later l, Nat.le_trans hle l.failureVersion_le, fun hv => ?_, fun p hp => ?_⟩
    · have hf := Nat.le_antisymm (hv ▸ hle) l.failureVersion_le
      rw [l.same_failure hf]
      exact hfailure (hv.trans hf)
    · rw [recorded, List.filterMap_append]
      exact List.mem_append_left _ (hrecorded p hp)
  | sleeps w =>
    obtain ⟨hsle, hfle, hnone⟩ := h
    refine ⟨Nat.le_trans hsle l.stateVersion_le, Nat.le_trans hfle l.failureVersion_le, ?_⟩
    intro hs hf
    have hs' := Nat.le_antisymm (hs ▸ hsle) l.stateVersion_le
    have hf' := Nat.le_antisymm (hf ▸ hfle) l.failureVersion_le
    rw [l.settled? hs' hf']
    exact hnone (hs.trans hs') (hf.trans hf')
  | ended result => trivial

theorem look (h : x.Found past s) (failures : Failures past s) : (x.look s).Found past s := by
  cases x with
  | looks =>
    simp only [Await.look]
    split
    · rename_i hl
      exact ⟨Nat.le_refl _, fun _ => hl⟩
    · trivial
  | sawLoading v =>
    exact ⟨h, Nat.le_refl _, fun _ => rfl, fun p hp => List.mem_of_getLast? (failures.last.trans hp)⟩
  | sawFailure w failure =>
    obtain ⟨⟨hsle, hloading⟩, hfle, hfailure, -⟩ := h
    -- Should the state or the failure be newer than what was seen, the sleeper looks again.
    have hsleeps (hnone : s.failure = failure → s.failure? = none) :
        (sleeps w).Found past s := by
      refine ⟨hsle, hfle, fun hs hf => ?_⟩
      rw [settled?, if_pos (hloading hs), hnone (hfailure hf)]
      rfl
    cases failure with
    | none => exact hsleeps fun hf => by simp [failure?, hf]
    | some p =>
      simp only [Await.look]
      split
      · trivial
      · rename_i hg
        exact hsleeps fun hf => by simp [failure?, hf, hg]
  | sleeps w =>
    simp only [Await.look]
    split
    · exact h
    · trivial
  | ended result => trivial

end Await.Found

theorem Waits.found {c : Correlator Request Reply} (hc : c.Coherent) {past : List Turn}
    {s : Session} {x : Await} (h : Waits c past s x) : x.Found past s := by
  induction h with
  | start _ => trivial
  | look h ih => exact ih.look (h.course.chronicle hc).failures
  | step _ a _ ih => exact ih.later a

/-! ## How the latest generation has ended -/

theorem settled?_of_observed {s : Session} {g : Nat} {outcome : Option (Except CallError Reply)}
    (h : s.observed = display g outcome) :
    s.settled? = outcome.map fun r => r.map EvaluationState.ofReply := by
  have hstate : s.state = (display g outcome).2.1 := congrArg (fun o => o.2.1) h
  have hfailure : s.failure? = (display g outcome).2.2 := congrArg (fun o => o.2.2) h
  rcases outcome with _ | _ | reply
  · rw [settled?, hstate, hfailure]
    rfl
  · rw [settled?, hstate, hfailure]
    rfl
  · exact settled?_of_reply hstate

section

variable {c : Correlator Request Reply} (hc : c.Coherent) {log : List Event} {past : List Turn}
  {s : Session}

include hc

theorem Run.shown_eq (h : Run c log s) :
    shown log = display s.generation (fate s.generation log) := by
  have hbegun := (Tells.run hc h).begun
  rcases Nat.eq_zero_or_pos s.generation with hzero | hpos
  · rw [hzero, fate_of_unsent (h.unsent_zero hc), shown, if_pos (hbegun ▸ hzero)]
    rfl
  · exact shown_of_fate hbegun hpos

/-- Once the latest update is over, it is known how its generation has ended. -/
theorem Run.settled?_of_not_isBusy (h : Run c log s) (hb : ¬ s.IsBusy) :
    s.settled? = (fate s.generation log).map fun r => r.map EvaluationState.ofReply :=
  settled?_of_observed (((Tells.run hc h).latest.ended hb).trans (h.shown_eq hc))

theorem Run.fate_of_settled? (h : Run c log s) {result : Except CallError EvaluationState}
    (hr : s.settled? = some result) : 0 < s.generation ∧
      ∃ outcome, fate s.generation log = some outcome ∧
        result = outcome.map EvaluationState.ofReply := by
  have hb : ¬ s.IsBusy := by
    intro hb
    obtain ⟨hloading, hnone⟩ := (Tells.run hc h).latest.busy hb
    rw [settled?, if_pos (by rw [hloading]; rfl), hnone] at hr
    cases hr
  rw [h.settled?_of_not_isBusy hc hb] at hr
  obtain ⟨outcome, hfate, rfl⟩ := Option.map_eq_some_iff.mp hr
  refine ⟨Nat.pos_of_ne_zero fun hzero => ?_, outcome, hfate, rfl⟩
  rw [hzero, fate_of_unsent (h.unsent_zero hc)] at hfate
  cases hfate

theorem Course.settled?_of_recorded (h : Course c past s) {e : CallError}
    (he : (s.generation, e) ∈ recorded past) : s.settled? = some (.error e) := by
  have failures := (h.chronicle hc).failures
  have hb : ¬ s.IsBusy := by
    rintro ⟨t, ht, hg⟩
    exact failures.underWay t ht (hg ▸ List.mem_map_of_mem he)
  rw [h.run.settled?_of_not_isBusy hc hb, failures.failed _ he]
  rfl

/-- At rest one waits for a call. -/
theorem Run.pending_of_isIdle (h : Run c log s) (hi : s.IsIdle) (hnone : s.settled? = none) :
    s.generation = 0 ∨ ∃ call, Sent s.generation call log ∧ call ∈ s.correlator.pending ∧
      fate s.generation log = none := by
  have told := Tells.run hc h
  have hfate : fate s.generation log = none := by
    rw [settled?_of_observed ((observed_of_isIdle told hi).trans (h.shown_eq hc))] at hnone
    exact Option.map_eq_none_iff.mp hnone
  by_cases hb : s.IsBusy
  · obtain ⟨t, ht, hg⟩ := hb
    obtain ⟨call, hp, hresult⟩ := hi.2 t ht
    have htold := told.tasks.told t ht
    rw [Told, hp] at htold
    exact .inr ⟨call, hg ▸ htold.1, (told.coherent.result?_eq_none_iff call).mp hresult, hfate⟩
  · refine (told.latest.known hb).imp_right fun hsome => ?_
    rw [hfate] at hsome
    cases hsome

omit hc in
theorem Await.Found.polls_sleeps {w : Waiter} (found : (Await.sleeps w).Found past s) :
    Await.Polls s (.sleeps w) (.ofWait s.wait) := by
  obtain ⟨-, -, hnone⟩ := found
  by_cases hv : w.stateVersion = s.stateVersion ∧ w.failureVersion = s.failureVersion
  · have hwait : s.wait = .waiting w := by
      rw [wait, hnone hv.1 hv.2, ← hv.1, ← hv.2]
    rw [hwait]
    exact .rest (if_pos hv)
  · have hlook : (Await.sleeps w).look s = .looks := if_neg hv
    exact .look (hlook ▸ Await.polls_looks s)

theorem Await.Found.polls_sawFailure {w : Waiter} {failure : Option (Nat × CallError)}
    (found : (Await.sawFailure w failure).Found past s) (h : Course c past s) :
    Await.Polls s (.sawFailure w failure) (.ofWait s.wait) := by
  have hfound := found.look (h.chronicle hc).failures
  refine .look ?_
  cases failure with
  | none => exact hfound.polls_sleeps
  | some p =>
    by_cases hg : p.1 = s.generation
    · have hlook : (Await.sawFailure w (some p)).look s = .ended (.error p.2) := if_pos hg
      have hsettled : s.settled? = some (.error p.2) :=
        h.settled?_of_recorded hc (hg ▸ found.2.2.2 p rfl)
      rw [hlook, wait, hsettled]
      exact .rest rfl
    · have hlook : (Await.sawFailure w (some p)).look s = .sleeps w := if_neg hg
      rw [hlook] at hfound ⊢
      exact hfound.polls_sleeps

/-- However far one has got, to look on ends as it does for one who starts now. -/
theorem Waits.polls {x : Await} (h : Waits c past s x) (unfinished : ∀ result, x ≠ .ended result) :
    Await.Polls s x (.ofWait s.wait) := by
  have found := h.found hc
  have failures := (h.course.chronicle hc).failures
  cases x with
  | looks => exact Await.polls_looks s
  | sawLoading v => exact .look ((found.look failures).polls_sawFailure hc h.course)
  | sawFailure w failure => exact found.polls_sawFailure hc h.course
  | sleeps w => exact found.polls_sleeps
  | ended result => exact absurd rfl (unfinished result)

end

/-- Whoever waits, from whatever point of a course, and looks whenever, is answered as one who
starts now: by the state unless that is `loading`, else by the failure of the latest generation if
there is one, else not yet.  This is so too for a single look amid other steps.  An answer is what
became of the call of the latest generation, and at rest one waits only before the first update or
for that call. -/
theorem waits_answered_afresh {c : Correlator Request Reply} (hc : ∃ log, Correlator.Run log c)
    {past : List Turn} {s : Session} {x : Await} (h : Waits c past s x)
    (unfinished : ∀ result, x ≠ .ended result) :
    (∀ y, Await.Polls s x y ↔ Await.Polls s .looks y) ∧
    (∀ y, Await.Polls s .looks y ↔ y = .ofWait s.wait) ∧
    s.wait = (if s.state.isLoading then
        match s.failure? with
        | some e => .ended (.error e)
        | none => .waiting ⟨s.stateVersion, s.failureVersion⟩
      else .ended (.ok s.state)) ∧
    (∀ w, x = .sleeps w → s.resume w = s.wait) ∧
    (∀ result, x.look s = .ended result → s.wait = .ended result) ∧
    (∀ result, s.wait = .ended result → 0 < s.generation ∧
      ∃ outcome, fate s.generation (logOf past) = some outcome ∧
        result = outcome.map EvaluationState.ofReply) ∧
    (∀ w, s.IsIdle → s.wait = .waiting w → s.generation = 0 ∨
      ∃ call, Sent s.generation call (logOf past) ∧ call ∈ s.correlator.pending ∧
        fate s.generation (logOf past) = none) := by
  obtain ⟨_, hrun⟩ := hc
  have coherent := Correlator.Coherent.run hrun
  have hpolls := h.polls coherent unfinished
  have hfresh := Await.polls_looks s
  have hiff : ∀ {x}, Await.Polls s x (.ofWait s.wait) →
      ∀ y, Await.Polls s x y ↔ y = .ofWait s.wait :=
    fun hx y => ⟨hx.unique, fun heq => heq ▸ hx⟩
  refine ⟨fun y => (hiff hpolls y).trans (hiff hfresh y).symm, hiff hfresh, s.wait_eq, ?_, ?_, ?_, ?_⟩
  · rintro w rfl
    unfold resume
    split
    · rename_i hv
      exact (Await.ofWait_injective (hpolls.eq_of_rests (if_pos hv))).symm
    · rfl
  · intro result hlook
    exact Await.ofWait_injective (Await.Polls.unique (.look (hlook ▸ .rest rfl)) hpolls)
  · exact fun result hr => h.course.run.fate_of_settled? coherent (settled?_eq_some_of_wait hr)
  · exact fun w hi hw => h.course.run.pending_of_isIdle coherent hi (settled?_eq_none_of_wait hw)

/-- One who waits since before the first of two updates is told of the second one. -/
theorem sleeper_is_told_of_the_second : ∃ (past : List Turn) (s : Session) (w : Waiter),
    Waits .connected past s (.sleeps w) ∧
    Await.Polls s (.sleeps w) (.ended (.ok (.unknown "Unknown error"))) := by
  have snapshot : Snapshot := ⟨"", "", []⟩
  have now : Calendar.Instant := ⟨default, 0, 0, 0⟩
  have asleep := (Waits.start (.start (c := .connected))).look.look.look
  have begun := (asleep.step .begin trivial).step .begin trivial
  have sent := (begun.step (.send 1 snapshot now) (.head _)).step (.send 2 snapshot now)
    (.tail _ (.head _))
  have taken := (sent.step (.outside (.reply ⟨1, .unknown none⟩)) trivial).step
    (.outside .dispatch) trivial
  have shown := (taken.step (.advance ⟨2, .waiting 1⟩) ⟨.tail _ (.head _), nofun⟩).step
    (.advance ⟨2, .ended (.ok (.unknown none))⟩) ⟨.tail _ (.head _), nofun⟩
  have hall := waits_answered_afresh ⟨_, .connected⟩ shown nofun
  exact ⟨_, _, _, shown, (hall.1 _).mpr ((hall.2.1 _).mpr rfl)⟩

end RuleBench.Session
