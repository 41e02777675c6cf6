import RuleBench.Proofs.Call.Rest

set_option autoImplicit false

/-!
# What a session publishes

The states that a session publishes come in chapters, one for each generation: `loading` first, and
then at most what the reply to the request of that generation says.  A generation that has ended so
has no failure, and a failure is recorded once.  This is so after every single step, whatever comes
between the phases of an update, and one who looks now and then sees part of it, in order.
-/

namespace RuleBench.Session

/-! ## Courses -/

/-- An action and the session that it met. -/
structure Turn where
  met : Session
  action : Action

inductive Course (c : Correlator Request Reply) : List Turn → Session → Prop where
  | start : Course c [] (start c)
  | step {past : List Turn} {s : Session} (h : Course c past s) (a : Action) (ok : s.Permits a) :
      Course c (past ++ [⟨s, a⟩]) (s.act a)

def logOf (past : List Turn) : List Event := past.flatMap fun t => t.met.events t.action

theorem logOf_concat (past : List Turn) (t : Turn) :
    logOf (past ++ [t]) = logOf past ++ t.met.events t.action := by
  simp [logOf]

theorem Course.run {c : Correlator Request Reply} {past : List Turn} {s : Session}
    (h : Course c past s) : Run c (logOf past) s := by
  induction h with
  | start => exact .start
  | step _ a ok ih =>
    rw [logOf_concat]
    exact ih.step a ok

namespace Turn

def left (t : Turn) : Session := t.met.act t.action

/-- The update that acts; the peer and the dispatcher act for none. -/
def generation : Turn → Nat
  | ⟨s, .begin⟩ => s.generation + 1
  | ⟨_, .send generation _ _⟩ => generation
  | ⟨_, .advance task⟩ => task.generation
  | ⟨_, .outside _⟩ => 0

def published? (t : Turn) : Option (Nat × EvaluationState) :=
  if t.left.stateVersion = t.met.stateVersion then none else some (t.generation, t.left.state)

def recorded? (t : Turn) : Option (Nat × CallError) :=
  if t.left.failureVersion = t.met.failureVersion then none else t.left.failure

end Turn

/-- The states published, each with the generation of the update that published it. -/
def published (past : List Turn) : List (Nat × EvaluationState) :=
  (0, .loading) :: past.filterMap Turn.published?

def recorded (past : List Turn) : List (Nat × CallError) := past.filterMap Turn.recorded?

theorem published_append (past more : List Turn) :
    published (past ++ more) = published past ++ more.filterMap Turn.published? := by
  simp [published]

section concat

variable {t : Turn} (past : List Turn)

theorem published_concat_of_same (h : t.left.stateVersion = t.met.stateVersion) :
    published (past ++ [t]) = published past := by
  simp [published, Turn.published?, h]

theorem published_concat_of_next (h : t.left.stateVersion = t.met.stateVersion + 1) :
    published (past ++ [t]) = published past ++ [(t.generation, t.left.state)] := by
  simp [published, Turn.published?, h]

theorem recorded_concat_of_same (h : t.left.failureVersion = t.met.failureVersion) :
    recorded (past ++ [t]) = recorded past := by
  simp [recorded, Turn.recorded?, h]

theorem recorded_concat_of_next (h : t.left.failureVersion = t.met.failureVersion + 1) :
    recorded (past ++ [t]) = recorded past ++ t.left.failure.toList := by
  cases hf : t.left.failure <;> simp [recorded, Turn.recorded?, h, hf]

end concat

/-! ## What one step publishes -/

/-- Nothing is published from one to the other, and no update begins. -/
structure Quiet (s s' : Session) : Prop where
  generation : s'.generation = s.generation
  state : s'.state = s.state
  stateVersion : s'.stateVersion = s.stateVersion
  failure : s'.failure = s.failure
  failureVersion : s'.failureVersion = s.failureVersion
  tasks : ∀ t ∈ s'.tasks, ∃ u ∈ s.tasks, u.generation = t.generation

inductive Effect (s : Session) : Action → Session → Prop where
  | begins : Effect s .begin s.begin
  | publishes {t : Task} {reply : Reply} (phase : t.phase = .ended (.ok reply))
      (latest : s.generation = t.generation) :
      Effect s (.advance t) ((s.close t.generation).publish (.ofReply reply))
  | records {t : Task} {e : CallError} (phase : t.phase = .failing e) :
      Effect s (.advance t) ((s.close t.generation).record t.generation e)
  | quiet {a : Action} {s' : Session} (h : Quiet s s') : Effect s a s'

theorem Quiet.refl (s : Session) : Quiet s s :=
  ⟨rfl, rfl, rfl, rfl, rfl, fun t ht => ⟨t, ht, rfl⟩⟩

theorem Quiet.withCorrelator (s : Session) (correlator : Correlator Request Reply) :
    Quiet s { s with correlator } :=
  ⟨rfl, rfl, rfl, rfl, rfl, fun t ht => ⟨t, ht, rfl⟩⟩

theorem Quiet.move (s : Session) (correlator : Correlator Request Reply) (generation : Nat)
    (phase : Phase) : Quiet s ({ s with correlator }.move generation phase) := by
  refine ⟨rfl, rfl, rfl, rfl, rfl, fun t ht => ?_⟩
  rcases mem_move.mp ht with ⟨rfl, u, hu, hug⟩ | ⟨ht, -⟩
  · exact ⟨u, hu, hug⟩
  · exact ⟨t, ht, rfl⟩

theorem Quiet.close (s : Session) (generation : Nat) : Quiet s (s.close generation) :=
  ⟨rfl, rfl, rfl, rfl, rfl, fun t ht => ⟨t, (mem_close.mp ht).1, rfl⟩⟩

theorem effect_advance (s : Session) (t : Task) : Effect s (.advance t) (s.advance t) := by
  unfold advance
  split
  · exact .quiet (.refl s)
  · unfold collect
    split
    · exact .quiet (.refl s)
    · exact .quiet (.move s _ _ _)
  · rename_i reply hp
    by_cases hg : s.generation = t.generation
    · rw [publishFor_close_of_eq hg]
      exact .publishes hp hg
    · rw [publishFor_close_of_ne hg]
      exact .quiet (.close s _)
  · split
    · exact .quiet (.move s s.correlator _ _)
    · exact .quiet (.close s _)
  · rename_i e hp
    exact .records hp

theorem effect_act (s : Session) (a : Action) : Effect s a (s.act a) := by
  cases a with
  | begin => exact .begins
  | send generation snapshot now =>
    simp only [act, send]
    split <;> exact .quiet (.move s _ _ _)
  | advance t => exact effect_advance s t
  | outside a => exact .quiet (.withCorrelator s _)

/-! ## Chapters -/

def chapter (ending : Nat → Option Reply) (generation : Nat) : List (Nat × EvaluationState) :=
  (generation, .loading) :: ((ending generation).map fun r => (generation, .ofReply r)).toList

/-- Generation after generation, each with what it has ended in. -/
def chapters (ending : Nat → Option Reply) (n : Nat) : List (Nat × EvaluationState) :=
  (List.range (n + 1)).flatMap (chapter ending)

theorem chapters_succ (ending : Nat → Option Reply) (n : Nat) :
    chapters ending (n + 1) = chapters ending n ++ chapter ending (n + 1) := by
  simp [chapters, List.range_succ]

theorem loading_mem_chapters (ending : Nat → Option Reply) {g n : Nat} (h : g ≤ n) :
    (g, .loading) ∈ chapters ending n :=
  List.mem_flatMap.mpr ⟨g, List.mem_range.mpr (Nat.lt_succ_of_le h), List.mem_cons_self⟩

theorem chapters_update {ending : Nat → Option Reply} {n : Nat} (h : ending n = none)
    (reply : Reply) : chapters (Function.update ending n (some reply)) n =
      chapters ending n ++ [(n, .ofReply reply)] := by
  have hsame : ∀ g ∈ List.range n,
      chapter (Function.update ending n (some reply)) g = chapter ending g := by
    intro g hg
    have hne : g ≠ n := Nat.ne_of_lt (List.mem_range.mp hg)
    simp only [chapter, Function.update_of_ne hne]
  have hlast : chapter (Function.update ending n (some reply)) n =
      chapter ending n ++ [(n, .ofReply reply)] := by
    simp [chapter, h]
  simp only [chapters, List.range_succ, List.flatMap_append, List.flatMap_singleton, hlast,
    List.append_assoc]
  rw [List.flatMap_congr hsame]

/-! ## The history of what is published -/

/-- The states published are chapters, and the last one shows.  Of an update that is under way
nothing but `loading` is published. -/
structure States (ending : Nat → Option Reply) (past : List Turn) (s : Session) : Prop where
  inChapters : published past = chapters ending s.generation
  count : (published past).length = s.stateVersion + 1
  last : (published past).getLast? = some (s.generation, s.state)
  replied : ∀ g r, ending g = some r → fate g (logOf past) = some (.ok r)
  underWay : ∀ t ∈ s.tasks, ending t.generation = none

/-- The failures recorded are those of different updates, and the last one shows.  Of an update that
is under way none is recorded. -/
structure Failures (past : List Turn) (s : Session) : Prop where
  failed : ∀ p ∈ recorded past, fate p.1 (logOf past) = some (.error p.2)
  once : ((recorded past).map Prod.fst).Nodup
  count : (recorded past).length = s.failureVersion
  last : (recorded past).getLast? = s.failure
  underWay : ∀ t ∈ s.tasks, t.generation ∉ (recorded past).map Prod.fst

theorem fate_of_unsent {generation : Nat} {log : List Event} (h : Unsent generation log) :
    fate generation log = none := by
  rw [← List.append_nil log, fate_append_of_unsent h]
  rfl

variable {ending : Nat → Option Reply} {past : List Turn} {t : Turn}

theorem fate_logOf_concat {g : Nat} {r : Except CallError Reply}
    (h : fate g (logOf past) = some r) (t : Turn) : fate g (logOf (past ++ [t])) = some r := by
  rw [logOf_concat]
  exact fate_append_of_some h _

namespace States

theorem start (c : Correlator Request Reply) : States (fun _ => none) [] (Session.start c) := by
  constructor <;> simp [published, chapters, chapter, Session.start]

theorem ending_of_unsent {s : Session} (h : States ending past s) {g : Nat}
    (hu : Unsent g (logOf past)) : ending g = none := by
  cases hr : ending g with
  | none => rfl
  | some r =>
    have hfate := h.replied g r hr
    rw [fate_of_unsent hu] at hfate
    cases hfate

theorem keep (h : States ending past t.met) (hg : t.left.generation = t.met.generation)
    (hs : t.left.state = t.met.state) (hv : t.left.stateVersion = t.met.stateVersion)
    (ht : ∀ u ∈ t.left.tasks, ∃ v ∈ t.met.tasks, v.generation = u.generation) :
    States ending (past ++ [t]) t.left := by
  have hp := published_concat_of_same past hv
  constructor
  · rw [hp, hg, h.inChapters]
  · rw [hp, hv, h.count]
  · rw [hp, hg, hs, h.last]
  · exact fun g r hr => fate_logOf_concat (h.replied g r hr) t
  · intro u hu
    obtain ⟨v, hv, hvu⟩ := ht u hu
    exact hvu ▸ h.underWay v hv

/-- A new chapter. -/
theorem begin {s : Session} (h : States ending past s)
    (hu : Unsent (s.generation + 1) (logOf past)) :
    States ending (past ++ [⟨s, .begin⟩]) s.begin := by
  have hnone := h.ending_of_unsent hu
  have hp : published (past ++ [⟨s, .begin⟩]) =
      published past ++ [(s.generation + 1, .loading)] := published_concat_of_next past rfl
  constructor
  · rw [hp, h.inChapters]
    change _ = chapters ending (s.generation + 1)
    rw [chapters_succ]
    simp [chapter, hnone]
  · rw [hp, List.length_append, h.count]
    rfl
  · rw [hp, List.getLast?_concat]
    rfl
  · exact fun g r hr => fate_logOf_concat (h.replied g r hr) _
  · intro t ht
    rcases List.mem_append.mp ht with ht | ht
    · exact h.underWay t ht
    · rw [List.mem_singleton.mp ht]
      exact hnone

/-- The end of the last chapter. -/
theorem publish (h : States ending past t.met) {reply : Reply}
    (hleft : t.left = (t.met.close t.generation).publish (.ofReply reply))
    (latest : t.met.generation = t.generation) (hnone : ending t.generation = none)
    (hfate : fate t.generation (logOf past) = some (.ok reply)) :
    States (Function.update ending t.generation (some reply)) (past ++ [t]) t.left := by
  have hp : published (past ++ [t]) = published past ++ [(t.generation, .ofReply reply)] := by
    rw [published_concat_of_next past (by rw [hleft]; rfl), hleft]
    rfl
  rw [hleft]
  constructor
  · rw [hp, h.inChapters]
    change _ = chapters _ t.met.generation
    rw [latest, chapters_update hnone]
  · rw [hp, List.length_append, h.count]
    rfl
  · rw [hp, List.getLast?_concat, ← latest]
    rfl
  · intro g r hr
    refine fate_logOf_concat ?_ t
    by_cases hg : g = t.generation
    · subst hg
      rw [Function.update_self] at hr
      rw [hfate, Option.some.inj hr]
    · rw [Function.update_of_ne hg] at hr
      exact h.replied g r hr
  · intro u hu
    obtain ⟨hu, hne⟩ := mem_close.mp hu
    rw [Function.update_of_ne hne]
    exact h.underWay u hu

end States

namespace Failures

theorem start (c : Correlator Request Reply) : Failures [] (Session.start c) := by
  constructor <;> simp [recorded, Session.start]

theorem not_recorded_of_unsent {s : Session} (h : Failures past s) {g : Nat}
    (hu : Unsent g (logOf past)) : g ∉ (recorded past).map Prod.fst := by
  intro hg
  obtain ⟨p, hmem, rfl⟩ := List.mem_map.mp hg
  have hfate := h.failed p hmem
  rw [fate_of_unsent hu] at hfate
  cases hfate

theorem keep (h : Failures past t.met) (hf : t.left.failure = t.met.failure)
    (hv : t.left.failureVersion = t.met.failureVersion)
    (ht : ∀ u ∈ t.left.tasks, u.generation ∉ (recorded past).map Prod.fst) :
    Failures (past ++ [t]) t.left := by
  have hr := recorded_concat_of_same past hv
  constructor
  · exact fun p hp => fate_logOf_concat (h.failed p (hr ▸ hp)) t
  · rw [hr]
    exact h.once
  · rw [hr, hv, h.count]
  · rw [hr, hf, h.last]
  · rw [hr]
    exact ht

theorem record (h : Failures past t.met) {e : CallError}
    (hleft : t.left = (t.met.close t.generation).record t.generation e)
    (hnone : t.generation ∉ (recorded past).map Prod.fst)
    (hfate : fate t.generation (logOf past) = some (.error e)) :
    Failures (past ++ [t]) t.left := by
  have hr : recorded (past ++ [t]) = recorded past ++ [(t.generation, e)] := by
    rw [recorded_concat_of_next past (by rw [hleft]; rfl), hleft]
    rfl
  have hmap : (recorded (past ++ [t])).map Prod.fst =
      (recorded past).map Prod.fst ++ [t.generation] := by
    rw [hr, List.map_append]
    rfl
  rw [hleft]
  constructor
  · intro p hp
    refine fate_logOf_concat ?_ t
    rw [hr] at hp
    rcases List.mem_append.mp hp with hp | hp
    · exact h.failed p hp
    · rw [List.mem_singleton.mp hp]
      exact hfate
  · rw [hmap]
    exact List.concat_eq_append ▸ h.once.concat hnone
  · rw [hr, List.length_append, h.count]
    rfl
  · rw [hr, List.getLast?_concat]
    rfl
  · intro u hu
    obtain ⟨hu, hne⟩ := mem_close.mp hu
    rw [hmap, List.mem_append, List.mem_singleton]
    exact not_or.mpr ⟨h.underWay u hu, hne⟩

end Failures

structure Chronicle (past : List Turn) (s : Session) : Prop where
  states : ∃ ending, States ending past s
  failures : Failures past s

theorem Chronicle.act {s : Session} (h : Chronicle past s) (told : Tells (logOf past) s) {a : Action}
    (ok : s.Permits a) : Chronicle (past ++ [⟨s, a⟩]) (s.act a) := by
  obtain ⟨⟨ending, states⟩, failures⟩ := h
  -- From here on nothing is known of the step but its effect.
  generalize hs : s.act a = s'
  have hleft : Turn.left ⟨s, a⟩ = s' := hs
  have heffect : Effect s a s' := hs ▸ effect_act s a
  clear hs
  rw [← hleft]
  cases heffect with
  | begins =>
    have hu := told.unsent _ (Nat.lt_succ_self _)
    refine ⟨⟨ending, states.begin hu⟩, failures.keep rfl rfl ?_⟩
    intro t ht
    rcases List.mem_append.mp ht with ht | ht
    · exact failures.underWay t ht
    · rw [List.mem_singleton.mp ht]
      exact failures.not_recorded_of_unsent hu
  | @publishes t reply phase latest =>
    have hfate := told.tasks.told t ok.1
    rw [Told, phase] at hfate
    refine ⟨⟨_, states.publish hleft latest (states.underWay t ok.1) hfate⟩, failures.keep ?_ ?_ ?_⟩
    · rw [hleft]
      rfl
    · rw [hleft]
      rfl
    · rw [hleft]
      exact fun u hu => failures.underWay u (mem_close.mp hu).1
  | @records t e phase =>
    have hfate := told.tasks.told t ok.1
    rw [Told, phase] at hfate
    refine ⟨⟨ending, states.keep ?_ ?_ ?_ ?_⟩,
      failures.record hleft (failures.underWay t ok.1) hfate⟩
    · rw [hleft]
      rfl
    · rw [hleft]
      rfl
    · rw [hleft]
      rfl
    · rw [hleft]
      exact fun u hu => ⟨u, (mem_close.mp hu).1, rfl⟩
  | quiet q =>
    rw [← hleft] at q
    refine ⟨⟨ending, states.keep q.generation q.state q.stateVersion q.tasks⟩,
      failures.keep q.failure q.failureVersion ?_⟩
    intro u hu
    obtain ⟨v, hv, hvu⟩ := q.tasks u hu
    exact hvu ▸ failures.underWay v hv

theorem Course.chronicle {c : Correlator Request Reply} (hc : c.Coherent) {s : Session}
    (h : Course c past s) : Chronicle past s := by
  induction h with
  | start => exact ⟨⟨_, .start c⟩, .start c⟩
  | step h a ok ih => exact ih.act (.run hc h.run) ok

/-! ## Watching -/

/-- One who watches the states: the version seen last, and all states seen. -/
structure Watcher where
  seen : Option Nat
  got : List EvaluationState

def Watcher.look (w : Watcher) (s : Session) : Watcher :=
  match s.news? w.seen with
  | none => w
  | some state => ⟨some s.stateVersion, w.got ++ [state]⟩

/-- Somebody starts to watch at any point of a course, and looks at any time since. -/
inductive Watches (c : Correlator Request Reply) : List Turn → Session → Watcher → Prop where
  | subscribe {past : List Turn} {s : Session} (h : Course c past s) : Watches c past s ⟨none, []⟩
  | look {past : List Turn} {s : Session} {w : Watcher} (h : Watches c past s w) :
      Watches c past s (w.look s)
  | step {past : List Turn} {s : Session} {w : Watcher} (h : Watches c past s w) (a : Action)
      (ok : s.Permits a) : Watches c (past ++ [⟨s, a⟩]) (s.act a) w

theorem Watches.course {c : Correlator Request Reply} {s : Session} {w : Watcher}
    (h : Watches c past s w) : Course c past s := by
  induction h with
  | subscribe h => exact h
  | look _ ih => exact ih
  | step _ a ok ih => exact ih.step a ok

/-- What was seen is part of what had been published when the watcher looked last, and ends with the
last of that. -/
def Watcher.Follows (w : Watcher) (states : List EvaluationState) : Prop :=
  match w.seen with
  | none => w.got = []
  | some v => v < states.length ∧ w.got.Sublist (states.take (v + 1)) ∧ w.got.getLast? = states[v]?

namespace Watcher.Follows

variable {w : Watcher} {states : List EvaluationState}

theorem sublist (h : w.Follows states) : w.got.Sublist states := by
  unfold Follows at h
  split at h
  · rw [h]
    exact List.nil_sublist _
  · exact h.2.1.trans (List.take_sublist _ _)

theorem append (h : w.Follows states) (more : List EvaluationState) :
    w.Follows (states ++ more) := by
  unfold Follows at h ⊢
  split at h
  · exact h
  · obtain ⟨hv, hsub, hlast⟩ := h
    refine ⟨by rw [List.length_append]; omega, ?_, ?_⟩
    · rwa [List.take_append_of_le_length hv]
    · rwa [List.getElem?_append_left hv]

theorem look (h : w.Follows states) {s : Session} (hcount : states.length = s.stateVersion + 1)
    (hlast : states.getLast? = some s.state) : (w.look s).Follows states := by
  unfold Watcher.look news?
  by_cases hseen : w.seen = some s.stateVersion
  · rwa [if_pos hseen]
  · rw [if_neg hseen]
    have hsplit : states.take s.stateVersion ++ [s.state] = states := by
      have hdrop : states.dropLast = states.take s.stateVersion := by
        rw [List.dropLast_eq_take, hcount, Nat.add_sub_cancel]
      rw [← hdrop]
      exact List.dropLast_append_getLast? _ hlast
    have hold : w.got.Sublist (states.take s.stateVersion) := by
      unfold Follows at h
      split at h
      · rw [h]
        exact List.nil_sublist _
      · rename_i v hv
        have hne : v ≠ s.stateVersion := fun heq => hseen (heq ▸ hv)
        exact h.2.1.trans (List.take_prefix_take_left (by omega)).sublist
    refine ⟨by omega, ?_, ?_⟩
    · rw [List.take_of_length_le (Nat.le_of_eq hcount), ← hsplit]
      exact hold.append (List.Sublist.refl _)
    · rw [List.getLast?_concat, ← hlast, List.getLast?_eq_getElem?, hcount]
      rfl

theorem getLast?_got (h : w.Follows states) {s : Session}
    (hcount : states.length = s.stateVersion + 1) (hlast : states.getLast? = some s.state)
    (hnews : s.news? w.seen = none) : w.got.getLast? = some s.state := by
  have hseen : w.seen = some s.stateVersion := by
    by_contra hne
    rw [news?, if_neg hne] at hnews
    cases hnews
  rw [Follows, hseen] at h
  rw [h.2.2, ← hlast, List.getLast?_eq_getElem?, hcount, Nat.add_sub_cancel]

end Watcher.Follows

theorem Watcher.news?_look (w : Watcher) (s : Session) : s.news? (w.look s).seen = none := by
  unfold look
  split
  · assumption
  · exact if_pos rfl

theorem Chronicle.count {s : Session} (h : Chronicle past s) :
    ((published past).map Prod.snd).length = s.stateVersion + 1 := by
  obtain ⟨_, states⟩ := h.states
  rw [List.length_map, states.count]

theorem Chronicle.last {s : Session} (h : Chronicle past s) :
    ((published past).map Prod.snd).getLast? = some s.state := by
  obtain ⟨_, states⟩ := h.states
  rw [List.getLast?_map, states.last]
  rfl

theorem Watches.follows {c : Correlator Request Reply} (hc : c.Coherent) {s : Session} {w : Watcher}
    (h : Watches c past s w) : w.Follows ((published past).map Prod.snd) := by
  induction h with
  | subscribe _ => rfl
  | look h ih =>
    have chronicle := h.course.chronicle hc
    exact ih.look chronicle.count chronicle.last
  | step _ a _ ih =>
    rw [published_append, List.map_append]
    exact ih.append _

/-- An update publishes `loading` for its own generation, and nothing more before it returns. -/
theorem update_publishes (s : Session) (snapshot : Snapshot) (now : Calendar.Instant) :
    (s.update snapshot now).2.generation = s.generation + 1 ∧
      (s.update snapshot now).2.state = .loading ∧
      (s.update snapshot now).2.stateVersion = s.stateVersion + 1 := by
  unfold update send
  dsimp only
  rcases s.begin.correlator.submit (Request.ofSnapshot snapshot now) with ⟨_ | _, _⟩ <;>
    exact ⟨rfl, rfl, rfl⟩

theorem exists_send_of_isSendingOf {s : Session} {a : Action} {e : Event} {g : Nat}
    (he : e ∈ s.events a) (hg : e.IsSendingOf g) : ∃ snapshot now, a = .send g snapshot now := by
  cases a with
  | begin =>
    rw [List.mem_singleton.mp he] at hg
    exact hg.elim
  | send generation snapshot now =>
    simp only [events] at he
    split at he
    all_goals
      rw [List.mem_singleton.mp he] at hg
      exact ⟨snapshot, now, congrArg (Action.send · snapshot now) hg⟩
  | advance t => exact absurd he List.not_mem_nil
  | outside a =>
    cases a with
    | dispatch =>
      simp only [events] at he
      split at he
      · rw [List.mem_singleton.mp he] at hg
        exact hg.elim
      · rw [List.mem_singleton.mp he] at hg
        exact hg.elim
      · exact absurd he List.not_mem_nil
    | _ => exact absurd he List.not_mem_nil

/-- No request belongs to generation `0`. -/
theorem Run.unsent_zero {c : Correlator Request Reply} (hc : c.Coherent) {log : List Event}
    {s : Session} (h : Run c log s) : Unsent 0 log := by
  induction h with
  | start => exact fun _ he => absurd he List.not_mem_nil
  | step h a ok ih =>
    refine unsent_append.mpr ⟨ih, fun e he hg => ?_⟩
    obtain ⟨snapshot, now, rfl⟩ := exists_send_of_isSendingOf he hg
    exact Nat.lt_irrefl 0 ((Tells.run hc h).tasks.pos _ ok)

/-- After every single step of a course: the states published are, generation after generation,
`loading` and then at most the state of the reply to the request of that generation, which then has
no failure; no update has two failures; the request of an update is sent only after its `loading` is
published, and the update returns after that; the state and the failure that show are the last ones.
Who watches sees part of this, in order, and has seen the current state last unless there is news,
of which one look leaves none. -/
theorem published_in_chapters {c : Correlator Request Reply} (hc : ∃ log, Correlator.Run log c)
    {past : List Turn} {s : Session} (h : Course c past s) :
    (∃ ending : Nat → Option Reply, published past = chapters ending s.generation ∧
      ∀ g r, ending g = some r → 0 < g ∧ (EvaluationState.ofReply r).isLoading = false ∧
        fate g (logOf past) = some (.ok r) ∧ g ∉ (recorded past).map Prod.fst) ∧
    ((recorded past).map Prod.fst).Nodup ∧
    (∀ g, ¬ Unsent g (logOf past) → 0 < g ∧ (g, .loading) ∈ published past) ∧
    (∀ snapshot now, (s.update snapshot now).2.generation = s.generation + 1 ∧
      (s.update snapshot now).2.state = .loading ∧
      (s.update snapshot now).2.stateVersion = s.stateVersion + 1) ∧
    ((published past).length = s.stateVersion + 1 ∧
      (published past).getLast? = some (s.generation, s.state) ∧
      (recorded past).length = s.failureVersion ∧ (recorded past).getLast? = s.failure) ∧
    ∀ w, Watches c past s w → w.got.Sublist ((published past).map Prod.snd) ∧
      (s.news? w.seen = none → w.got.getLast? = some s.state) ∧
      s.news? (w.look s).seen = none := by
  obtain ⟨_, hrun⟩ := hc
  have coherent := Correlator.Coherent.run hrun
  have told := Tells.run coherent h.run
  have chronicle := h.chronicle coherent
  obtain ⟨⟨ending, states⟩, failures⟩ := id chronicle
  have hpos : ∀ g, ¬ Unsent g (logOf past) → 0 < g := fun g hsent =>
    Nat.pos_of_ne_zero fun hzero => hsent (hzero ▸ h.run.unsent_zero coherent)
  refine ⟨⟨ending, states.inChapters, ?_⟩, failures.once, ?_, s.update_publishes, ?_, ?_⟩
  · intro g r hr
    have hfate := states.replied g r hr
    refine ⟨hpos g ?_, EvaluationState.ofReply_ne_loading r, hfate, ?_⟩
    · intro hu
      rw [fate_of_unsent hu] at hfate
      cases hfate
    · intro hg
      obtain ⟨p, hmem, rfl⟩ := List.mem_map.mp hg
      have hfailed := failures.failed p hmem
      rw [hfate] at hfailed
      cases hfailed
  · intro g hsent
    refine ⟨hpos g hsent, ?_⟩
    rw [states.inChapters]
    exact loading_mem_chapters ending (Nat.le_of_not_lt fun hlt => hsent (told.unsent g hlt))
  · exact ⟨states.count, states.last, failures.count, failures.last⟩
  · intro w hw
    have follows := hw.follows coherent
    exact ⟨follows.sublist, follows.getLast?_got chronicle.count chronicle.last, w.news?_look s⟩

/-- One who looks before two updates, and when the second one has its reply, has seen two of four
states. -/
theorem two_of_four_states_are_seen : ∃ (past : List Turn) (s : Session) (w : Watcher),
    Watches .connected past s w ∧
    published past = [(0, .loading), (1, .loading), (2, .loading), (2, .unknown "Unknown error")] ∧
    w.got = [.loading, .unknown "Unknown error"] ∧
    w.got.Sublist ((published past).map Prod.snd) := by
  have snapshot : Snapshot := ⟨"", "", []⟩
  have now : Calendar.Instant := ⟨default, 0, 0, 0⟩
  have begun := ((Watches.subscribe (.start (c := .connected))).look.step .begin trivial).step
    .begin trivial
  have sent := (begun.step (.send 1 snapshot now) (.head _)).step (.send 2 snapshot now)
    (.tail _ (.head _))
  have taken := (sent.step (.outside (.reply ⟨1, .unknown none⟩)) trivial).step
    (.outside .dispatch) trivial
  have shown := (taken.step (.advance ⟨2, .waiting 1⟩) ⟨.tail _ (.head _), nofun⟩).step
    (.advance ⟨2, .ended (.ok (.unknown none))⟩) ⟨.tail _ (.head _), nofun⟩
  have looked := shown.look
  have hall := published_in_chapters ⟨_, .connected⟩ looked.course
  exact ⟨_, _, _, looked, rfl, rfl, (hall.2.2.2.2.2 _ looked).1⟩

end RuleBench.Session
