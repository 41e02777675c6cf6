import RuleBench.Command.Bench

set_option autoImplicit false

/-!
# What commands come to

A command looks at a snapshot, makes a file or revises the rules of one.  What it comes to is told
by that alone: one that looks writes nothing, one that makes a file is stopped by anything there
unless it goes by force, and one that revises rules does to the file what it does to a snapshot in
memory.  What an evaluation comes to is the state that the unit's own reply gives, unless there is
none in time.
-/

namespace RuleBench

namespace Except

variable {ε ε' α β : Type} {x : Except ε α} {b : β}

theorem bind_eq_ok_iff {k : α → Except ε β} : (x >>= k) = .ok b ↔ ∃ a, x = .ok a ∧ k a = .ok b := by
  cases x <;> simp [bind, Except.bind]

theorem mapError_eq_ok_iff {f : ε → ε'} {a : α} : x.mapError f = .ok a ↔ x = .ok a := by
  cases x with
  | error _ => exact ⟨nofun, nofun⟩
  | ok _ => exact ⟨fun h => by cases h; rfl, fun h => by cases h; rfl⟩

end Except

theorem Answer.exit_ofEffect (e : Effect) : (Answer.ofEffect e).exit = 0 ↔ e.passed = true := by
  unfold Answer.ofEffect
  split <;> simp [*]

theorem Entry.read_eq_ok_iff {e : Entry} {text : String} : e.read = .ok text ↔ e = .text text := by
  cases e <;> simp [Entry.read]

theorem Surroundings.load_eq_ok_iff {w : Surroundings} {file : String} {s : Snapshot} :
    w.load file = .ok s ↔ ∃ text, w.find file = .text text ∧ Snapshot.ofText text = .ok s := by
  simp [Surroundings.load, Except.bind_eq_ok_iff, Except.mapError_eq_ok_iff, Entry.read_eq_ok_iff]

/-! ## What comes of an evaluation -/

namespace Hosting

/-- What those who wait are told if there is no reply in time. -/
def error? (timeout : Calendar.Duration) : Hosting → Option Error
  | .unmade message => some (.call (.unavailable (ThreadSettings.unmade message)))
  | .gone => some (.call .closed)
  | .ended => some (.call .disconnected)
  | .working => some (.timeout timeout)
  | .replied => none

theorem evaluate_eq {α : Type} (h : Hosting) (u : EvaluationUnit α) (s : Snapshot)
    (now : Calendar.Instant) :
    h.evaluate u s now =
      match h with
      | .unmade message => some (.error (.unavailable (ThreadSettings.unmade message)))
      | .gone => some (.error .closed)
      | .ended => some (.error .disconnected)
      | .working => none
      | .replied => some (.ok (.ofReply (u.reply (.ofSnapshot s now)))) := by
  cases h with
  | unmade _ | gone | ended | working => rfl
  | replied =>
    -- The call is taken through the channel and back with the unit's answers left as they are.
    unfold evaluate
    generalize u.reply = answer
    exact Session.settled?_of_reply rfl

end Hosting

namespace Surroundings

/-- The report on a snapshot after a round of evaluation by itself. -/
def report (w : Surroundings) (settings : Settings) (s : Snapshot) : Report :=
  let u : EvaluationUnit Expr := ⟨Engine.basic, settings.evaluation.strict⟩
  .ofState s (.ofReply (u.reply (Request.ofSnapshot s w.now)))

/-- A snapshot is evaluated as by the unit itself, unless the host lets there be no reply in
time. -/
theorem evaluate_eq (w : Surroundings) (settings : Settings) (s : Snapshot) :
    w.evaluate settings s =
      match (w.host settings.thread settings.evaluation.timeout).error?
        settings.evaluation.timeout with
      | some error => .error error
      | none => .ok (.ofReply (EvaluationUnit.reply ⟨.basic, settings.evaluation.strict⟩
          (.ofSnapshot s w.now))) := by
  simp only [evaluate, Hosting.evaluate_eq]
  cases w.host settings.thread settings.evaluation.timeout <;> rfl

example (w : Surroundings) (s : Snapshot) :
    evaluate { w with host := fun _ _ => .working } .default s = .error (.timeout ⟨10000⟩) := rfl

end Surroundings

theorem Line.command_run_of_run {w : Surroundings} {l : Line} {e : Effect} (h : l.run w = .ok e) :
    ∃ settings, l.command.run w settings = .ok e :=
  have ⟨settings, _, hrun⟩ := Except.bind_eq_ok_iff.mp h
  ⟨settings, hrun⟩

namespace Command

inductive Kind where
  | looks
  | makes (file : String) (force : Bool)
  | revises (file : String)
  deriving DecidableEq

def kind : Command → Kind
  | .check .. | .listRules _ | .share _ => .looks
  | .init file _ force | .receive _ file force => .makes file force
  | .addRule file _ | .editRule file .. | .moveRule file .. | .removeRule file _ => .revises file

/-- What a command does to a snapshot in memory, and whether there is anything to save; `fresh` is
the id for a new rule. -/
def revise (fresh : String) (s : Snapshot) : Command → Except SnapshotError (Snapshot × Bool)
  | .addRule _ r => .ok (s.addRule fresh r, true)
  | .editRule _ id e =>
    match s.rule? id with
    | none => .error (.ruleNotFound id)
    | some r =>
      (s.setRule id ⟨e.field.getD r.field, e.action.getD r.action,
        e.expression.getD r.expression, e.message.getD r.message⟩).map fun t => (t, true)
  | .moveRule _ id d => s.moveRule id d
  | .removeRule _ id => (s.removeRule id).map fun (t, _) => (t, true)
  | _ => .ok (s, false)

/-- How many ids are used up. -/
def mints : Command → Nat
  | .addRule .. => 1
  | _ => 0

/-- What a command can come to, by its kind. -/
inductive Comes (w : Surroundings) (c : Command) (e : Effect) : Prop where
  | looked (kind : c.kind = .looks) (write : e.write = none)
  | made {file content : String} {force : Bool} (kind : c.kind = .makes file force)
    (clear : force = false → (w.find file).isThere = false) (write : e.write = some (file, content))
    (passed : e.passed = true)
  | revised {file : String} {s t : Snapshot} {saved : Bool} (kind : c.kind = .revises file)
    (load : w.load file = .ok s) (revise : c.revise (w.fresh 0) s = .ok (t, saved))
    (write : e.write = if saved then some (file, t.toText) else none) (passed : e.passed = true)
    (minted : e.minted = c.mints)

variable {w : Surroundings} {e : Effect}

theorem create_eq_ok {file output : String} {s : Snapshot} {force : Bool}
    (h : create w file s force output = .ok e) :
    (force = false → (w.find file).isThere = false) ∧ e.write = some (file, s.toText) ∧
      e.passed = true := by
  unfold create at h
  split at h
  · cases h
  · next hclear =>
    cases h
    exact ⟨fun hforce => by simpa [hforce] using hclear, rfl, rfl⟩

theorem comes_of_run {c : Command} {settings : Settings} (h : c.run w settings = .ok e) :
    c.Comes w e := by
  cases c with
  | init file listing force =>
    obtain ⟨hclear, hwrite, hpassed⟩ := create_eq_ok h
    exact .made rfl hclear hwrite hpassed
  | receive shared file force =>
    obtain ⟨text, -, h⟩ := Except.bind_eq_ok_iff.mp h
    obtain ⟨s, -, h⟩ := Except.bind_eq_ok_iff.mp h
    obtain ⟨hclear, hwrite, hpassed⟩ := create_eq_ok h
    exact .made rfl hclear hwrite hpassed
  | check file asJson =>
    obtain ⟨s, -, h⟩ := Except.bind_eq_ok_iff.mp h
    obtain ⟨state, -, h⟩ := Except.bind_eq_ok_iff.mp h
    cases h
    exact .looked rfl rfl
  | listRules file | share file =>
    obtain ⟨s, -, h⟩ := Except.bind_eq_ok_iff.mp h
    cases h
    exact .looked rfl rfl
  | addRule file r =>
    obtain ⟨s, hload, h⟩ := Except.bind_eq_ok_iff.mp h
    cases h
    exact .revised rfl hload rfl rfl rfl rfl
  | editRule file id edit =>
    obtain ⟨s, hload, h⟩ := Except.bind_eq_ok_iff.mp h
    cases hr : s.rule? id with
    | none => simp only [hr] at h; cases h
    | some r =>
      simp only [hr] at h
      obtain ⟨t, ht, h⟩ := Except.bind_eq_ok_iff.mp h
      cases h
      have hset : s.setRule id (edit.apply r.toRule) = .ok t := Except.mapError_eq_ok_iff.mp ht
      have hrevise : revise (w.fresh 0) s (.editRule file id edit) = .ok (t, true) := by
        rw [revise, hr]
        exact congrArg (Except.map fun t => (t, true)) hset
      exact .revised rfl hload hrevise rfl rfl rfl
  | moveRule file id d =>
    obtain ⟨s, hload, h⟩ := Except.bind_eq_ok_iff.mp h
    obtain ⟨⟨t, moved⟩, ht, h⟩ := Except.bind_eq_ok_iff.mp h
    have hmove : s.moveRule id d = .ok (t, moved) := Except.mapError_eq_ok_iff.mp ht
    cases moved <;> cases h <;> exact .revised rfl hload hmove rfl rfl rfl
  | removeRule file id =>
    obtain ⟨s, hload, h⟩ := Except.bind_eq_ok_iff.mp h
    obtain ⟨⟨t, r⟩, ht, h⟩ := Except.bind_eq_ok_iff.mp h
    cases h
    have hremove : s.removeRule id = .ok (t, r) := Except.mapError_eq_ok_iff.mp ht
    have hrevise : revise (w.fresh 0) s (.removeRule file id) = .ok (t, true) :=
      congrArg (Except.map fun p : Snapshot × ListedRule => (p.1, true)) hremove
    exact .revised rfl hload hrevise rfl rfl rfl

/-- A command on rules succeeds where it does so in memory. -/
theorem run_of_revise {c : Command} {file : String} {s t : Snapshot} {saved : Bool}
    (hkind : c.kind = .revises file) (hload : w.load file = .ok s)
    (h : c.revise (w.fresh 0) s = .ok (t, saved)) (settings : Settings) :
    ∃ e, c.run w settings = .ok e := by
  cases c with
  | init _ _ _ | receive _ _ _ | check _ _ | listRules _ | share _ => cases hkind
  | addRule _ r =>
    cases hkind
    exact ⟨_, by rw [run, hload]; rfl⟩
  | editRule _ id edit =>
    cases hkind
    cases hr : s.rule? id with
    | none => simp only [revise, hr] at h; cases h
    | some r =>
      cases hset : s.setRule id (edit.apply r.toRule) with
      | error f =>
        have hset : s.setRule id ⟨edit.field.getD r.field, edit.action.getD r.action,
          edit.expression.getD r.expression, edit.message.getD r.message⟩ = .error f := hset
        simp only [revise, hr, hset] at h
        cases h
      | ok u => exact ⟨_, by simp only [run, hload, bind, Except.bind, hr, hset]; rfl⟩
  | moveRule _ id d =>
    cases hkind
    have hmove : s.moveRule id d = .ok (t, saved) := h
    cases saved <;> exact ⟨_, by simp only [run, hload, bind, Except.bind, hmove]; rfl⟩
  | removeRule _ id =>
    cases hkind
    cases hremove : s.removeRule id with
    | error f => simp only [revise, hremove] at h; cases h
    | ok u => exact ⟨_, by simp only [run, hload, bind, Except.bind, hremove]; rfl⟩

end Command

end RuleBench
