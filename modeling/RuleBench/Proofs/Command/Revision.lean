import RuleBench.Proofs.Command.Outcomes
import RuleBench.Proofs.Snapshot.Editing
import RuleBench.Proofs.Snapshot.Texts

set_option autoImplicit false

/-!
# Revision of files

Lines are carried out one after another on the files of a folder.  A command on rules that succeeds
does to the text of a file what it does in memory to the snapshot that the text is of; a row of them
does as much as reading the file once, carrying out all of them in memory and saving the result, if
there is anything to save.  All else stays as it is.
-/

namespace RuleBench

/-! ## Where a path leads -/

namespace Folder

variable {f g : Folder} {path content : String} {way : List String}

theorem file?_of_follow (f : Folder) (steps : List String) : ∀ here,
    (∀ way content, f.follow here steps = .file way content → f.file? way = some content) ∧
      ∀ way, f.follow here steps = .vacant way → f.file? way = none := by
  induction steps with
  | nil => simp [follow]
  | cons step rest ih =>
    intro here
    unfold follow
    grind

theorem file?_of_place (h : f.place path = .file way content) : f.file? way = some content :=
  (f.file?_of_follow (steps path) []).1 way content h

theorem file?_of_place_vacant (h : f.place path = .vacant way) : f.file? way = none :=
  (f.file?_of_follow (steps path) []).2 way h

theorem find_eq_text_iff :
    f.find path = .text content ↔ ∃ way, f.place path = .file way content := by
  unfold find
  split <;> simp_all

theorem put_of_place {old : String} (h : f.place path = .file way old) (content : String) :
    f.put path content = .ok (f.set way content) := by
  rw [put, h]

theorem put_eq_ok (h : f.put path content = .ok g) : ∃ way, g = f.set way content ∧
    ((∃ old, f.place path = .file way old) ∨ f.place path = .vacant way) := by
  unfold put at h
  split at h
  case h_1 way old hplace => exact ⟨way, (Except.ok.inj h).symm, .inl ⟨old, hplace⟩⟩
  case h_2 way hplace => exact ⟨way, (Except.ok.inj h).symm, .inr hplace⟩
  all_goals cases h

/-- What is put where nothing is found takes no file's place. -/
theorem file?_of_put_of_absent (h : f.put path content = .ok g)
    (habsent : (f.find path).isThere = false) {other : List String} {old : String}
    (hold : f.file? other = some old) : g.file? other = some old := by
  obtain ⟨way, rfl, ⟨_, hplace⟩ | hplace⟩ := put_eq_ok h
  · simp [find, hplace, Entry.isThere] at habsent
  · have hne : other ≠ way := by
      rintro rfl
      rw [file?_of_place_vacant hplace] at hold
      cases hold
    rw [file?_set, if_neg hne, hold]

end Folder

namespace Command

theorem Comes.passed_of_write {w : Surroundings} {c : Command} {e : Effect} (h : c.Comes w e)
    {file : String × String} (hwrite : e.write = some file) : e.passed = true := by
  cases h with
  | looked _ hnone => rw [hnone] at hwrite; cases hwrite
  | made _ _ _ hpassed => exact hpassed
  | revised _ _ _ _ hpassed _ => exact hpassed

theorem saved_of_map {α : Type} {x : Except SnapshotError α} {k : α → Snapshot} {t : Snapshot}
    {saved : Bool} (h : x.map (fun a => (k a, true)) = .ok (t, saved)) : saved = true := by
  cases x with
  | error _ => cases h
  | ok _ => cases h; rfl

theorem saved_of_revise {c : Command} {file fresh : String} {s t : Snapshot} {saved : Bool}
    (hkind : c.kind = .revises file) (h : c.revise fresh s = .ok (t, saved)) :
    saved = true ∨ ∃ id d, c = .moveRule file id d ∧ s.moveRule id d = .ok (t, saved) := by
  cases c with
  | init _ _ _ | receive _ _ _ | check _ _ | listRules _ | share _ => cases hkind
  | addRule _ _ => exact .inl (congrArg Prod.snd (Except.ok.inj h)).symm
  | moveRule _ id d => cases hkind; exact .inr ⟨id, d, rfl, h⟩
  | removeRule _ _ => exact .inl (saved_of_map h)
  | editRule _ id _ =>
    cases hr : s.rule? id with
    | none => simp only [revise, hr] at h; cases h
    | some r => simp only [revise, hr] at h; exact .inl (saved_of_map h)

/-- There is nothing to save after a move of a rule that is at the end, and only then. -/
theorem revise_unsaved_iff {c : Command} {file fresh : String} {s t : Snapshot} {saved : Bool}
    (hkind : c.kind = .revises file) (h : c.revise fresh s = .ok (t, saved)) :
    saved = false ↔ ∃ id d, c = .moveRule file id d ∧ s.AtEnd id d := by
  constructor
  · rintro rfl
    obtain hsaved | ⟨id, d, hc, hmove⟩ := saved_of_revise hkind h
    · cases hsaved
    · exact ⟨id, d, hc, (Snapshot.moveRule_eq_false_iff.mp hmove).1⟩
  · rintro ⟨id, d, rfl, hend⟩
    have hmove : s.moveRule id d = .ok (s, false) := Snapshot.moveRule_eq_false_iff.mpr ⟨hend, rfl⟩
    exact congrArg Prod.snd (Except.ok.inj (h.symm.trans hmove))

theorem eq_of_revise_unsaved {c : Command} {file fresh : String} {s t : Snapshot}
    (hkind : c.kind = .revises file) (h : c.revise fresh s = .ok (t, false)) : t = s := by
  obtain hsaved | ⟨_, _, _, hmove⟩ := saved_of_revise hkind h
  · cases hsaved
  · exact (Snapshot.moveRule_eq_false_iff.mp hmove).2

/-- What a row of commands does to a snapshot in memory, and whether there is anything to save; new
rules get the ids of a source from its `n`-th on. -/
def reviseAll (fresh : Nat → String) : Nat → Snapshot → List Command →
    Except SnapshotError (Snapshot × Bool)
  | _, s, [] => .ok (s, false)
  | n, s, c :: cs => do
    let (t, saved) ← c.revise (fresh n) s
    let (u, more) ← reviseAll fresh (n + c.mints) t cs
    return (u, saved || more)

end Command

namespace Bench

open Command

/-- How carrying out a line can end. -/
inductive Ends (b : Bench) (fresh : Nat → String) (now : Calendar.Instant)
    (arguments : List String) (host : Host) : Answer × Bench → Prop where
  | halted {h : Halt} (line : Line.ofArguments arguments = .error h) :
    Ends b fresh now arguments host (.ofHalt h, b)
  | failed (error : Error) : Ends b fresh now arguments host (.ofError error, b)
  | silent {l : Line} {e : Effect} (line : Line.ofArguments arguments = .ok l)
    (comes : l.command.Comes (b.surroundings fresh now host) e) (write : e.write = none) :
    Ends b fresh now arguments host (.ofEffect e, { b with minted := b.minted + e.minted })
  | wrote {l : Line} {e : Effect} {path content : String} {folder : Folder}
    (line : Line.ofArguments arguments = .ok l)
    (comes : l.command.Comes (b.surroundings fresh now host) e)
    (write : e.write = some (path, content)) (put : b.folder.put path content = .ok folder) :
    Ends b fresh now arguments host (.ofEffect e, ⟨folder, b.minted + e.minted⟩)

theorem ends_run (b : Bench) (fresh : Nat → String) (now : Calendar.Instant)
    (arguments : List String) (host : Host) :
    Ends b fresh now arguments host (b.run fresh now arguments host) := by
  rw [run]
  cases hline : Line.ofArguments arguments with
  | error h => exact .halted hline
  | ok l =>
    cases hrun : l.run (b.surroundings fresh now host) with
    | error error =>
      simp only [hrun]
      exact .failed error
    | ok e =>
      obtain ⟨settings, hcommand⟩ := Line.command_run_of_run hrun
      have hcomes := comes_of_run hcommand
      simp only [hrun, settle]
      cases hwrite : e.write with
      | none => exact .silent hline hcomes hwrite
      | some file =>
        obtain ⟨path, content⟩ := file
        cases hput : b.folder.put path content with
        | error message =>
          simp only [hput]
          exact .failed (.file message)
        | ok folder =>
          simp only [hput]
          exact .wrote hline hcomes hwrite hput

section Run

variable {b : Bench} {fresh : Nat → String} {now : Calendar.Instant} {arguments : List String}
  {host : Host} {l : Line} {file : String}

theorem folder_run_of_exit (h : (b.run fresh now arguments host).1.exit ≠ 0) :
    (b.run fresh now arguments host).2.folder = b.folder := by
  have hends := b.ends_run fresh now arguments host
  generalize b.run fresh now arguments host = ended at h hends ⊢
  cases hends with
  | halted _ | failed _ | silent _ _ _ => rfl
  | wrote _ hcomes hwrite _ =>
    exact absurd ((Answer.exit_ofEffect _).mpr (hcomes.passed_of_write hwrite)) h

theorem folder_run_of_looks (hline : Line.ofArguments arguments = .ok l)
    (hkind : l.command.kind = .looks) : (b.run fresh now arguments host).2.folder = b.folder := by
  have hends := b.ends_run fresh now arguments host
  generalize b.run fresh now arguments host = ended at hends ⊢
  cases hends with
  | halted _ | failed _ | silent _ _ _ => rfl
  | wrote hline' hcomes hwrite _ =>
    cases hline.symm.trans hline'
    cases hcomes with
    | looked _ hnone => cases hnone.symm.trans hwrite
    | made hkind' _ _ _ | revised hkind' _ _ _ _ _ => cases hkind.symm.trans hkind'

theorem file?_run_of_makes (hline : Line.ofArguments arguments = .ok l)
    (hkind : l.command.kind = .makes file false) {way : List String} {content : String}
    (h : b.folder.file? way = some content) :
    (b.run fresh now arguments host).2.folder.file? way = some content := by
  have hends := b.ends_run fresh now arguments host
  generalize b.run fresh now arguments host = ended at hends ⊢
  cases hends with
  | halted _ | failed _ | silent _ _ _ => exact h
  | wrote hline' hcomes hwrite hput =>
    cases hline.symm.trans hline'
    cases hcomes with
    | looked hkind' _ | revised hkind' _ _ _ _ _ => cases hkind.symm.trans hkind'
    | made hkind' hclear hwrite' _ =>
      cases hkind.symm.trans hkind'
      cases hwrite.symm.trans hwrite'
      exact Folder.file?_of_put_of_absent hput (hclear rfl) h

theorem exists_revised {c : Command} {e : Effect} (hkind : c.kind = .revises file)
    (h : c.Comes (b.surroundings fresh now host) e) :
    ∃ way text s t saved, b.folder.place file = .file way text ∧ Snapshot.ofText text = .ok s ∧
      c.revise (fresh b.minted) s = .ok (t, saved) ∧ e.minted = c.mints ∧
      e.write = if saved then some (file, t.toText) else none := by
  cases h with
  | looked hkind' _ | made hkind' _ _ _ => cases hkind.symm.trans hkind'
  | @revised _ s t saved hkind' hload hrevise hwrite _ hminted =>
    cases hkind.symm.trans hkind'
    obtain ⟨text, hfind, hs⟩ := Surroundings.load_eq_ok_iff.mp hload
    obtain ⟨way, hplace⟩ := Folder.find_eq_text_iff.mp hfind
    exact ⟨way, text, s, t, saved, hplace, hs, hrevise, hminted, hwrite⟩

theorem run_revises (hline : Line.ofArguments arguments = .ok l)
    (hkind : l.command.kind = .revises file) (hexit : (b.run fresh now arguments host).1.exit = 0) :
    ∃ way text s t saved, b.folder.place file = .file way text ∧ Snapshot.ofText text = .ok s ∧
      l.command.revise (fresh b.minted) s = .ok (t, saved) ∧
      (b.run fresh now arguments host).2.minted = b.minted + l.command.mints ∧
      (b.run fresh now arguments host).2.folder =
        if saved then b.folder.set way t.toText else b.folder := by
  have hends := b.ends_run fresh now arguments host
  generalize b.run fresh now arguments host = ended at hexit hends ⊢
  cases hends with
  | halted hline' => cases hline.symm.trans hline'
  | failed _ => cases hexit
  | silent hline' hcomes hnone =>
    cases hline.symm.trans hline'
    obtain ⟨way, text, s, t, saved, hplace, hs, hrevise, hminted, hwrite⟩ :=
      exists_revised hkind hcomes
    obtain rfl : saved = false := by cases saved <;> simp_all
    exact ⟨way, text, s, t, false, hplace, hs, hrevise, congrArg _ hminted, rfl⟩
  | wrote hline' hcomes hsome hput =>
    cases hline.symm.trans hline'
    obtain ⟨way, text, s, t, saved, hplace, hs, hrevise, hminted, hwrite⟩ :=
      exists_revised hkind hcomes
    obtain rfl : saved = true := by cases saved <;> simp_all
    cases hsome.symm.trans hwrite
    refine ⟨way, text, s, t, true, hplace, hs, hrevise, congrArg _ hminted, ?_⟩
    obtain ⟨way', rfl, ⟨_, hplace'⟩ | hplace'⟩ := Folder.put_eq_ok hput <;>
      cases hplace.symm.trans hplace'
    rfl

/-- The files behind a command on rules that succeeds, and what is found at the path that it was
given. -/
theorem files_of_revises (hline : Line.ofArguments arguments = .ok l)
    (hkind : l.command.kind = .revises file) (hexit : (b.run fresh now arguments host).1.exit = 0) :
    ∃ way text s t saved, b.folder.place file = .file way text ∧ Snapshot.ofText text = .ok s ∧
      l.command.revise (fresh b.minted) s = .ok (t, saved) ∧
      (b.run fresh now arguments host).2.minted = b.minted + l.command.mints ∧
      (b.run fresh now arguments host).2.folder.file? way =
        some (if saved then t.toText else text) ∧
      (b.run fresh now arguments host).2.folder.find file =
        .text (if saved then t.toText else text) ∧
      ∀ other, other ≠ way →
        (b.run fresh now arguments host).2.folder.file? other = b.folder.file? other := by
  obtain ⟨way, text, s, t, saved, hplace, hs, hrevise, hminted, hfolder⟩ :=
    run_revises hline hkind hexit
  refine ⟨way, text, s, t, saved, hplace, hs, hrevise, hminted, ?_⟩
  rw [hfolder]
  cases saved with
  | true =>
    refine ⟨?_, Folder.find_put _ _ _ _ (Folder.put_of_place hplace t.toText), ?_⟩
    · exact (Folder.file?_set ..).trans (if_pos rfl)
    · exact fun other hother => (Folder.file?_set ..).trans (if_neg hother)
  | false =>
    exact ⟨Folder.file?_of_place hplace, Folder.find_eq_text_iff.mpr ⟨way, hplace⟩, fun _ _ => rfl⟩

theorem exit_run_of_revise {settings : Settings} {way : List String} {text : String}
    {s t : Snapshot} {saved : Bool} (hline : Line.ofArguments arguments = .ok l)
    (hsettings : (b.surroundings fresh now host).settings l.settings = .ok settings)
    (hkind : l.command.kind = .revises file) (hplace : b.folder.place file = .file way text)
    (hs : Snapshot.ofText text = .ok s)
    (hrevise : l.command.revise (fresh b.minted) s = .ok (t, saved)) :
    (b.run fresh now arguments host).1.exit = 0 := by
  have hload : (b.surroundings fresh now host).load file = .ok s :=
    Surroundings.load_eq_ok_iff.mpr ⟨text, Folder.find_eq_text_iff.mpr ⟨way, hplace⟩, hs⟩
  obtain ⟨e, hcommand⟩ := run_of_revise hkind hload hrevise settings
  have hrun : l.run (b.surroundings fresh now host) = .ok e :=
    Except.bind_eq_ok_iff.mpr ⟨settings, hsettings, hcommand⟩
  rw [run]
  simp only [hline, hrun, settle]
  cases comes_of_run hcommand with
  | looked hkind' _ | made hkind' _ _ _ => cases hkind.symm.trans hkind'
  | @revised _ _ u saved hkind' _ _ hwrite hpassed _ =>
    cases hkind.symm.trans hkind'
    cases saved <;>
      simp only [hwrite, if_true, Bool.false_eq_true, if_false, Folder.put_of_place hplace] <;>
      exact (Answer.exit_ofEffect e).mpr hpassed

theorem run_of_revise {settings : Settings} {way : List String} {text : String} {s t : Snapshot}
    {saved : Bool} (hline : Line.ofArguments arguments = .ok l)
    (hsettings : (b.surroundings fresh now host).settings l.settings = .ok settings)
    (hkind : l.command.kind = .revises file) (hplace : b.folder.place file = .file way text)
    (hs : Snapshot.ofText text = .ok s)
    (hrevise : l.command.revise (fresh b.minted) s = .ok (t, saved)) :
    (b.run fresh now arguments host).1.exit = 0 ∧ (b.run fresh now arguments host).2 =
      ⟨if saved then b.folder.set way t.toText else b.folder, b.minted + l.command.mints⟩ := by
  have hexit := exit_run_of_revise hline hsettings hkind hplace hs hrevise
  obtain ⟨_, _, _, _, _, hplace', hs', hrevise', hminted, hfolder⟩ := run_revises hline hkind hexit
  obtain ⟨rfl, rfl⟩ := Place.file.inj (hplace.symm.trans hplace')
  obtain rfl := Except.ok.inj (hs.symm.trans hs')
  cases Except.ok.inj (hrevise.symm.trans hrevise')
  refine ⟨hexit, ?_⟩
  rw [← hminted, ← hfolder]

end Run

/-- Commands on the rules of one file, carried out one after another, each with success. -/
inductive Revisions (fresh : Nat → String) (way : List String) :
    Bench → List Command → Bench → Prop where
  | done (b : Bench) : Revisions fresh way b [] b
  | next {b b' : Bench} {now : Calendar.Instant} {arguments : List String} {host : Host} {l : Line}
    {cs : List Command} {file text : String} (line : Line.ofArguments arguments = .ok l)
    (kind : l.command.kind = .revises file) (leads : b.folder.place file = .file way text)
    (exit : (b.run fresh now arguments host).1.exit = 0)
    (rest : Revisions fresh way (b.run fresh now arguments host).2 cs b') :
    Revisions fresh way b (l.command :: cs) b'

theorem Revisions.acts_in_memory {fresh : Nat → String} {way : List String} {b b' : Bench}
    {cs : List Command} (h : Revisions fresh way b cs b') {text : String} {s : Snapshot}
    (hfile : b.folder.file? way = some text) (hs : Snapshot.ofText text = .ok s) :
    ∃ t saved, reviseAll fresh b.minted s cs = .ok (t, saved) ∧ (saved = false → t = s) ∧
      b'.folder.file? way = some (if saved then t.toText else text) ∧
      ∀ other, other ≠ way → b'.folder.file? other = b.folder.file? other := by
  induction h generalizing text s with
  | done b => exact ⟨s, false, rfl, fun _ => rfl, hfile, fun _ _ => rfl⟩
  | @next b b' now arguments host l cs file _ hline hkind hleads hexit _ ih =>
    obtain ⟨way', text', s', t, saved, hplace, hs', hrevise, hminted, hfile', -, hothers'⟩ :=
      files_of_revises hline hkind hexit
    obtain ⟨rfl, -⟩ := Place.file.inj (hplace.symm.trans hleads)
    obtain rfl := Option.some.inj (hfile.symm.trans (Folder.file?_of_place hplace))
    obtain rfl := Except.ok.inj (hs.symm.trans hs')
    -- Whether or not the command has written, the file is one of the snapshot in memory.
    have ht : Snapshot.ofText (if saved then t.toText else text) = .ok t := by
      cases saved with
      | true => exact t.ofText_toText
      | false => exact eq_of_revise_unsaved hkind hrevise ▸ hs
    obtain ⟨u, more, hall, hunsaved, hlast, hothers⟩ := ih hfile' ht
    refine ⟨u, saved || more, ?_, ?_, ?_, fun other hother => ?_⟩
    · rw [hminted] at hall
      simp only [reviseAll, hrevise, hall, bind, Except.bind, pure, Except.pure]
    · intro hnone
      obtain ⟨rfl, rfl⟩ := Bool.or_eq_false_iff.mp hnone
      exact (hunsaved rfl).trans (eq_of_revise_unsaved hkind hrevise)
    · rw [hlast]
      cases more with
      | true => simp
      | false => simp [hunsaved rfl]
    · exact (hothers other hother).trans (hothers' other hother)

theorem Revisions.saved_once {fresh : Nat → String} {way : List String} {b b' : Bench}
    {c : Command} {cs : List Command} (h : Revisions fresh way b (c :: cs) b') :
    ∃ text s t saved, b.folder.file? way = some text ∧ Snapshot.ofText text = .ok s ∧
      reviseAll fresh b.minted s (c :: cs) = .ok (t, saved) ∧
      b'.folder.file? way = some (if saved then t.toText else text) ∧
      Snapshot.ofText (if saved then t.toText else text) = .ok t ∧
      ∀ other, other ≠ way → b'.folder.file? other = b.folder.file? other := by
  obtain ⟨text, s, hfile, hs⟩ : ∃ text s,
      b.folder.file? way = some text ∧ Snapshot.ofText text = .ok s := by
    cases h with
    | next hline hkind hleads hexit _ =>
      obtain ⟨_, text, s, _, _, hplace, hs, -⟩ := run_revises hline hkind hexit
      cases hplace.symm.trans hleads
      exact ⟨_, s, Folder.file?_of_place hleads, hs⟩
  obtain ⟨t, saved, hall, hunsaved, hlast, hothers⟩ := h.acts_in_memory hfile hs
  refine ⟨text, s, t, saved, hfile, hs, hall, hlast, ?_, hothers⟩
  cases saved with
  | true => exact t.ofText_toText
  | false => exact hunsaved rfl ▸ hs

/-- A line that fails changes no file, one that only looks neither, and one that makes a file
without force leaves all the files there are.  A command on rules that succeeds puts into its file
what it makes of the snapshot there, or leaves the file if it moves a rule that is at the end, and
whoever looks at the path then finds that text; it succeeds where the settings and the file can be
read and it does so in memory.  A row of such commands does the same as in memory, with the result
saved once. -/
theorem commands_act_in_memory (fresh : Nat → String) :
    (∀ (b : Bench) now arguments host, (b.run fresh now arguments host).1.exit ≠ 0 →
      (b.run fresh now arguments host).2.folder = b.folder) ∧
    (∀ (b : Bench) now arguments host l file, Line.ofArguments arguments = .ok l →
      l.command.kind = .makes file false → ∀ way text, b.folder.file? way = some text →
        (b.run fresh now arguments host).2.folder.file? way = some text) ∧
    (∀ (b : Bench) now arguments host l, Line.ofArguments arguments = .ok l →
      l.command.kind = .looks → (b.run fresh now arguments host).2.folder = b.folder) ∧
    (∀ (b : Bench) now arguments host l file, Line.ofArguments arguments = .ok l →
      l.command.kind = .revises file → (b.run fresh now arguments host).1.exit = 0 →
        ∃ way text s t saved, b.folder.place file = .file way text ∧
          Snapshot.ofText text = .ok s ∧ l.command.revise (fresh b.minted) s = .ok (t, saved) ∧
          (saved = false ↔ ∃ id d, l.command = .moveRule file id d ∧ s.AtEnd id d) ∧
          (b.run fresh now arguments host).2.folder.file? way =
            some (if saved then t.toText else text) ∧
          (b.run fresh now arguments host).2.folder.find file =
            .text (if saved then t.toText else text) ∧
          ∀ other, other ≠ way →
            (b.run fresh now arguments host).2.folder.file? other = b.folder.file? other) ∧
    (∀ (b : Bench) now arguments host l file settings way text s t saved,
      Line.ofArguments arguments = .ok l → l.command.kind = .revises file →
        (b.surroundings fresh now host).settings l.settings = .ok settings →
        b.folder.place file = .file way text → Snapshot.ofText text = .ok s →
        l.command.revise (fresh b.minted) s = .ok (t, saved) →
          (b.run fresh now arguments host).1.exit = 0) ∧
    ∀ way (b b' : Bench) c cs, Revisions fresh way b (c :: cs) b' →
      ∃ text s t saved, b.folder.file? way = some text ∧ Snapshot.ofText text = .ok s ∧
        reviseAll fresh b.minted s (c :: cs) = .ok (t, saved) ∧
        b'.folder.file? way = some (if saved then t.toText else text) ∧
        Snapshot.ofText (if saved then t.toText else text) = .ok t ∧
        ∀ other, other ≠ way → b'.folder.file? other = b.folder.file? other := by
  refine ⟨fun _ _ _ _ => folder_run_of_exit, fun _ _ _ _ _ _ hline hkind _ _ =>
    file?_run_of_makes hline hkind, fun _ _ _ _ _ => folder_run_of_looks,
    fun b now arguments host l file hline hkind hexit => ?_,
    fun _ _ _ _ _ _ _ _ _ _ _ _ hline hkind hsettings => exit_run_of_revise hline hsettings hkind,
    fun _ _ _ _ _ h => h.saved_once⟩
  obtain ⟨way, text, s, t, saved, hplace, hs, hrevise, -, hfiles⟩ :=
    files_of_revises hline hkind hexit
  exact ⟨way, text, s, t, saved, hplace, hs, hrevise, revise_unsaved_iff hkind hrevise, hfiles⟩

private def pantry : Snapshot where
  data := "null"
  previousData := "null"
  rules := [.ofRule "jam" ⟨"Jam", .accept, "Jam > 0", "No jam"⟩]

private def shelf : Bench := ⟨⟨[(["notes"], "jam"), (["p.json"], pantry.toText)]⟩, 0⟩

private def noon : Calendar.Instant := ⟨⟨2024, 5, 6, by decide⟩, 43200, 0, 0⟩

private def labels (n : Nat) : String := String.ofList (List.replicate n 'i')

private def move : List String := ["rule", "move", "p.json", "jam", "up"]

private def remove : List String := ["rule", "remove", "./p.json", "jam"]

/-- The only rule is moved, which is no move at all, and taken away. -/
private theorem revisions_shelf : Revisions labels ["p.json"] shelf
    [.moveRule "p.json" "jam" .up, .removeRule "./p.json" "jam"]
    (shelf.run labels noon remove).2 := by
  have hmove : Line.ofArguments move = .ok ⟨"ruleplay.json", .moveRule "p.json" "jam" .up⟩ := rfl
  have hremove : Line.ofArguments remove =
    .ok ⟨"ruleplay.json", .removeRule "./p.json" "jam"⟩ := rfl
  have hsettings : (shelf.surroundings labels noon).settings "ruleplay.json" = .ok .default := rfl
  have hplace : shelf.folder.place "p.json" = .file ["p.json"] pantry.toText := rfl
  have hplace' : shelf.folder.place "./p.json" = .file ["p.json"] pantry.toText := rfl
  have hread : Snapshot.ofText pantry.toText = .ok pantry := pantry.ofText_toText
  obtain ⟨hexit, hrun⟩ := run_of_revise hmove hsettings rfl hplace hread rfl
  obtain ⟨hexit', -⟩ := run_of_revise hremove hsettings rfl hplace' hread rfl
  have hshelf : (shelf.run labels noon move).2 = shelf := hrun
  refine .next hmove rfl hplace hexit ?_
  rw [hshelf]
  exact .next hremove rfl hplace' hexit' (.done _)

theorem shelf_is_revised_in_memory : ∃ b',
    Revisions labels ["p.json"] shelf
      [.moveRule "p.json" "jam" .up, .removeRule "./p.json" "jam"] b' ∧
    b'.folder.file? ["p.json"] = some (Snapshot.toText { pantry with rules := [] }) ∧
    b'.folder.file? ["notes"] = some "jam" := by
  obtain ⟨-, -, -, -, -, hmemory⟩ := commands_act_in_memory labels
  obtain ⟨text, s, t, saved, hfile, hs, hall, hlast, -, hothers⟩ :=
    hmemory _ _ _ _ _ revisions_shelf
  obtain rfl : pantry.toText = text := Option.some.inj hfile
  obtain rfl := Except.ok.inj (pantry.ofText_toText.symm.trans hs)
  cases Except.ok.inj hall
  exact ⟨_, revisions_shelf, hlast, hothers ["notes"] (by decide)⟩

end Bench

end RuleBench
