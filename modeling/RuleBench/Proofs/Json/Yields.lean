import RuleBench.Json.Printer
import RuleBench.Json.Value

set_option autoImplicit false

/-!
# What a scan makes of a text

A scan yields a value on a text when it succeeds on it wherever the text stands, and leaves what
follows.  Places play no part in that.
-/

namespace RuleBench.Json

variable {α β : Type}

/-- A value may end before these characters: a comma, the end of what encloses the value, and
blanks. -/
inductive EndsValue : Char → Prop where
  | comma : EndsValue ','
  | bracket : EndsValue ']'
  | brace : EndsValue '\x7d'
  | space : EndsValue ' '
  | lineFeed : EndsValue '\n'
  | tab : EndsValue '\t'
  | carriageReturn : EndsValue '\r'

theorem endsValue_of_isSpace {c : Char} (h : Cursor.isSpace c = true) : EndsValue c := by
  simp only [Cursor.isSpace, Bool.or_eq_true, beq_iff_eq, or_assoc] at h
  rcases h with rfl | rfl | rfl | rfl
  · exact .space
  · exact .lineFeed
  · exact .tab
  · exact .carriageReturn

/-- A value may end before this text. -/
def Stops : List Char → Prop
  | [] => True
  | c :: _ => EndsValue c

/-- There is nothing in this text but blanks. -/
def Blank (text : List Char) : Prop := ∀ c ∈ text, Cursor.isSpace c = true

theorem blank_nil : Blank [] := List.forall_mem_nil _

namespace Scan

def Yields (s : Scan α) (text : List Char) (a : α) (rest : List Char) : Prop :=
  ∀ c : Cursor, c.rest = text → ∃ c' : Cursor, s c = .ok a c' ∧ c'.rest = rest

theorem exists_of_bind {s : Scan α} {f : α → Scan β} {c c'' : Cursor} {b : β}
    (h : (s >>= f) c = .ok b c'') : ∃ a c', s c = .ok a c' ∧ f a c' = .ok b c'' := by
  change EStateM.bind s f c = _ at h
  rw [EStateM.bind] at h
  cases hs : s c with
  | ok a c' => exact ⟨a, c', rfl, by rwa [hs] at h⟩
  | error f c' =>
    rw [hs] at h
    cases h

namespace Yields

variable {s : Scan α} {a : α} {b : β} {text middle rest : List Char}

theorem pure (a : α) (text : List Char) : Yields (Pure.pure a) text a text :=
  fun c hc => ⟨c, rfl, hc⟩

/-- The first scan of two may be left out of a run. -/
theorem exists_bind (hs : Yields s text a middle) {c : Cursor} (hc : c.rest = text) :
    ∃ c' : Cursor, c'.rest = middle ∧ ∀ f : α → Scan β, (s >>= f) c = f a c' := by
  obtain ⟨c', hs, hc'⟩ := hs c hc
  refine ⟨c', hc', fun f => ?_⟩
  change EStateM.bind s f c = _
  rw [EStateM.bind, hs]

theorem bind {f : α → Scan β} (hs : Yields s text a middle) (hf : Yields (f a) middle b rest) :
    Yields (s >>= f) text b rest := by
  intro c hc
  obtain ⟨c', hc', heq⟩ := hs.exists_bind hc
  obtain ⟨c'', hf, hc''⟩ := hf c' hc'
  exact ⟨c'', (heq f).trans hf, hc''⟩

theorem placed (hs : Yields s text a rest) : Yields (Scan.placed s) text a rest := by
  intro c hc
  obtain ⟨c', hs, hc'⟩ := hs c hc
  exact ⟨c', by rw [Scan.placed, hs], hc'⟩

theorem closedBy {ending : Scan Unit} (hs : Yields s text a middle)
    (he : Yields ending middle () rest) : Yields (Scan.closedBy ending s) text a rest := by
  intro c hc
  obtain ⟨c', hs, hc'⟩ := hs c hc
  obtain ⟨c'', he, hc''⟩ := he c' hc'
  refine ⟨c'', ?_, hc''⟩
  simp only [Scan.closedBy, hs, he]

theorem lift (a : α) (text : List Char) : Yields (Scan.lift (.ok a)) text a text :=
  pure a text

theorem take (ch : Char) (rest : List Char) : Yields Scan.take (ch :: rest) () rest := by
  intro c hc
  refine ⟨c.advance, rfl, ?_⟩
  rw [Cursor.advance, hc]
  split <;> simp_all

theorem peek (text : List Char) : Yields Scan.peek text text.head? text := by
  rintro c rfl
  unfold Scan.peek
  split
  · rename_i h
    exact ⟨c, by rw [h]; rfl, rfl⟩
  · rename_i h
    exact ⟨{ c with ahead := true }, by rw [h]; rfl, rfl⟩

theorem look_of_blank {gap : List Char} (hgap : Blank gap) {ch : Char}
    (h : Cursor.isSpace ch = false) (rest : List Char) :
    Yields Scan.look (gap ++ ch :: rest) (some ch) (ch :: rest) := by
  have hafter (line column : Nat) :
      (Cursor.afterSpaces line column (gap ++ ch :: rest)).1 = ch :: rest := by
    induction gap generalizing line column with
    | nil =>
      have hne : (ch == '\n') = false := by
        simp only [Cursor.isSpace, Bool.or_eq_false_iff] at h
        exact h.1.1.2
      simp [Cursor.afterSpaces, hne, h]
    | cons c gap ih =>
      obtain ⟨hc, hgap⟩ := List.forall_mem_cons.mp hgap
      rw [List.cons_append, Cursor.afterSpaces, if_pos hc]
      split
      · exact ih hgap _ _
      · exact ih hgap _ _
  intro c hc
  have hskip : c.skipSpaces.rest = ch :: rest := by
    rw [Cursor.skipSpaces, hc]
    exact hafter c.line c.column
  exact ⟨c.skipSpaces, by rw [Scan.look, hskip]; rfl, hskip⟩

theorem look {ch : Char} (h : Cursor.isSpace ch = false) (rest : List Char) :
    Yields Scan.look (ch :: rest) (some ch) (ch :: rest) :=
  look_of_blank blank_nil h rest

theorem fuel (text : List Char) : Yields Scan.fuel text (text.length + 1) text := by
  rintro c rfl
  exact ⟨c, rfl, rfl⟩

theorem word (letters rest : List Char) : Yields (Scan.word letters) (letters ++ rest) () rest := by
  induction letters with
  | nil => exact pure () rest
  | cons w more ih =>
    refine (peek (w :: more ++ rest)).bind ?_
    simp only [List.cons_append, List.head?_cons, beq_self_eq_true, if_true]
    exact (take w (more ++ rest)).bind ih

theorem colon {gap : List Char} (hgap : Blank gap) (rest : List Char) :
    Yields Scan.colon (gap ++ ':' :: rest) () rest :=
  (look_of_blank hgap rfl rest).bind (take ':' rest)

theorem look_nil : Yields Scan.look [] none [] := by
  intro c hc
  have hskip : c.skipSpaces.rest = [] := by
    simp [Cursor.skipSpaces, hc, Cursor.afterSpaces]
  exact ⟨c.skipSpaces, by rw [Scan.look, hskip]; rfl, hskip⟩

theorem endOfText : Yields Scan.endOfText [] () [] :=
  look_nil.bind (pure () [])

/-- What is yielded on a whole text is what the text is read as. -/
theorem scanText_eq (hs : Yields s text a []) (drawn : Bool) :
    scanText s drawn (String.ofList text) = .ok a := by
  have hwhole : Yields (do let a ← s; Scan.endOfText; return a) text a [] :=
    hs.bind (endOfText.bind (pure a []))
  obtain ⟨c, hc, -⟩ := hwhole (.start (String.ofList text).toList drawn) String.toList_ofList
  rw [scanText, hc]

end Yields

end Scan

end RuleBench.Json
