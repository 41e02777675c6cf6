import RuleBench.Proofs.Expr.Numerals
import RuleBench.Proofs.Json.Forms

set_option autoImplicit false

/-!
# Expressions as text

A tree is written with parentheses only where an operand is of a looser layer than its place takes.
What the parser makes of a text, written so, is read back as the same tree, at any depth the text
was read at: no text of the tree has fewer parentheses, and none goes less deep.
-/

namespace RuleBench.Expr

/-! ## Doubles -/

/-- A way of writing doubles with a point, such that each is read back. -/
structure NumeralStyle where
  whole : Binary64 → List Char
  fraction : Binary64 → List Char
  digits_whole : ∀ x, Digits (whole x)
  digits_fraction : ∀ x, Digits (fraction x)
  denotes : ∀ x, x.negative = false → decimalValue (whole x) (fraction x) = .num (.real x)

theorem digits_toDigits (n : Nat) : Digits (Nat.toDigits 10 n) :=
  ⟨Nat.toDigits_ne_nil, Json.asciiDigit_toDigits n⟩

theorem digitsValue_toDigits (n : Nat) : digitsValue (Nat.toDigits 10 n) = n :=
  Nat.ofDigitChars_ten_toDigits

/-- All the digits of the value. -/
def NumeralStyle.exact : NumeralStyle where
  whole x := Nat.toDigits 10 (x.inPlaces / 10 ^ x.places)
  fraction x := Binary64.lastDigits x.places x.inPlaces
  digits_whole x := digits_toDigits _
  digits_fraction x := by
    refine ⟨fun hnil => ?_, fun c hc => Binary64.isDigit_of_mem_lastDigits c hc⟩
    have hlength := Binary64.length_lastDigits x.places x.inPlaces
    rw [hnil, Binary64.places, List.length_nil] at hlength
    omega
  denotes x hx := by
    have hvalue : digitsValue (Nat.toDigits 10 (x.inPlaces / 10 ^ x.places) ++
        Binary64.lastDigits x.places x.inPlaces) = x.inPlaces := by
      change Nat.ofDigitChars 10 _ 0 = _
      rw [Nat.ofDigitChars_append, Nat.ofDigitChars_ten_toDigits,
        Binary64.ofDigitChars_lastDigits, Nat.div_add_mod']
    have hread : x.value = x.inPlaces / 10 ^ x.places := by
      rw [← Binary64.magnitude_eq_inPlaces, Binary64.value, hx]
      simp
    rw [decimalValue, hvalue, Binary64.length_lastDigits, Binary64.ofDecimal?_eq hx hread]

/-! ## Text -/

def escape : List Char → List Char
  | [] => []
  | '\\' :: t => '\\' :: '\\' :: escape t
  | '"' :: t => '\\' :: '"' :: escape t
  | '\n' :: t => '\\' :: 'n' :: escape t
  | c :: t => c :: escape t

/-- An operand in its place. -/
def enclose (place : Layer) (e : Expr) (text : List Char) : List Char :=
  if e.layer.rank < place.rank then '(' :: (text ++ [')']) else text

def operatorText (op : BinaryOp) : List Char := ' ' :: (op.symbol.toList ++ [' '])

namespace NumeralStyle

variable (style : NumeralStyle)

/-- Lists and objects are not written: no literal is one. -/
def literalText : Json → List Char
  | .null => ".EMPTY.".toList
  | .bool true => ".TRUE.".toList
  | .bool false => ".FALSE.".toList
  | .num (.whole w) => Nat.toDigits 10 w.val.toNat
  | .num (.real x) => style.whole x ++ '.' :: style.fraction x
  | .str t => '"' :: (escape t.toList ++ ['"'])
  | .arr _ | .obj _ => []

mutual

def text : Expr → List Char
  | .literal v => style.literalText v
  | .field name => name.toList
  | .last name => "LAST".toList ++ ([' '] ++ name.toList)
  | .now => ".NOW.".toList
  | .today => ".TODAY.".toList
  | .not x => ".NOT.".toList ++ [' '] ++ enclose .negation x (text x)
  | .negate x => "-".toList ++ enclose .unary x (text x)
  | .binary op l r =>
    enclose op.leftLayer l (text l) ++ (operatorText op ++ enclose op.layer.next r (text r))
  | .call f args => f.name.toList ++ ("(".toList ++ (argumentsText args ++ ")".toList))

def argumentsText : List Expr → List Char
  | [] => []
  | x :: rest => text x ++ furtherText rest

def furtherText : List Expr → List Char
  | [] => []
  | x :: rest => ",".toList ++ [' '] ++ (text x ++ furtherText rest)

end

def render (e : Expr) : String := String.ofList (style.text e)

theorem text_field (name : String) : style.text (.field name) = name.toList := rfl

theorem text_last (name : String) :
    style.text (.last name) = "LAST".toList ++ ([' '] ++ name.toList) := rfl

theorem text_not (x : Expr) :
    style.text (.not x) = ".NOT.".toList ++ [' '] ++ enclose .negation x (style.text x) := rfl

theorem text_negate (x : Expr) :
    style.text (.negate x) = "-".toList ++ enclose .unary x (style.text x) := rfl

theorem text_binary (op : BinaryOp) (l r : Expr) :
    style.text (.binary op l r) = enclose op.leftLayer l (style.text l) ++
      (operatorText op ++ enclose op.layer.next r (style.text r)) := rfl

theorem text_call (f : Function) (args : List Expr) :
    style.text (.call f args) =
      f.name.toList ++ ("(".toList ++ (style.argumentsText args ++ ")".toList)) := rfl

theorem argumentsText_cons (x : Expr) (rest : List Expr) :
    style.argumentsText (x :: rest) = style.text x ++ style.furtherText rest := rfl

theorem furtherText_cons (x : Expr) (rest : List Expr) :
    style.furtherText (x :: rest) =
      ",".toList ++ [' '] ++ (style.text x ++ style.furtherText rest) := rfl

end NumeralStyle

/-! ## Depth -/

def placeDepth (place : Layer) (e : Expr) (depth : Nat) : Nat :=
  if e.layer.rank < place.rank then depth + 1 else depth

mutual

/-- How many levels below its own the text of a tree reaches. -/
def textDepth : Expr → Nat
  | .not x => placeDepth .negation x (textDepth x) + 1
  | .negate x => placeDepth .unary x (textDepth x) + 1
  | .binary op l r =>
    max (placeDepth op.leftLayer l (textDepth l)) (placeDepth op.layer.next r (textDepth r))
  | .call _ args => argumentsDepth args
  | _ => 0

def argumentsDepth : List Expr → Nat
  | [] => 0
  | x :: rest => max (textDepth x + 1) (argumentsDepth rest)

end

/-! ## Atoms -/

theorem quoted_escape (t : List Char) : Quoted (escape t) t := by
  fun_induction escape t with
  | case1 => exact .nil
  | case2 t ih => exact .backslash ih
  | case3 t ih => exact .quote ih
  | case4 t ih => exact .newline ih
  | case5 c t hb hq _ ih => exact .plain hq hb ih

theorem count_quoted {w t : List Char} (h : Quoted w t) : w.count '(' = t.count '(' := by
  induction h with
  | nil => rfl
  | plain _ _ _ ih => rw [List.count_cons, List.count_cons, ih]
  | backslash _ ih | quote _ ih | newline _ ih => simpa using ih

theorem count_eq_zero_of_all {p : Char → Bool} (hp : p '(' = false) {w : List Char}
    (h : ∀ c ∈ w, p c = true) : w.count '(' = 0 := by
  refine List.count_eq_zero.mpr fun hmem => ?_
  rw [h _ hmem] at hp
  cases hp

theorem count_name {n : List Char} (h : Name n) : n.count '(' = 0 :=
  count_eq_zero_of_all (p := inName) (by decide) h.inName

theorem count_digits {w : List Char} (h : Digits w) : w.count '(' = 0 :=
  count_eq_zero_of_all (p := Text.asciiDigit) (by decide) h.2

variable (style : NumeralStyle)

theorem constant_text {spelling : String} {e : Expr} (h : (spelling, e) ∈ constants) :
    Atom e (style.text e) ∧ (style.text e).count '(' = 0 := by
  have hall : ∀ entry ∈ constants, style.text entry.2 = entry.1.toList ∧
      Spells entry.1 entry.1.toList ∧ entry.1.toList.count '(' = 0 := by
    simp only [constants, List.forall_mem_cons]
    exact ⟨⟨rfl, rfl, rfl⟩, ⟨rfl, rfl, rfl⟩, ⟨rfl, rfl, rfl⟩, ⟨rfl, rfl, rfl⟩, ⟨rfl, rfl, rfl⟩,
      fun _ h => absurd h List.not_mem_nil⟩
  obtain ⟨htext, hspells, hcount⟩ := hall _ h
  rw [htext]
  exact ⟨.constant h hspells, hcount⟩

/-- The text of an atom is one of its tokens, with no more parentheses than any other. -/
theorem Atom.text {e : Expr} {w : List Char} (h : Atom e w) :
    Atom e (style.text e) ∧ (style.text e).count '(' ≤ w.count '(' := by
  have least : Atom e (style.text e) ∧ (style.text e).count '(' = 0 →
      Atom e (style.text e) ∧ (style.text e).count '(' ≤ w.count '(' :=
    fun h => ⟨h.1, h.2.trans_le (Nat.zero_le _)⟩
  cases h with
  | constant hm => exact least (constant_text style hm)
  | integer hd small =>
    obtain ⟨n, hn, heq⟩ := Json.Form.ofNat_eq (n := digitsValue w) (by omega)
    have hwhole : style.text (.literal (.num (.whole n))) = Nat.toDigits 10 n.val.toNat := rfl
    have htext : style.text (.literal (Json.ofNat (digitsValue w))) =
        Nat.toDigits 10 (digitsValue w) := by
      rw [heq, hwhole, hn, Int.toNat_natCast]
    have hdigits := digits_toDigits (digitsValue w)
    have hatom := Atom.integer hdigits (by rwa [digitsValue_toDigits])
    rw [digitsValue_toDigits] at hatom
    refine least ?_
    rw [htext]
    exact ⟨hatom, count_digits hdigits⟩
  | @decimal whole fraction hw hf =>
    refine least ?_
    rcases lt_or_ge (pointed whole fraction) Binary64.overflow with hlt | hge
    · obtain ⟨x, hx, hsign, -⟩ := decimalValue_of_lt hlt
      have hatom := Atom.decimal (style.digits_whole x) (style.digits_fraction x)
      rw [style.denotes x hsign] at hatom
      rw [hx]
      refine ⟨hatom, ?_⟩
      change (style.whole x ++ '.' :: style.fraction x).count '(' = 0
      simp [count_digits (style.digits_whole x), count_digits (style.digits_fraction x)]
    · rw [decimalValue_of_le hge]
      exact constant_text style
        (show (".EMPTY.", Expr.literal .null) ∈ constants by simp [constants])
  | @string w t hq =>
    have hescape := quoted_escape t
    have htext : style.text (.literal (.str (String.ofList t))) = '"' :: (escape t ++ ['"']) :=
      congrArg (fun t => '"' :: (escape t ++ ['"'])) String.toList_ofList
    rw [htext]
    refine ⟨.string hescape, ?_⟩
    simp [count_quoted hq, count_quoted hescape]
  | @last _ _ n hk hg hne hn =>
    have hkeyword : Spells "LAST" "LAST".toList := rfl
    refine least ⟨?_, ?_⟩
    · rw [style.text_last, String.toList_ofList (l := n)]
      exact .last hkeyword spaces_blank (List.cons_ne_nil _ _) hn
    · simp [style.text_last, count_name hn]
  | field hn =>
    refine least ?_
    rw [style.text_field, String.toList_ofList]
    exact ⟨.field hn, count_name hn⟩

theorem Atom.layer_eq {e : Expr} {w : List Char} (h : Atom e w) :
    e.layer = .primary ∧ textDepth e = 0 := by
  cases h with
  | constant h =>
    simp only [constants, List.mem_cons, Prod.mk.injEq, List.not_mem_nil, or_false] at h
    rcases h with ⟨-, rfl⟩ | ⟨-, rfl⟩ | ⟨-, rfl⟩ | ⟨-, rfl⟩ | ⟨-, rfl⟩ <;>
      exact ⟨rfl, by simp [textDepth]⟩
  | integer | decimal | string | last | field => exact ⟨rfl, by simp [textDepth]⟩

/-! ## The text of a tree is derived -/

theorem spaced_mid (spelling : String) {before after : List Char} (hb : Spaces before)
    (h : Spells spelling spelling.toList) (ha : Spaces after) :
    Spaced (Spells spelling) (before ++ spelling.toList ++ after) :=
  ⟨before, spelling.toList, after, hb, h, ha, rfl⟩

theorem operator_operatorText (op : BinaryOp) : Operator op.layer op (operatorText op) := by
  refine ⟨op.mem_operators, op.symbol, op.symbol_mem_spellings, ?_⟩
  exact spaced_mid op.symbol spaces_blank (by cases op <;> rfl) spaces_blank

theorem Derives.enclose (level : Nat) (place : Layer) {e : Expr} {w : List Char}
    (h : ∀ level, level + textDepth e ≤ maxDepth → Derives level (.tree e.layer e) w)
    (hl : level + placeDepth place e (textDepth e) ≤ maxDepth) :
    Derives level (.tree place e) (Expr.enclose place e w) := by
  unfold placeDepth at hl
  unfold Expr.enclose
  split at hl
  · rename_i hlt
    rw [if_pos hlt]
    have hinner := (h (level + 1) (by omega)).of_rank_le .disjunction (Nat.zero_le _)
    have hparens := Derives.parentheses (by omega) (spaced_self "(" rfl) hinner
      (spaced_self ")" rfl)
    exact hparens.of_rank_le place (Layer.rank_le_rank_primary place)
  · rename_i hle
    rw [if_neg hle]
    exact (h level hl).of_rank_le place (Nat.not_lt.mp hle)

theorem derives_tip {level : Nat} {e : Expr} (h : Atom e (style.text e)) :
    Derives level (.tree e.layer e) (style.text e) := by
  rw [h.layer_eq.1]
  exact .atom ⟨[], _, [], spaces_nil, h, spaces_nil, (List.append_nil _).symm⟩

mutual

theorem derives_text : ∀ (e : Expr), (∀ a ∈ e.atoms, Atom a (style.text a)) →
    ∀ level, level + textDepth e ≤ maxDepth → Derives level (.tree e.layer e) (style.text e)
  | .literal _, ha, _, _ => derives_tip style (ha _ (by simp [atoms]))
  | .field _, ha, _, _ => derives_tip style (ha _ (by simp [atoms]))
  | .last _, ha, _, _ => derives_tip style (ha _ (by simp [atoms]))
  | .now, ha, _, _ => derives_tip style (ha _ (by simp [atoms]))
  | .today, ha, _, _ => derives_tip style (ha _ (by simp [atoms]))
  | .not x, ha, level, hl => by
    rw [textDepth] at hl
    have hx := Derives.enclose (level + 1) .negation
      (derives_text x (by rwa [atoms] at ha)) (by omega)
    rw [style.text_not]
    exact .not (by omega) (spaced_mid ".NOT." spaces_nil rfl spaces_blank) hx
  | .negate x, ha, level, hl => by
    rw [textDepth] at hl
    have hx := Derives.enclose (level + 1) .unary
      (derives_text x (by rwa [atoms] at ha)) (by omega)
    rw [style.text_negate]
    exact .minus (by omega) (spaced_self "-" rfl) hx
  | .binary op l r, ha, level, hl => by
    rw [textDepth] at hl
    rw [atoms] at ha
    have hleft := Derives.enclose level op.leftLayer
      (derives_text l fun a h => ha a (List.mem_append_left _ h)) (by omega)
    have hright := Derives.enclose level op.layer.next
      (derives_text r fun a h => ha a (List.mem_append_right _ h)) (by omega)
    have hop := operator_operatorText op
    rw [style.text_binary]
    rcases op.isChain_or_comparison with hchain | hcomparison
    · rw [BinaryOp.leftLayer_of_isChain hchain] at hleft ⊢
      exact hleft.snoc hchain hop hright
    · have hplace : op.leftLayer = .sum := by rw [BinaryOp.leftLayer, hcomparison]
      rw [hcomparison] at hop hright
      rw [hplace] at hleft ⊢
      rw [layer, hcomparison]
      exact .compare hleft hop hright
  | .call f args, ha, level, hl => by
    rw [textDepth] at hl
    rw [atoms] at ha
    rw [style.text_call]
    exact .call spaces_nil (by cases f <;> rfl)
      (spaced_self "(" rfl) (derives_argumentsText args ha level hl)
      (spaced_self ")" rfl)

theorem derives_argumentsText : ∀ (args : List Expr),
    (∀ a ∈ atomsOfAll args, Atom a (style.text a)) →
    ∀ level, level + argumentsDepth args ≤ maxDepth →
      Derives level (.arguments args) (style.argumentsText args)
  | [], _, _, _ => .noArguments
  | x :: rest, ha, level, hl => by
    rw [argumentsDepth] at hl
    rw [atomsOfAll] at ha
    have hx := derives_text x (fun a h => ha a (List.mem_append_left _ h)) (level + 1) (by omega)
    have hrest := derives_furtherText rest (fun a h => ha a (List.mem_append_right _ h)) level
      (by omega)
    rw [style.argumentsText_cons]
    exact .someArguments (by omega) (hx.of_rank_le _ (Nat.zero_le _)) hrest

theorem derives_furtherText : ∀ (args : List Expr),
    (∀ a ∈ atomsOfAll args, Atom a (style.text a)) →
    ∀ level, level + argumentsDepth args ≤ maxDepth →
      Derives level (.furtherArguments args) (style.furtherText args)
  | [], _, _, _ => .noFurtherArguments
  | x :: rest, ha, level, hl => by
    rw [argumentsDepth] at hl
    rw [atomsOfAll] at ha
    have hx := derives_text x (fun a h => ha a (List.mem_append_left _ h)) (level + 1) (by omega)
    have hrest := derives_furtherText rest (fun a h => ha a (List.mem_append_right _ h)) level
      (by omega)
    rw [style.furtherText_cons]
    exact .furtherArgument (by omega)
      (spaced_mid "," spaces_nil rfl spaces_blank)
      (hx.of_rank_le _ (Nat.zero_le _)) hrest

end

/-! ## No text does with less -/

/-- The text of a tree in its place keeps to the limit from this level on, with no more parentheses
than `w`. -/
def KeepsTo (level : Nat) (place : Layer) (e : Expr) (w : List Char) : Prop :=
  level + placeDepth place e (textDepth e) ≤ maxDepth ∧
    (enclose place e (style.text e)).count '(' ≤ w.count '('

section

variable {style} {level : Nat} {place : Layer} {e : Expr} {w : List Char}

theorem keepsTo_of_eq (hplace : e.layer = place) (hl : level + textDepth e ≤ maxDepth)
    (hcount : (style.text e).count '(' ≤ w.count '(') : KeepsTo style level place e w := by
  have hno : ¬ e.layer.rank < place.rank := by rw [hplace]; exact Nat.lt_irrefl _
  unfold KeepsTo placeDepth enclose
  rw [if_neg hno, if_neg hno]
  exact ⟨hl, hcount⟩

theorem KeepsTo.of_rank_le {place' : Layer} (h : KeepsTo style level place e w)
    (hr : place'.rank ≤ place.rank) : KeepsTo style level place' e w := by
  obtain ⟨hl, hcount⟩ := h
  unfold placeDepth at hl
  unfold enclose at hcount
  unfold KeepsTo placeDepth enclose
  by_cases hlt : e.layer.rank < place'.rank
  · rw [if_pos (hlt.trans_le hr)] at hl hcount
    rw [if_pos hlt, if_pos hlt]
    exact ⟨hl, hcount⟩
  · rw [if_neg hlt, if_neg hlt]
    split at hl
    · rename_i hlt'
      rw [if_pos hlt'] at hcount
      refine ⟨by omega, le_trans ?_ hcount⟩
      simp only [List.count_cons, List.count_append]
      omega
    · rename_i hle'
      rw [if_neg hle'] at hcount
      exact ⟨hl, hcount⟩

theorem keepsTo_binary (op : BinaryOp) {x y : Expr} (t : List Char) {v : List Char}
    (hx : KeepsTo style level op.leftLayer x w) (hy : KeepsTo style level op.layer.next y v) :
    KeepsTo style level op.layer (.binary op x y) (w ++ (t ++ v)) := by
  obtain ⟨hlx, hcx⟩ := hx
  obtain ⟨hly, hcy⟩ := hy
  have hop : (operatorText op).count '(' = 0 := by cases op <;> decide
  refine keepsTo_of_eq rfl ?_ ?_
  · rw [textDepth]
    omega
  · rw [style.text_binary]
    simp only [List.count_append, hop]
    omega

theorem one_le_count_open (h : Spaced (Spells "(") w) : 1 ≤ w.count '(' := by
  obtain ⟨before, core, after, -, hcore, -, rfl⟩ := h
  have hopen : core = ['('] := hcore.eq_of_symbol rfl (by decide)
  rw [hopen]
  simp only [List.count_append, List.count_singleton_self]
  omega

theorem keepsTo_disjunction_iff : KeepsTo style level .disjunction e w ↔
    level + textDepth e ≤ maxDepth ∧ (style.text e).count '(' ≤ w.count '(' := by
  have hno : ¬ e.layer.rank < Layer.disjunction.rank := Nat.not_lt_zero _
  unfold KeepsTo placeDepth enclose
  rw [if_neg hno, if_neg hno]

theorem keepsTo_parentheses {t u : List Char} (ht : Spaced (Spells "(") t)
    (h : KeepsTo style (level + 1) .disjunction e w) :
    KeepsTo style level .primary e (t ++ (w ++ u)) := by
  have hopen := one_le_count_open ht
  obtain ⟨hl, hcount⟩ := keepsTo_disjunction_iff.mp h
  unfold KeepsTo placeDepth enclose
  split
  · have hclose : [')'].count '(' = 0 := by decide
    refine ⟨by omega, ?_⟩
    rw [List.count_cons_self, List.count_append, hclose]
    simp only [List.count_append]
    omega
  · refine ⟨by omega, ?_⟩
    simp only [List.count_append]
    omega

end

/-- What is true of a derived phrase and its text; of operators, that a chain goes on with them. -/
def Spare (level : Nat) : Phrase → List Char → Prop
  | .tree place e, w => KeepsTo style level place e w
  | .links layer more, v => layer.IsChain → ∀ first w, KeepsTo style level layer first w →
      KeepsTo style level layer (foldChain first more) (w ++ v)
  | .arguments args, w => level + argumentsDepth args ≤ maxDepth ∧
      (style.argumentsText args).count '(' ≤ w.count '('
  | .furtherArguments args, w => level + argumentsDepth args ≤ maxDepth ∧
      (style.furtherText args).count '(' ≤ w.count '('

theorem Derives.spare {level : Nat} {phrase : Phrase} {w : List Char}
    (h : Derives level phrase w) (hl : level ≤ maxDepth) : Spare style level phrase w := by
  induction h with
  | @chain _ layer _ _ _ _ hchain _ _ ihfirst ihrest =>
    have hle : layer.rank ≤ layer.next.rank := by cases layer <;> decide
    exact ihrest hl hchain _ _ ((ihfirst hl).of_rank_le hle)
  | noLink =>
    intro _ first w hfirst
    rwa [List.append_nil]
  | @link _ _ op e more t w v ht _ _ ihoperand ihrest =>
    intro hchain first w' hfirst
    obtain ⟨ho, -⟩ := ht
    obtain rfl := BinaryOp.layer_of_mem_operators ho
    rw [← BinaryOp.leftLayer_of_isChain hchain] at hfirst
    have hbinary := keepsTo_binary op t hfirst (ihoperand hl)
    have hall := ihrest hl hchain _ _ hbinary
    rw [List.append_assoc, List.append_assoc] at hall
    exact hall
  | not room _ _ ih =>
    obtain ⟨hdepth, hcount⟩ := ih room
    have hzero : (".NOT.".toList ++ [' ']).count '(' = 0 := by decide
    refine keepsTo_of_eq rfl ?_ ?_
    · rw [textDepth]
      omega
    · rw [style.text_not]
      simp only [List.count_append] at hzero ⊢
      omega
  | unnegated _ ih => exact (ih hl).of_rank_le (by decide)
  | @compare _ op _ _ _ t _ _ ht _ ihleft ihright =>
    have hlayer := BinaryOp.layer_of_mem_operators ht.1
    have hleft : op.leftLayer = .sum := by rw [BinaryOp.leftLayer, hlayer]
    have hright : op.layer.next = .sum := by rw [hlayer]; rfl
    have hbinary := keepsTo_binary op t (hleft ▸ ihleft hl)
      (hright ▸ ihright hl)
    rwa [hlayer] at hbinary
  | uncompared _ ih => exact (ih hl).of_rank_le (by decide)
  | minus room _ _ ih =>
    obtain ⟨hdepth, hcount⟩ := ih room
    have hzero : "-".toList.count '(' = 0 := by decide
    refine keepsTo_of_eq rfl ?_ ?_
    · rw [textDepth]
      omega
    · rw [style.text_negate, List.count_append, List.count_append, hzero]
      omega
  | unsigned _ ih => exact (ih hl).of_rank_le (by decide)
  | parentheses room ht _ _ ih => exact keepsTo_parentheses ht (ih room)
  | atom h =>
    obtain ⟨before, core, after, -, hatom, -, rfl⟩ := h
    obtain ⟨hlayer, hdepth⟩ := hatom.layer_eq
    refine keepsTo_of_eq hlayer (by omega) ((hatom.text style).2.trans ?_)
    simp only [List.count_append]
    omega
  | @call _ f _ _ _ _ _ _ _ _ ht _ _ ih =>
    obtain ⟨hdepth, hcount⟩ := ih hl
    have hopen := one_le_count_open ht
    have hzero : f.name.toList.count '(' = 0 := by cases f <;> decide
    have hone : "(".toList.count '(' = 1 ∧ ")".toList.count '(' = 0 := by decide
    refine keepsTo_of_eq rfl (by rwa [textDepth]) ?_
    rw [style.text_call]
    simp only [List.count_append, hzero, hone]
    omega
  | noArguments => exact ⟨hl, Nat.le_refl _⟩
  | someArguments room _ _ ih ihrest =>
    obtain ⟨hdepth, hcount⟩ := keepsTo_disjunction_iff.mp (ih room)
    obtain ⟨hdepths, hcounts⟩ := ihrest hl
    refine ⟨?_, ?_⟩
    · rw [argumentsDepth]
      omega
    · rw [style.argumentsText_cons, List.count_append, List.count_append]
      omega
  | noFurtherArguments => exact ⟨hl, Nat.le_refl _⟩
  | furtherArgument room _ _ _ ih ihrest =>
    obtain ⟨hdepth, hcount⟩ := keepsTo_disjunction_iff.mp (ih room)
    obtain ⟨hdepths, hcounts⟩ := ihrest hl
    have hzero : (",".toList ++ [' ']).count '(' = 0 := by decide
    refine ⟨?_, ?_⟩
    · rw [argumentsDepth]
      omega
    · rw [style.furtherText_cons]
      simp only [List.count_append] at hzero ⊢
      omega

/-! ## Rendering and parsing -/

theorem Derivation.forall_atom_text {level : Nat} {layer : Layer} {e : Expr} {w : List Char}
    {ps : List Point} (h : Derivation level (.tree layer e) w ps) :
    ∀ a ∈ e.atoms, Atom a (style.text a) := by
  intro a ha
  have hpoints : pointTrees ps = e.atoms := h.pointTrees_eq
  rw [← hpoints] at ha
  obtain ⟨p, -, hp⟩ := List.mem_filterMap.mp ha
  obtain ⟨tip, -, rfl⟩ := Option.map_eq_some_iff.mp hp
  exact (tip.isAtom.text style).1

/-- A tree that was read is read back from its text in any style of numerals, and no other text of
the tree has fewer parentheses. -/
theorem rendering_reads_back (style : NumeralStyle) {source : String} {e : Expr}
    (h : parse source = .ok e) :
    parse (style.render e) = .ok e ∧
      ∀ other, parse other = .ok e →
        (style.render e).toList.count '(' ≤ other.toList.count '(' := by
  obtain ⟨hd, hheight, hfits⟩ := parse_sound h
  obtain ⟨ps, hps, -⟩ := hd.derivation (by decide) hfits
  obtain ⟨hdepth, -⟩ := keepsTo_disjunction_iff.mp (hd.spare style (by decide))
  rw [NumeralStyle.render, String.toList_ofList]
  refine ⟨?_, fun other hother => ?_⟩
  · refine parse_complete ?_ hheight hfits
    rw [String.toList_ofList]
    exact (derives_text style e (hps.forall_atom_text style) 1 hdepth).of_rank_le _ (Nat.zero_le _)
  · have hderived := (parse_sound hother).1
    exact (keepsTo_disjunction_iff.mp (hderived.spare style (by decide))).2

/-! ### A product that lies as deep as any may -/

theorem Derives.nested {level n : Nat} {e : Expr} {w : List Char} (hn : level + n ≤ maxDepth)
    (h : Derives (level + n) (.tree .disjunction e) w) :
    Derives level (.tree .disjunction e)
      (List.replicate n '(' ++ (w ++ List.replicate n ')')) := by
  induction n generalizing level with
  | zero => simpa using h
  | succ n ih =>
    have hbelow : Derives (level + 1 + n) (.tree .disjunction e) w := by
      rwa [Nat.add_right_comm, Nat.add_assoc]
    have hinner := ih (by omega) hbelow
    have hparens := Derives.parentheses (by omega) (spaced_self "(" rfl) hinner
      (spaced_self ")" rfl)
    rw [List.replicate_succ, List.replicate_succ' (a := ')')]
    simpa using hparens.of_rank_le .disjunction (Nat.zero_le _)

theorem deepest_product_is_read_back :
    ∃ source e, source = String.ofList (List.replicate 62 '(' ++
        ("A * (B + C)".toList ++ List.replicate 62 ')')) ∧
      parse source = .ok e ∧ parse "A * (B + C)" = .ok e ∧
      "A * (B + C)".toList.count '(' ≤ source.toList.count '(' := by
  let e : Expr := .binary .multiply (.field "A") (.binary .add (.field "B") (.field "C"))
  have hname : ∀ c, startsName c = true → Atom (.field (String.ofList [c])) [c] :=
    fun c hc => .field ⟨c, [], rfl, hc, by simp⟩
  have hatoms : ∀ a ∈ [.field "A", .field "B", .field "C"],
      Atom a (NumeralStyle.exact.text a) := by
    simp only [List.forall_mem_cons]
    exact ⟨hname 'A' (by decide), hname 'B' (by decide), hname 'C' (by decide),
      fun _ h => absurd h List.not_mem_nil⟩
  have hderived : Derives 63 (.tree .disjunction e) "A * (B + C)".toList :=
    (derives_text .exact e hatoms 63 (by decide)).of_rank_le _ (Nat.zero_le _)
  have hparse : parse (String.ofList (List.replicate 62 '(' ++
      ("A * (B + C)".toList ++ List.replicate 62 ')'))) = .ok e := by
    refine parse_complete ?_ (by decide) ⟨trivial, trivial, trivial⟩
    rw [String.toList_ofList]
    exact hderived.nested (by decide)
  obtain ⟨hback, hleast⟩ := rendering_reads_back .exact hparse
  exact ⟨_, e, rfl, hparse, hback, hleast _ hparse⟩

end RuleBench.Expr
