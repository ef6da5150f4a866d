import ConsoleBatch.Proofs.Directives

/-! Lower case of a whole text, and lower case of each character.

The two differ in one thing: a capital sigma that ends a word. Lowering each character a second time
changes nothing, since no character that stands for the lower case of another has one itself. -/

namespace ConsoleBatch.Text

theorem lowerChar_ascii : ∀ n < 0x80,
    ((lowerChar (Char.ofNat n)).all fun small => lowerChar small == [small]) = true := by
  decide +kernel

theorem lowerChar_small_ascii : ∀ n < 0x80, 97 ≤ n → lowerChar (Char.ofNat n) = [Char.ofNat n] := by
  decide +kernel

theorem lowerChar_dotted_parts :
    (['i', '\u0307'].all fun small => lowerChar small == [small]) = true := rfl

theorem lowerChar_sigma : lowerChar 'Σ' = ['σ'] := rfl

theorem lowerChar_finalSigma : lowerChar 'ς' = ['ς'] := rfl

theorem lowerChar_beyond_ascii {c : Char} (beyond : ¬ c.toNat < 0x80) (undotted : c ≠ '\u0130') :
    lowerChar c = [((lowerRuns.findSome? (·.lower? c.toNat)).map Char.ofNat).getD c] := by
  unfold lowerChar
  rw [if_neg beyond, if_neg undotted]
  cases lowerRuns.findSome? (·.lower? c.toNat) <;> rfl

theorem lowerChar_of_lower? {run : LowerRun} (listed : run ∈ lowerRuns) {n code : Nat}
    (lowers : run.lower? n = some code) : lowerChar (Char.ofNat code) = [Char.ofNat code] := by
  have apart := List.all_eq_true.mp (List.all_eq_true.mp lowerRuns_miss run listed)
  by_cases valid : code.isValidChar
  · by_cases ascii : code < 0x80
    · exact lowerChar_small_ascii code ascii (letter_of_lower? listed lowers)
    · have number := toNat_ofNat valid
      have undotted : Char.ofNat code ≠ '\u0130' := by
        intro same
        rw [same] at number
        have missed := lower?_of_misses (apart dottedCapital List.mem_cons_self) lowers
        rw [← number] at missed
        cases missed
      have unlisted : lowerRuns.findSome? (·.lower? code) = none := by
        apply List.findSome?_eq_none_iff.mpr
        intro other member
        exact lower?_of_misses (apart other (List.mem_cons_of_mem _ member)) lowers
      rw [lowerChar_beyond_ascii (number.symm ▸ ascii) undotted, number, unlisted]
      rfl
  · rw [ofNat_invalid valid]
    decide

theorem lowerChar_fixed {c small : Char} (member : small ∈ lowerChar c) :
    lowerChar small = [small] := by
  by_cases ascii : c.toNat < 0x80
  · have fixed := List.all_eq_true.mp (lowerChar_ascii c.toNat ascii)
    rw [Char.ofNat_toNat] at fixed
    exact beq_iff_eq.mp (fixed small member)
  · by_cases dotted : c = '\u0130'
    · rw [dotted] at member
      exact beq_iff_eq.mp (List.all_eq_true.mp lowerChar_dotted_parts small member)
    · have single := lowerChar_beyond_ascii ascii dotted
      cases found : lowerRuns.findSome? (·.lower? c.toNat) with
      | some code =>
        rw [single, found] at member
        obtain ⟨run, listed, lowers⟩ := List.exists_of_findSome?_eq_some found
        rw [List.mem_singleton.mp member]
        exact lowerChar_of_lower? listed lowers
      | none =>
        rw [found, Option.map_none, Option.getD_none] at single
        rw [single] at member
        rw [List.mem_singleton.mp member, single]

theorem lowerEach_eq_self {text : List Char} (fixed : ∀ small ∈ text, lowerChar small = [small]) :
    lowerEach text = text := by
  induction text with
  | nil => rfl
  | cons c rest ih =>
    rw [lowerEach, List.flatMap_cons, fixed c List.mem_cons_self]
    exact congrArg (c :: ·) (ih fun small member => fixed small (List.mem_cons_of_mem _ member))

theorem lowerEach_lowerEach (text : List Char) : lowerEach (lowerEach text) = lowerEach text := by
  apply lowerEach_eq_self
  intro small member
  obtain ⟨c, _, lowers⟩ := List.mem_flatMap.mp member
  exact lowerChar_fixed lowers

def lowerWithin (final : Bool) (c : Char) : List Char :=
  if c = 'Σ' then [if final then 'ς' else 'σ'] else lowerChar c

theorem lowerAfter_cons (wordOpen : Bool) (c : Char) (rest : List Char) :
    lowerAfter wordOpen (c :: rest) =
      lowerWithin (wordOpen && ! leadsToCased rest) c ++
        lowerAfter (wordOpenAfter wordOpen c) rest := by
  rw [lowerAfter]
  rfl

theorem lowerWithin_ne_nil (final : Bool) (c : Char) : lowerWithin final c ≠ [] := by
  unfold lowerWithin
  split
  · exact List.cons_ne_nil _ _
  · exact lowerChar_ne_nil c

theorem mem_lowerWithin {final : Bool} {c small : Char} (member : small ∈ lowerWithin final c) :
    small = 'ς' ∨ small ∈ lowerChar c := by
  unfold lowerWithin at member
  split at member
  · rename_i sigma
    rw [List.mem_singleton] at member
    split at member
    · exact .inl member
    · refine .inr ?_
      rw [member, sigma, lowerChar_sigma]
      exact List.mem_cons_self
  · exact .inr member

/-- Each character of a lowered text comes from one character, but for the final form of a sigma. -/
theorem mem_lowerAfter {wordOpen : Bool} {text : List Char} {small : Char}
    (member : small ∈ lowerAfter wordOpen text) :
    small = 'ς' ∨ ∃ c ∈ text, small ∈ lowerChar c := by
  induction text generalizing wordOpen with
  | nil => simp [lowerAfter] at member
  | cons c rest ih =>
    rw [lowerAfter_cons] at member
    rcases List.mem_append.mp member with here | later
    · rcases mem_lowerWithin here with final | lowers
      · exact .inl final
      · exact .inr ⟨c, List.mem_cons_self, lowers⟩
    · rcases ih later with final | ⟨origin, listed, lowers⟩
      · exact .inl final
      · exact .inr ⟨origin, List.mem_cons_of_mem _ listed, lowers⟩

theorem fixed_of_mem_lowerAfter {wordOpen : Bool} {text : List Char} {small : Char}
    (member : small ∈ lowerAfter wordOpen text) : lowerChar small = [small] := by
  rcases mem_lowerAfter member with rfl | ⟨c, _, lowers⟩
  · exact lowerChar_finalSigma
  · exact lowerChar_fixed lowers

theorem lowerEach_lowerAfter (wordOpen : Bool) (text : List Char) :
    lowerEach (lowerAfter wordOpen text) = lowerAfter wordOpen text :=
  lowerEach_eq_self fun _ => fixed_of_mem_lowerAfter

theorem lowerEach_lower (text : List Char) : lowerEach (lower text) = lower text :=
  lowerEach_lowerAfter false text

theorem lowerAfter_ne_nil {text : List Char} (wordOpen : Bool) (some_text : text ≠ []) :
    lowerAfter wordOpen text ≠ [] := by
  cases text with
  | nil => exact absurd rfl some_text
  | cons c rest =>
    rw [lowerAfter_cons]
    exact List.append_ne_nil_of_left_ne_nil (lowerWithin_ne_nil _ c) _

/-- The end of a text is lowered like a text of its own, behind a word that is open or not. -/
theorem lowerAfter_append (wordOpen : Bool) (front back : List Char) :
    ∃ lowered, lowerAfter wordOpen (front ++ back) =
      lowered ++ lowerAfter (front.foldl wordOpenAfter wordOpen) back := by
  induction front generalizing wordOpen with
  | nil => exact ⟨[], rfl⟩
  | cons c rest ih =>
    obtain ⟨lowered, split⟩ := ih (wordOpenAfter wordOpen c)
    rw [List.cons_append, lowerAfter, split, ← List.append_assoc]
    exact ⟨_, rfl⟩

/-- Behind a word that is open or not, a text has a capital sigma within or at the end of a word,
and what follows it is of some kind. -/
def SigmaBehind (follows : List Char → Prop) (wordOpen : Bool) (text : List Char) : Prop :=
  ∃ front back, text = front ++ 'Σ' :: back ∧ front.foldl wordOpenAfter wordOpen = true ∧
    follows back

theorem not_sigmaBehind_nil {follows : List Char → Prop} {wordOpen : Bool} :
    ¬ SigmaBehind follows wordOpen [] := by
  rintro ⟨front, back, split, _⟩
  simp at split

theorem sigmaBehind_cons {follows : List Char → Prop} {wordOpen : Bool} {c : Char}
    {rest : List Char} :
    SigmaBehind follows wordOpen (c :: rest) ↔
      c = 'Σ' ∧ wordOpen = true ∧ follows rest ∨
        SigmaBehind follows (wordOpenAfter wordOpen c) rest := by
  constructor
  · rintro ⟨front, back, split, behind, last⟩
    cases front with
    | nil =>
      obtain ⟨rfl, rfl⟩ := List.cons.inj split
      exact .inl ⟨rfl, behind, last⟩
    | cons first front =>
      obtain ⟨rfl, rfl⟩ := List.cons.inj split
      exact .inr ⟨front, back, rfl, behind, last⟩
  · rintro (⟨rfl, behind, last⟩ | ⟨front, back, rfl, behind, last⟩)
    · exact ⟨[], rest, rfl, behind, last⟩
    · exact ⟨c :: front, back, rfl, behind, last⟩

/-- Behind a word that is open or not, a text has a capital sigma that ends a word: characters with
case went before it in the word, and none follow. -/
def EndsWordBehind (wordOpen : Bool) (text : List Char) : Prop :=
  ∃ front back, text = front ++ 'Σ' :: back ∧ front.foldl wordOpenAfter wordOpen = true ∧
    leadsToCased back = false

def HasFinalSigma (text : List Char) : Prop :=
  EndsWordBehind false text

theorem endsWordBehind_cons {wordOpen : Bool} {c : Char} {rest : List Char} :
    EndsWordBehind wordOpen (c :: rest) ↔
      c = 'Σ' ∧ wordOpen = true ∧ leadsToCased rest = false ∨
        EndsWordBehind (wordOpenAfter wordOpen c) rest :=
  sigmaBehind_cons

theorem lowerAfter_eq_iff (wordOpen : Bool) (text : List Char) :
    lowerAfter wordOpen text = lowerEach text ↔ ¬ EndsWordBehind wordOpen text := by
  induction text generalizing wordOpen with
  | nil => exact iff_of_true rfl not_sigmaBehind_nil
  | cons c rest ih =>
    rw [endsWordBehind_cons, not_or, ← ih]
    have each : lowerEach (c :: rest) = lowerChar c ++ lowerEach rest := rfl
    rw [each, lowerAfter]
    by_cases sigma : c = 'Σ'
    · subst sigma
      cases wordOpen <;> cases leadsToCased rest <;> simp [lowerChar_sigma]
    · simp [sigma]

/-- A text is lowered as a whole like each of its characters, unless a capital sigma ends a word of
it. -/
theorem lower_eq_lowerEach_iff {text : List Char} :
    lower text = lowerEach text ↔ ¬ HasFinalSigma text :=
  lowerAfter_eq_iff false text

def innerSigma (c : Char) : Char :=
  if c = 'ς' then 'σ' else c

theorem innerSigma_lowerAfter (wordOpen : Bool) (text : List Char) :
    (lowerAfter wordOpen text).map innerSigma = (lowerEach text).map innerSigma := by
  induction text generalizing wordOpen with
  | nil => rfl
  | cons c rest ih =>
    have each : lowerEach (c :: rest) = lowerChar c ++ lowerEach rest := rfl
    rw [each, lowerAfter, List.map_append, List.map_append, ih]
    congr 1
    by_cases sigma : c = 'Σ'
    · subst sigma
      rw [lowerChar_sigma, if_pos rfl]
      split <;> rfl
    · rw [if_neg sigma]

/-- But for the two forms of a small sigma, the two ways of lowering are one. -/
theorem innerSigma_lower (text : List Char) :
    (lower text).map innerSigma = (lowerEach text).map innerSigma :=
  innerSigma_lowerAfter false text

end ConsoleBatch.Text
