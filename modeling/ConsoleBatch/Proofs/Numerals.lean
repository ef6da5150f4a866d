import ConsoleBatch.Proofs.Written

/-! Written numbers.

An integer and a finite double are written as numerals, and the scanner takes a numeral to its end
if nothing follows that goes on with it. -/

namespace ConsoleBatch

namespace Json

open Decimal (digitsOf digitsValue takeSign)
open Text (isAlphanumeric isBlank)

structure Digits (text : List Char) : Prop where
  nonempty : text ≠ []
  each : ∀ c ∈ text, c.isDigit = true

/-- The digits before a point. No others stand behind a zero in front. -/
inductive Whole : List Char → Prop
  | zero : Whole ['0']
  | digits {text : List Char} (digits : Digits text) (first : text.head? ≠ some '0') : Whole text

inductive Fraction : List Char → Prop
  | none : Fraction []
  | places {places : List Char} (digits : Digits places) : Fraction ('.' :: places)

inductive Power : List Char → Prop
  | none : Power []
  | signed {sign : Char} {size : List Char} (sign_listed : sign ∈ ['-', '+'])
      (digits : Digits size) : Power ('e' :: sign :: size)

inductive Unsigned : List Char → Prop
  | parts {whole fraction power : List Char} (first : Whole whole) (second : Fraction fraction)
      (third : Power power) : Unsigned (whole ++ (fraction ++ power))

inductive Numeral : List Char → Prop
  | plain {text : List Char} (unsigned : Unsigned text) : Numeral text
  | negative {text : List Char} (unsigned : Unsigned text) : Numeral ('-' :: text)

theorem digit_range {c : Char} (digit : c.isDigit = true) : 48 ≤ c.toNat ∧ c.toNat ≤ 57 := by
  simpa [Char.isDigit, UInt32.le_iff_toNat_le] using digit

theorem isAlphanumeric_digit {c : Char} (digit : c.isDigit = true) : isAlphanumeric c = true := by
  have range := digit_range digit
  rw [isAlphanumeric, if_pos (by omega), Char.isAlphanum, digit, Bool.or_true]

theorem isBlank_digit {c : Char} (digit : c.isDigit = true) : isBlank c = false := by
  have range := digit_range digit
  simp [isBlank]
  omega

theorem Ends.no_digit {rest : List Char} (ends : Ends rest) :
    ∀ c ∈ rest.head?, c.isDigit = false := by
  intro c first
  rw [Bool.eq_false_iff]
  intro digit
  cases (ends c first).1.symm.trans (isAlphanumeric_digit digit)

theorem takeWhile_append_stop {p : Char → Bool} {text rest : List Char}
    (each : ∀ c ∈ text, p c = true) (stop : ∀ c ∈ rest.head?, p c = false) :
    (text ++ rest).takeWhile p = text := by
  rw [List.takeWhile_append_of_pos each]
  cases rest with
  | nil => exact List.append_nil text
  | cons c more =>
    have no : ¬ p c = true := Bool.eq_false_iff.mp (stop c rfl)
    rw [List.takeWhile_cons_of_neg no, List.append_nil]

theorem someDigits?_append {digits rest : List Char} (some_digits : Digits digits)
    (stop : ∀ c ∈ rest.head?, c.isDigit = false) :
    someDigits? Char.isDigit (digits ++ rest) = some digits := by
  have nonempty : digits.isEmpty = false := List.isEmpty_eq_false_iff.mpr some_digits.nonempty
  unfold someDigits?
  dsimp only
  rw [takeWhile_append_stop some_digits.each stop, nonempty]
  rfl

theorem power?_append {power rest : List Char} (written : Power power) (ends : Ends rest) :
    power? (power ++ rest) = some power := by
  cases written with
  | none =>
    cases rest with
    | nil => rfl
    | cons c more =>
      have no_mark : ¬ (c = 'e' ∨ c = 'E') := by
        rintro (rfl | rfl) <;> cases (ends _ rfl).1
      exact if_neg no_mark
  | @signed sign size listed digits =>
    have taken := someDigits?_append digits ends.no_digit
    simp only [List.mem_cons, List.not_mem_nil, or_false] at listed
    rcases listed with rfl | rfl
    · change (someDigits? Char.isDigit (size ++ rest)).map _ = _
      rw [taken]
      rfl
    · change (someDigits? Char.isDigit (size ++ rest)).map _ = _
      rw [taken]
      rfl

theorem head_power {power rest : List Char} (written : Power power) (ends : Ends rest) :
    ∀ c ∈ (power ++ rest).head?, c.isDigit = false ∧ c ≠ '.' := by
  cases written with
  | none => exact fun c first => ⟨ends.no_digit c first, (ends c first).2⟩
  | signed =>
    rintro _ ⟨⟩
    exact ⟨by decide, by decide⟩

theorem fraction?_append {fraction rest : List Char} (written : Fraction fraction)
    (stop : ∀ c ∈ rest.head?, c.isDigit = false ∧ c ≠ '.') :
    fraction? (fraction ++ rest) = some fraction := by
  cases written with
  | none =>
    cases rest with
    | nil => rfl
    | cons c more =>
      unfold fraction?
      split
      · rename_i point
        cases point
        exact absurd rfl (stop _ rfl).2
      · rfl
  | @places places digits =>
    change (someDigits? Char.isDigit (places ++ rest)).map _ = _
    rw [someDigits?_append digits fun c first => (stop c first).1]
    rfl

theorem decimalEnding?_append {fraction power rest : List Char} (first : Fraction fraction)
    (second : Power power) (ends : Ends rest) :
    decimalEnding? (fraction ++ (power ++ rest)) = some (fraction ++ power) := by
  unfold decimalEnding?
  rw [fraction?_append first (head_power second ends)]
  change Option.bind (power? ((fraction ++ (power ++ rest)).drop fraction.length)) _ = _
  rw [List.drop_left, power?_append second ends]
  rfl

theorem head_ending {fraction power rest : List Char} (first : Fraction fraction)
    (second : Power power) (ends : Ends rest) :
    ∀ c ∈ (fraction ++ (power ++ rest)).head?, c.isDigit = false ∧ c ≠ 'x' ∧ c ≠ 'X' := by
  cases first with
  | places =>
    rintro _ ⟨⟩
    exact ⟨by decide, by decide, by decide⟩
  | none =>
    cases second with
    | signed =>
      rintro _ ⟨⟩
      exact ⟨by decide, by decide, by decide⟩
    | none =>
      intro c first
      refine ⟨ends.no_digit c first, ?_, ?_⟩ <;> (rintro rfl; cases (ends _ first).1)

theorem unsigned?_zero {rest : List Char} (decimal : ∀ c ∈ rest.head?, c ≠ 'x' ∧ c ≠ 'X') :
    unsigned? ('0' :: rest) = (decimalEnding? rest).map ('0' :: ·) := by
  cases rest with
  | nil => rfl
  | cons c more =>
    obtain ⟨no_x, no_X⟩ := decimal c rfl
    rw [unsigned?]
    · intro _ same
      exact no_x (List.cons.inj same).1
    · intro _ same
      exact no_X (List.cons.inj same).1

theorem unsigned?_append {text rest : List Char} (written : Unsigned text) (ends : Ends rest) :
    unsigned? (text ++ rest) = some text := by
  obtain @⟨whole, fraction, power, first, second, third⟩ := written
  have ending := decimalEnding?_append second third ends
  have stop := head_ending second third ends
  rw [List.append_assoc, List.append_assoc]
  cases first with
  | zero =>
    rw [List.singleton_append, unsigned?_zero fun c first => (stop c first).2, ending]
    rfl
  | digits digits nonzero =>
    rw [unsigned?]
    · rw [someDigits?_append digits fun c first => (stop c first).1]
      change Option.bind (decimalEnding? ((whole ++ _).drop whole.length)) _ = _
      rw [List.drop_left, ending]
      rfl
    · intro empty
      exact digits.nonempty (List.append_eq_nil_iff.mp empty).1
    · intro more zero
      obtain ⟨c, others, split⟩ := List.exists_cons_of_ne_nil digits.nonempty
      subst split
      injection zero with same
      exact nonzero (congrArg some same)

theorem Unsigned.head {text : List Char} (written : Unsigned text) :
    ∃ c more, text = c :: more ∧ c.isDigit = true := by
  obtain @⟨whole, fraction, power, first, _, _⟩ := written
  cases first with
  | zero => exact ⟨'0', _, rfl, rfl⟩
  | digits digits _ =>
    obtain ⟨c, more, rfl⟩ := List.exists_cons_of_ne_nil digits.nonempty
    exact ⟨c, _, rfl, digits.each c List.mem_cons_self⟩

theorem lexeme?_numeral {c : Char} (numeric : c = '-' ∨ c.isDigit = true) (rest : List Char) :
    lexeme? c rest = numeral? c rest := by
  rcases numeric with rfl | digit
  · rfl
  · unfold lexeme?
    split <;> first | cases digit | rw [if_pos (.inr (.inr digit))]

theorem scans_numeral {text rest : List Char} (written : Numeral text) (ends : Ends rest) :
    Scans rest text [.numeral (String.ofList text)] := by
  cases written with
  | plain unsigned =>
    have whole := unsigned?_append unsigned ends
    obtain ⟨c, more, rfl, digit⟩ := unsigned.head
    have no_sign : ¬ (c = '-' ∨ c = '+') := by
      rintro (rfl | rfl) <;> cases digit
    apply scans_of_lexeme? (isBlank_digit digit)
    rw [lexeme?_numeral (.inr digit), numeral?, if_neg no_sign, ← List.cons_append, whole]
    rfl
  | @negative text unsigned =>
    apply scans_of_lexeme? (by decide)
    rw [lexeme?_numeral (.inl rfl), numeral?, if_pos (.inl rfl), unsigned?_append unsigned ends]
    rfl

theorem digits_digitsOf (n : Nat) : Digits (digitsOf n) where
  nonempty := Nat.toDigits_ne_nil
  each _ listed := Nat.isDigit_of_mem_toDigits (by decide) (by decide) listed

theorem digitsValue_digitsOf (n : Nat) : digitsValue (digitsOf n) = n :=
  Nat.ofDigitChars_toDigits (by decide) (by decide)

theorem head?_append_of_digits {digits : List Char} (some_digits : Digits digits)
    (rest : List Char) : (digits ++ rest).head? = digits.head? := by
  obtain ⟨c, more, rfl⟩ := List.exists_cons_of_ne_nil some_digits.nonempty
  rfl

theorem digitChar_ne_zero : ∀ n < 10, 0 < n → Nat.digitChar n ≠ '0' := by
  decide

theorem head_digitsOf {n : Nat} (positive : 0 < n) : (digitsOf n).head? ≠ some '0' := by
  induction n using Nat.strongRecOn with
  | ind n ih =>
    by_cases small : n < 10
    · rw [digitsOf, Nat.toDigits_of_lt_base small]
      intro same
      exact digitChar_ne_zero n small positive (Option.some.inj same)
    · have last : digitsOf n = digitsOf (n / 10) ++ [Nat.digitChar (n % 10)] :=
        Nat.toDigits_of_base_le (by decide) (by omega)
      rw [last, head?_append_of_digits (digits_digitsOf _)]
      exact ih (n / 10) (by omega) (by omega)

theorem whole_digitsOf (n : Nat) : Whole (digitsOf n) := by
  rcases Nat.eq_zero_or_pos n with rfl | positive
  · exact .zero
  · exact .digits (digits_digitsOf n) (head_digitsOf positive)

theorem takeSign_digitsOf (n : Nat) : takeSign (digitsOf n) = (false, digitsOf n) := by
  unfold takeSign
  split
  · rename_i rest split
    cases (digits_digitsOf n).each '-' (split ▸ List.mem_cons_self)
  · rename_i rest split
    cases (digits_digitsOf n).each '+' (split ▸ List.mem_cons_self)
  · rfl

theorem decimalParts_digitsOf (n : Nat) :
    decimalParts (digitsOf n) = { whole := digitsOf n, places := [], power := [] } := by
  have all_digits := (digits_digitsOf n).each
  have whole : (digitsOf n).takeWhile Char.isDigit = digitsOf n := by
    simpa using @List.takeWhile_append_of_pos _ _ (digitsOf n) [] all_digits
  have rest : (digitsOf n).dropWhile Char.isDigit = [] := by
    simpa using @List.dropWhile_append_of_pos _ _ (digitsOf n) [] all_digits
  unfold decimalParts
  rw [whole, rest]

theorem numeralValue_digitsOf {n : Nat} (fits : n < wordLimit) :
    numeralValue (String.ofList (digitsOf n)) = .natural n := by
  have number : numberOf? (digitsOf n) = some (.integer n) := by
    unfold numberOf?
    rw [takeSign_digitsOf]
    dsimp only
    split
    · rename_i split
      cases (digits_digitsOf n).each 'x' (split ▸ .tail _ List.mem_cons_self)
    · rename_i split
      cases (digits_digitsOf n).each 'X' (split ▸ .tail _ List.mem_cons_self)
    · have whole : integer? false (decimalParts (digitsOf n)) = some (n : Int) := by
        rw [decimalParts_digitsOf, integer?, digitsValue_digitsOf]
        simp [fits]
      rw [whole]
  rw [numeralValue, String.toList_ofList, number]
  rfl

end Json

namespace Decimal

open Json (Digits Fraction Numeral Power Unsigned Whole digits_digitsOf head?_append_of_digits
  head_digitsOf whole_digitsOf)

theorem nearestPoint?_pos {interval : Interval} {tie : Tie} {grid : Int} {point : Nat}
    (found : interval.nearestPoint? tie grid = some point) : 0 < point := by
  obtain ⟨nearer, farther, tried⟩ : ∃ nearer farther, interval.nearestPoint? tie grid =
      if 0 < nearer ∧ interval.holds (interval.ratio grid) nearer then some nearer
      else if 0 < farther ∧ interval.holds (interval.ratio grid) farther then some farther
      else none := ⟨_, _, rfl⟩
  rw [tried] at found
  split at found
  · rename_i near
    cases found
    exact near.1
  · split at found
    · rename_i far
      cases found
      exact far.1
    · cases found

/-- Not every digit is a zero, whichever grid a decimal is found on. -/
theorem coarsest_digits_pos {interval : Interval} (positive : 0 < interval.centre) (tie : Tie)
    (grid : Int) (steps : Nat) : 0 < (interval.coarsest tie grid steps).digits := by
  induction steps generalizing grid with
  | zero => exact positive
  | succ steps ih =>
    unfold Interval.coarsest
    split
    · rename_i point found
      exact nearestPoint?_pos found
    · exact ih (grid - 1)

theorem shortest_digits_pos {significand : Nat} (positive : 0 < significand) (tie : Tie)
    (exponent : Int) : 0 < (shortest tie significand exponent).digits := by
  apply coarsest_digits_pos
  change 0 < 4 * significand
  omega

theorem isDigit_of_mem_zeros {zeros : Nat} {c : Char} (listed : c ∈ List.replicate zeros '0') :
    c.isDigit = true := by
  rw [List.eq_of_mem_replicate listed]
  rfl

theorem fraction_zero : Fraction ['.', '0'] :=
  .places ⟨List.cons_ne_nil _ _, List.forall_mem_singleton.mpr rfl⟩

variable {number : Scientific}

theorem unsigned_whole (positive : 0 < number.digits) (large : 0 ≤ number.exponent) :
    Unsigned (positional number ++ ['.', '0']) := by
  have digits := digits_digitsOf number.digits
  have whole : Whole (positional number) := by
    rw [positional, if_pos large]
    refine .digits ⟨?_, ?_⟩ ?_
    · exact List.append_ne_nil_of_left_ne_nil digits.nonempty _
    · intro c listed
      rcases List.mem_append.mp listed with digit | zero
      · exact digits.each c digit
      · exact isDigit_of_mem_zeros zero
    · rw [head?_append_of_digits digits]
      exact head_digitsOf positive
  exact .parts whole fraction_zero .none

/-- With as many places as digits or more, there are zeros in front. -/
def padded (places n : Nat) : List Char :=
  List.replicate (places + 1 - (digitsOf n).length) '0' ++ digitsOf n

theorem digits_padded (places n : Nat) : Digits (padded places n) where
  nonempty := List.append_ne_nil_of_right_ne_nil _ (digits_digitsOf n).nonempty
  each c listed := by
    rcases List.mem_append.mp listed with zero | digit
    · exact isDigit_of_mem_zeros zero
    · exact (digits_digitsOf n).each c digit

theorem length_padded (places n : Nat) :
    (padded places n).length =
      places + 1 - (digitsOf n).length + (digitsOf n).length := by
  rw [padded, List.length_append, List.length_replicate]

theorem lt_length_padded (places n : Nat) : places < (padded places n).length := by
  rw [length_padded]
  omega

theorem fraction_padded {places : Nat} (some_places : 0 < places) (n : Nat) :
    Fraction ('.' :: (padded places n).drop ((padded places n).length - places)) := by
  have long := lt_length_padded places n
  have digits := digits_padded places n
  refine .places ⟨?_, fun c listed => digits.each c (List.mem_of_mem_drop listed)⟩
  rw [ne_eq, List.drop_eq_nil_iff]
  omega

theorem whole_padded (places : Nat) {n : Nat} (positive : 0 < n) :
    Whole ((padded places n).take ((padded places n).length - places)) := by
  have long := lt_length_padded places n
  have length := length_padded places n
  cases zeros : places + 1 - (digitsOf n).length with
  | zero =>
    have bare : padded places n = digitsOf n := by
      rw [padded, zeros, List.replicate_zero, List.nil_append]
    rw [bare] at length long ⊢
    have digits := digits_digitsOf n
    refine .digits ⟨?_, fun c listed => digits.each c (List.mem_of_mem_take listed)⟩ ?_
    · rw [ne_eq, List.take_eq_nil_iff]
      rintro (none | empty)
      · omega
      · exact digits.nonempty empty
    · rw [List.head?_take, if_neg (by omega)]
      exact head_digitsOf positive
  | succ more =>
    have one : (padded places n).length - places = 1 := by omega
    rw [one, padded, zeros]
    exact .zero

theorem unsigned_places (positive : 0 < number.digits) (small : ¬ 0 ≤ number.exponent) :
    Unsigned (positional number) := by
  have some_places : 0 < (-number.exponent).toNat := by omega
  have parts := Unsigned.parts (whole_padded (-number.exponent).toNat positive)
    (fraction_padded some_places number.digits) .none
  rw [List.append_nil] at parts
  rw [positional, if_neg small]
  exact parts

theorem unsigned_exponential (positive : 0 < number.digits) : Unsigned (exponential number) := by
  have digits := digits_digitsOf number.digits
  have first := head_digitsOf positive
  have power : Power ('e' :: (if number.magnitude < 0 then '-' else '+') ::
      digitsOf number.magnitude.natAbs) := by
    refine .signed ?_ (digits_digitsOf _)
    split <;> simp
  unfold exponential
  dsimp only
  generalize digitsOf number.digits = written at digits first ⊢
  match written with
  | [] => exact absurd rfl digits.nonempty
  | [c] => exact .parts (.digits digits first) .none power
  | c :: d :: rest =>
    obtain ⟨here, others⟩ := List.forall_mem_cons.mp digits.each
    have whole : Whole [c] :=
      .digits ⟨List.cons_ne_nil _ _, List.forall_mem_singleton.mpr here⟩ first
    have fraction : Fraction ('.' :: d :: rest) := .places ⟨List.cons_ne_nil _ _, others⟩
    exact .parts whole fraction power

theorem unsigned_size (significand : Nat) (exponent : Int) :
    Unsigned (dataLayout.size significand exponent) := by
  unfold Layout.size
  split
  · exact .parts .zero fraction_zero .none
  · rename_i nonzero
    have positive := shortest_digits_pos (Nat.pos_of_ne_zero nonzero) dataLayout.tie exponent
    dsimp only
    split
    · split
      · rename_i large
        exact unsigned_whole positive large
      · rename_i small
        exact unsigned_places positive small
    · exact unsigned_exponential positive

theorem numeral_signed {size : List Char} (unsigned : Unsigned size) (negative : Bool) :
    Numeral (signed negative size) := by
  cases negative
  · exact .plain unsigned
  · exact .negative unsigned

theorem numeral_write {x : Double} (finite : x.isFinite = true) :
    Numeral (dataLayout.write x).toList := by
  unfold Double.isFinite at finite
  unfold Layout.write
  split at finite
  · rename_i parts
    rw [parts]
    dsimp only
    rw [String.toList_ofList]
    exact numeral_signed (unsigned_size _ _) _
  · cases finite

end Decimal

namespace Json

open Decimal (digitsOf)

def Number.Finite : Number → Prop
  | .integer _ => True
  | .float value => value.isFinite = true

theorem numeral_text {number : Number} (finite : number.Finite) : Numeral number.text.toList := by
  cases number with
  | integer n =>
    have whole : Unsigned (digitsOf n.natAbs) := by
      rw [← List.append_nil (digitsOf n.natAbs)]
      exact .parts (whole_digitsOf _) .none .none
    rw [Number.text, String.toList_ofList]
    exact Decimal.numeral_signed whole _
  | float value => exact Decimal.numeral_write finite

end Json

end ConsoleBatch
