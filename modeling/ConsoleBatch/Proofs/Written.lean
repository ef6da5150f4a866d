import ConsoleBatch.Json.Reading
import ConsoleBatch.Json.Writing

/-! Written values, and the tokens they are scanned as.

Every part of what is written can be scanned by itself, as long as nothing follows a number or a
word that goes on with it. -/

namespace ConsoleBatch.Json

open Text

inductive Escape : Char → List Char → Prop
  | short {c mark : Char} (named : shortEscape? '"' mark = some c) (other : mark ≠ 'u') :
      Escape c ['\\', mark]
  | control {c : Char} (control : c.toNat < 0x20) :
      Escape c ['\\', 'u', '0', '0', hexDigit (c.toNat / 16), hexDigit (c.toNat % 16)]
  | plain {c : Char} (no_escape : c ≠ '\\') (no_quote : c ≠ '"') : Escape c [c]

theorem escape_escapeChar (c : Char) : Escape c (escapeChar c) := by
  unfold escapeChar
  iterate 7
    split
    · rename_i same
      rw [same]
      exact .short rfl (by decide)
  split
  · rename_i control
    exact .control control
  · rename_i no_quote no_escape _ _ _ _ _ _
    exact .plain no_escape no_quote

theorem hexDigit_values : ∀ n < 16, hexValue? (hexDigit n) = some n := by
  decide

theorem hexDigit_plain : ∀ n < 16, hexDigit n ≠ '\\' ∧ hexDigit n ≠ '"' := by
  decide

theorem quotedBody?_plain {front : List Char} (each : ∀ c ∈ front, c ≠ '\\' ∧ c ≠ '"')
    (rest : List Char) :
    quotedBody? '"' (front ++ rest) = (quotedBody? '"' rest).map (front ++ ·) := by
  induction front with
  | nil => cases body : quotedBody? '"' rest <;> simp [body]
  | cons c more ih =>
    obtain ⟨here, others⟩ := List.forall_mem_cons.mp each
    rw [List.cons_append, quotedBody?, if_neg here.2, ih others, Option.map_map]
    · rfl
    · rintro _ _ rfl
      exact absurd rfl here.1

theorem quotedBody?_escapeChar (c : Char) (rest : List Char) :
    quotedBody? '"' (escapeChar c ++ rest) =
      (quotedBody? '"' rest).map (escapeChar c ++ ·) := by
  have escape := escape_escapeChar c
  generalize escapeChar c = written at escape ⊢
  cases escape with
  | short => rfl
  | control control =>
    have digits : ∀ d ∈ ['0', '0', hexDigit (c.toNat / 16), hexDigit (c.toNat % 16)],
        d ≠ '\\' ∧ d ≠ '"' := by
      simp only [List.forall_mem_cons]
      exact ⟨by decide, by decide, hexDigit_plain _ (by omega), hexDigit_plain _ (by omega),
        List.forall_mem_nil _⟩
    have marked : ∀ body, quotedBody? '"' ('\\' :: 'u' :: body) =
        (quotedBody? '"' body).map fun body => '\\' :: 'u' :: body := fun _ => rfl
    have body := marked (['0', '0', hexDigit (c.toNat / 16), hexDigit (c.toNat % 16)] ++ rest)
    rw [quotedBody?_plain digits, Option.map_map] at body
    exact body
  | plain no_escape no_quote =>
    exact quotedBody?_plain (by simp [no_escape, no_quote]) rest

theorem quotedBody?_escaped (text rest : List Char) :
    quotedBody? '"' (text.flatMap escapeChar ++ '"' :: rest) = some (text.flatMap escapeChar) := by
  induction text with
  | nil => rfl
  | cons c more ih =>
    rw [List.flatMap_cons, List.append_assoc, quotedBody?_escapeChar, ih]
    rfl

theorem joinParts?_unit {code : Nat} (control : code < 0x20) (parts : List StringPart) :
    joinParts? (.unit code :: parts) = (joinParts? parts).map (Char.ofNat code :: ·) := by
  have low : isLowSurrogate code = false := by
    simp [isLowSurrogate]
    omega
  have high : isHighSurrogate code = false := by
    simp [isHighSurrogate]
    omega
  cases parts with
  | nil => simp [joinParts?, low, high]
  | cons part rest => cases part <;> simp [joinParts?, low, high]

theorem stringParts?_plain {c : Char} (no_escape : c ≠ '\\') (rest : List Char) :
    stringParts? '"' (c :: rest) = (stringParts? '"' rest).map (.character c :: ·) := by
  rw [stringParts?] <;> simp [no_escape]

theorem stringParts?_short {mark escaped : Char} (short : shortEscape? '"' mark = some escaped)
    (other : mark ≠ 'u') (rest : List Char) :
    stringParts? '"' ('\\' :: mark :: rest) =
      (stringParts? '"' rest).map (.character escaped :: ·) := by
  rw [stringParts?]
  · rw [short]
    cases stringParts? '"' rest <;> rfl
  · rintro _ _ _ _ _ rfl
    exact absurd rfl other

theorem stringParts?_control {n : Nat} (control : n < 0x20) (rest : List Char) :
    stringParts? '"' ('\\' :: 'u' :: '0' :: '0' :: hexDigit (n / 16) :: hexDigit (n % 16) :: rest) =
      (stringParts? '"' rest).map (.unit n :: ·) := by
  have value : hexDigitsValue? ['0', '0', hexDigit (n / 16), hexDigit (n % 16)] = some n := by
    have high := hexDigit_values (n / 16) (by omega)
    have low := hexDigit_values (n % 16) (by omega)
    have zero : hexValue? '0' = some 0 := rfl
    simp [hexDigitsValue?, high, low, zero]
    omega
  rw [stringParts?, value]
  cases stringParts? '"' rest <;> rfl

/-- An escaped character is one part of a string, and joins as the character. -/
theorem exists_part_escapeChar (c : Char) :
    ∃ part, (∀ rest, stringParts? '"' (escapeChar c ++ rest) =
        (stringParts? '"' rest).map (part :: ·)) ∧
      ∀ parts, joinParts? (part :: parts) = (joinParts? parts).map (c :: ·) := by
  have escape := escape_escapeChar c
  generalize escapeChar c = written at escape ⊢
  cases escape with
  | short named other => exact ⟨.character c, stringParts?_short named other, fun _ => rfl⟩
  | control control =>
    refine ⟨.unit c.toNat, stringParts?_control control, fun parts => ?_⟩
    rw [joinParts?_unit control, Char.ofNat_toNat]
  | plain no_escape => exact ⟨.character c, stringParts?_plain no_escape, fun _ => rfl⟩

theorem stringParts?_escaped (text : List Char) :
    (stringParts? '"' (text.flatMap escapeChar)).bind joinParts? = some text := by
  induction text with
  | nil => rfl
  | cons c more ih =>
    obtain ⟨part, splits, joins⟩ := exists_part_escapeChar c
    obtain ⟨parts, split, joined⟩ := Option.bind_eq_some_iff.mp ih
    rw [List.flatMap_cons, splits, split, Option.map_some, Option.bind_some, joins, joined]
    rfl

theorem string?_escaped (text rest : List Char) :
    string? '"' (text.flatMap escapeChar ++ '"' :: rest) =
      some { taken := (text.flatMap escapeChar).length + 1
             token := some (.string (String.ofList text)) } := by
  unfold string?
  rw [quotedBody?_escaped]
  change (Option.bind ((stringParts? '"' (text.flatMap escapeChar)).bind joinParts?) _) = _
  rw [stringParts?_escaped]
  rfl

/-- In front of `rest`, a text is scanned as some tokens. -/
def Scans (rest text : List Char) (tokens : List Token) : Prop :=
  tokens? (text ++ rest) = (tokens? rest).map (tokens ++ ·)

theorem scans_nil (rest : List Char) : Scans rest [] [] := by
  cases scanned : tokens? rest <;> simp [Scans, scanned]

theorem Scans.append {rest first second : List Char} {tokens tokens' : List Token}
    (front : Scans (second ++ rest) first tokens) (back : Scans rest second tokens') :
    Scans rest (first ++ second) (tokens ++ tokens') := by
  unfold Scans at *
  rw [List.append_assoc, front, back, Option.map_map]
  congr 1
  funext more
  exact (List.append_assoc tokens tokens' more).symm

theorem scans_of_lexeme? {c : Char} {more rest : List Char} {token : Token}
    (dark : isBlank c = false)
    (found : lexeme? c (more ++ rest) = some { taken := more.length, token := some token }) :
    Scans rest (c :: more) [token] := by
  unfold Scans
  rw [List.cons_append, tokens?, if_neg (by simp [dark]), found]
  dsimp only
  rw [List.drop_left]
  rfl

theorem scans_mark {c : Char} {token : Token} (dark : isBlank c = false)
    (mark : ∀ rest, lexeme? c rest = some { taken := 0, token := some token })
    (rest : List Char) : Scans rest [c] [token] :=
  scans_of_lexeme? dark (mark rest)

theorem scans_quoted (text : String) (rest : List Char) :
    Scans rest (quoted text).toList [.string text] := by
  have found : lexeme? '"' ((text.toList.flatMap escapeChar ++ ['"']) ++ rest) =
      some { taken := (text.toList.flatMap escapeChar ++ ['"']).length
             token := some (.string text) } := by
    rw [List.append_assoc]
    change string? '"' (text.toList.flatMap escapeChar ++ '"' :: rest) = _
    rw [string?_escaped, String.ofList_toList, List.length_append]
    rfl
  rw [quoted, String.toList_ofList]
  exact scans_of_lexeme? rfl found

/-- What may follow a value: nothing that a word or a numeral would go on with. -/
def Ends (rest : List Char) : Prop :=
  ∀ c ∈ rest.head?, isAlphanumeric c = false ∧ c ≠ '.'

theorem ends_nil : Ends [] := by
  intro c none
  cases none

theorem ends_cons {c : Char} (dark : isAlphanumeric c = false) (no_point : c ≠ '.')
    (rest : List Char) : Ends (c :: rest) := by
  rintro _ ⟨⟩
  exact ⟨dark, no_point⟩

theorem startsWord_append (word : String) {rest : List Char} (ends : Ends rest) :
    startsWord word (word.toList ++ rest) = true := by
  have no_letter : rest.head?.any isAlphanumeric = false := by
    cases rest with
    | nil => rfl
    | cons c more => exact (ends c rfl).1
  have in_front : word.toList.isPrefixOf (word.toList ++ rest) = true :=
    List.isPrefixOf_iff_prefix.mpr (List.prefix_append _ _)
  rw [startsWord, in_front, List.drop_left, no_letter]
  rfl

theorem valueWord?_append {word : String} {token : Token} (listed : (word, token) ∈ valueWords)
    {rest : List Char} (ends : Ends rest) :
    valueWord? (word.toList ++ rest) =
      some { taken := word.toList.length - 1, token := some token } := by
  have here := startsWord_append word ends
  have found : valueWords.find? (fun other => startsWord other.1 (word.toList ++ rest)) =
      some (word, token) := by
    refine List.find?_eq_some_iff_append.mpr ⟨here, ?_⟩
    simp only [valueWords, List.mem_cons, List.not_mem_nil, Prod.mk.injEq, or_false] at listed
    rcases listed with ⟨rfl, rfl⟩ | ⟨rfl, rfl⟩ | ⟨rfl, rfl⟩
    · exact ⟨[], _, rfl, List.forall_mem_nil _⟩
    · exact ⟨[_], _, rfl, List.forall_mem_singleton.mpr rfl⟩
    · exact ⟨[_, _], _, rfl, List.forall_mem_cons.mpr ⟨rfl, List.forall_mem_singleton.mpr rfl⟩⟩
  change (valueWords.find? fun other => startsWord other.1 (word.toList ++ rest)).map _ = _
  rw [found]
  rfl

theorem scans_word {word : String} {token : Token} {c : Char} {more rest : List Char}
    (listed : (word, token) ∈ valueWords) (split : word.toList = c :: more)
    (letter : ∀ rest, lexeme? c rest = word? (c :: rest)) (dark : isBlank c = false)
    (ends : Ends rest) : Scans rest word.toList [token] := by
  have found := valueWord?_append listed ends
  rw [split] at found ⊢
  apply scans_of_lexeme? dark
  rw [letter, word?, ← List.cons_append, found]
  rfl

theorem scans_bool (value : Bool) {rest : List Char} (ends : Ends rest) :
    Scans rest (if value then "true" else "false").toList [.bool value] := by
  cases value
  · have listed : ("false", Token.bool false) ∈ valueWords := by simp [valueWords]
    exact scans_word listed rfl (fun _ => rfl) (by decide) ends
  · have listed : ("true", Token.bool true) ∈ valueWords := by simp [valueWords]
    exact scans_word listed rfl (fun _ => rfl) (by decide) ends

theorem scans_null {rest : List Char} (ends : Ends rest) :
    Scans rest "null".toList [.null] := by
  have listed : ("null", Token.null) ∈ valueWords := by simp [valueWords]
  exact scans_word listed rfl (fun _ => rfl) (by decide) ends

theorem scans_blanks {gap : List Char} (blank : ∀ c ∈ gap, isBlank c = true) (rest : List Char) :
    Scans rest gap [] := by
  induction gap with
  | nil => exact scans_nil rest
  | cons c more ih =>
    obtain ⟨here, others⟩ := List.forall_mem_cons.mp blank
    have onward := ih others
    unfold Scans at onward ⊢
    rw [List.cons_append, tokens?, if_pos here]
    exact onward

end ConsoleBatch.Json
