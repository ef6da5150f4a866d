import ConsoleBatch.Proofs.NameMatching

/-! The ways to write a command down.

A line calls a command by its name as the first word, with or without a slash in front, and blanks
around them. Whether that is dangerous depends on the name alone, and not on the case of its
letters. -/

namespace ConsoleBatch

namespace Text

theorem toLower_beyond_ascii {c : Char} (beyond : ¬ c.toNat < 0x80) : c.toLower = c := by
  unfold Char.toLower
  split
  · rename_i capital
    have to_last : c.toNat ≤ 90 := capital.2
    omega
  · rfl

theorem lowerChar_toLower (c : Char) : lowerChar c.toLower = lowerChar c := by
  by_cases ascii : c.toNat < 0x80
  · have single : lowerChar c = [c.toLower] := by rw [lowerChar, if_pos ascii]
    have small : c.toLower ∈ lowerChar c := by
      rw [single]
      exact List.mem_cons_self
    rw [lowerChar_fixed small, single]
  · rw [toLower_beyond_ascii ascii]

theorem isBlank_toLower_ascii :
    ∀ n < 0x80, isBlank (Char.ofNat n).toLower = isBlank (Char.ofNat n) := by
  decide +kernel

theorem isBlank_toLower (c : Char) : isBlank c.toLower = isBlank c := by
  by_cases ascii : c.toNat < 0x80
  · have same := isBlank_toLower_ascii c.toNat ascii
    rwa [Char.ofNat_toNat] at same
  · rw [toLower_beyond_ascii ascii]

theorem lowerEach_map_toLower (text : List Char) :
    lowerEach (text.map Char.toLower) = lowerEach text := by
  simp only [lowerEach, List.flatMap_map, lowerChar_toLower]

structure IsName (text : List Char) : Prop where
  word : IsWord text
  no_slash : text.head? ≠ some '/'

instance (text : List Char) : Decidable (IsName text) :=
  decidable_of_iff (IsWord text ∧ text.head? ≠ some '/')
    ⟨fun ⟨word, slash⟩ => ⟨word, slash⟩, fun named => ⟨named.word, named.no_slash⟩⟩

theorem isWord_map_toLower {text : List Char} : IsWord (text.map Char.toLower) ↔ IsWord text := by
  have unbroken : (∀ c ∈ text.map Char.toLower, isBlank c = false) ↔
      ∀ c ∈ text, isBlank c = false := by
    simp only [List.forall_mem_map, isBlank_toLower]
  constructor
  · intro token
    exact ⟨fun nothing => token.nonempty (List.map_eq_nil_iff.mpr nothing),
      unbroken.mp token.unbroken⟩
  · intro token
    exact ⟨fun nothing => token.nonempty (List.map_eq_nil_iff.mp nothing),
      unbroken.mpr token.unbroken⟩

theorem head?_map_toLower_slash {text : List Char} :
    (text.map Char.toLower).head? = some '/' ↔ text.head? = some '/' := by
  rw [List.head?_map, Option.map_eq_some_iff]
  constructor
  · rintro ⟨c, start, small⟩
    rw [start, eq_of_toLower (.inl (by decide)) small]
  · intro start
    exact ⟨'/', start, by decide⟩

theorem isName_map_toLower {text : List Char} : IsName (text.map Char.toLower) ↔ IsName text := by
  constructor
  · intro named
    exact ⟨isWord_map_toLower.mp named.word,
      fun slash => named.no_slash (head?_map_toLower_slash.mpr slash)⟩
  · intro named
    exact ⟨isWord_map_toLower.mpr named.word,
      fun slash => named.no_slash (head?_map_toLower_slash.mp slash)⟩

theorem trimEnd_append {front : List Char} (inked : ∀ last ∈ front.getLast?, isBlank last = false)
    (back : List Char) : trimEnd (front ++ back) = front ++ trimEnd back := by
  have kept : trimStart front.reverse = front.reverse := by
    apply trimStart_of_head
    rw [List.head?_reverse]
    exact inked
  rw [trimStart] at kept
  unfold trimEnd
  rw [List.reverse_append, List.dropWhile_append, kept]
  split
  · rename_i nothing
    rw [List.isEmpty_iff] at nothing
    rw [nothing, List.reverse_reverse, List.reverse_nil, List.append_nil]
  · rw [List.reverse_append, List.reverse_reverse]

theorem trim_split (text : List Char) :
    ∃ front back, text = front ++ (trim text ++ back) ∧ AllBlank front ∧ AllBlank back := by
  have start := List.takeWhile_append_dropWhile (p := isBlank) (l := text)
  have finish := List.takeWhile_append_dropWhile (p := isBlank) (l := (trimStart text).reverse)
  refine ⟨text.takeWhile isBlank, ((trimStart text).reverse.takeWhile isBlank).reverse, ?_, ?_, ?_⟩
  · have split := congrArg List.reverse finish
    rw [List.reverse_append, List.reverse_reverse] at split
    rw [trim, trimEnd, split]
    exact start.symm
  · exact fun c member => List.all_eq_true.mp List.all_takeWhile c member
  · intro c member
    exact List.all_eq_true.mp List.all_takeWhile c (List.mem_reverse.mp member)

theorem head?_word_append {word : List Char} (token : IsWord word) (tail : List Char) :
    (word ++ tail).head? = word.head? := by
  obtain ⟨c, rest, rfl⟩ := List.exists_cons_of_ne_nil token.nonempty
  rfl

theorem getLast?_append_word {word : List Char} (token : IsWord word) (front : List Char) :
    (front ++ word).getLast? = word.getLast? := by
  rw [List.getLast?_append, List.getLast?_eq_some_getLast token.nonempty]
  rfl

theorem trimEnd_behind_word {word : List Char} (token : IsWord word) (front tail : List Char) :
    trimEnd (front ++ (word ++ tail)) = front ++ (word ++ trimEnd tail) := by
  have inked : ∀ last ∈ (front ++ word).getLast?, isBlank last = false := by
    intro last finish
    rw [getLast?_append_word token] at finish
    exact token.unbroken last (List.mem_of_mem_getLast? finish)
  rw [← List.append_assoc, trimEnd_append inked, List.append_assoc]

/-- The end of a word: nothing, or a blank. -/
def EndsWord (text : List Char) : Prop :=
  ∀ c ∈ text.head?, isBlank c = true

inductive Calls (name : List Char) : List Char → Prop
  | plain {indent tail : List Char} (blank : AllBlank indent) (ended : EndsWord tail) :
      Calls name (indent ++ (name ++ tail))
  | slashed {indent gap tail : List Char} (blank : AllBlank indent) (apart : AllBlank gap)
      (ended : EndsWord tail) : Calls name (indent ++ '/' :: (gap ++ (name ++ tail)))

theorem calls_self (name : List Char) : Calls name name := by
  have calls : Calls name ([] ++ (name ++ [])) := .plain (by simp [AllBlank]) (by simp [EndsWord])
  rwa [List.nil_append, List.append_nil] at calls

theorem endsWord_trimEnd {tail : List Char} (ended : EndsWord tail) : EndsWord (trimEnd tail) := by
  intro c start
  obtain ⟨cut, whole⟩ := prefix_trimEnd tail
  apply ended
  rw [← whole, List.head?_append, start]
  rfl

theorem endsWord_append {tail back : List Char} (ended : EndsWord tail) (blank : AllBlank back) :
    EndsWord (tail ++ back) := by
  intro c start
  rw [Option.mem_def, List.head?_append, Option.or_eq_some_iff] at start
  rcases start with here | ⟨_, behind⟩
  · exact ended c here
  · exact blank c (List.mem_of_mem_head? behind)

theorem firstWord_append {word tail : List Char} (token : IsWord word) (ended : EndsWord tail) :
    firstWord (word ++ tail) = word := by
  rw [firstWord, trimStart_word token]
  exact (span_word token ended).1

end Text

open Text

theorem withoutSlash_eq_self {line : List Char} (no_slash : line.head? ≠ some '/') :
    withoutSlash line = line := by
  unfold withoutSlash
  split
  · exact absurd rfl no_slash
  · rfl

theorem withoutSlash_cases (line : List Char) :
    line = withoutSlash line ∨ line = '/' :: withoutSlash line := by
  unfold withoutSlash
  split
  · exact .inr rfl
  · exact .inl rfl

theorem commandChars_of_calls {name line : List Char} (named : IsName name)
    (calls : Calls name line) : commandChars line = name := by
  have token := named.word
  unfold commandChars
  cases calls with
  | @plain indent tail blank ended =>
    have trims : trim (indent ++ (name ++ tail)) = name ++ trimEnd tail := by
      rw [trim, trimStart_blanks blank, trimStart_word token]
      exact trimEnd_behind_word token [] tail
    have no_slash : (name ++ trimEnd tail).head? ≠ some '/' := by
      rw [head?_word_append token]
      exact named.no_slash
    rw [trims, withoutSlash_eq_self no_slash, firstWord_append token (endsWord_trimEnd ended)]
  | @slashed indent gap tail blank apart ended =>
    have inked : IsWord ['/'] := by decide
    have trims : trim (indent ++ '/' :: (gap ++ (name ++ tail))) =
        '/' :: (gap ++ (name ++ trimEnd tail)) := by
      rw [trim, trimStart_blanks blank]
      exact (congrArg trimEnd (trimStart_word inked)).trans
        (trimEnd_behind_word token ('/' :: gap) tail)
    rw [trims, withoutSlash, firstWord, trimStart_blanks apart]
    exact firstWord_append token (endsWord_trimEnd ended)

theorem calls_commandChars {line : List Char} (named : commandChars line ≠ []) :
    IsWord (commandChars line) ∧ Calls (commandChars line) line := by
  obtain ⟨indent, back, split, blank, blank_back⟩ := trim_split line
  obtain ⟨gap, words, apart⟩ := firstWord_split (withoutSlash (trim line))
  have ended := endsWord_append (afterFirstWord_blank (withoutSlash (trim line))) blank_back
  generalize afterFirstWord (withoutSlash (trim line)) = after at words ended
  change withoutSlash (trim line) = gap ++ (commandChars line ++ after) at words
  refine ⟨⟨named, firstWord_inked _⟩, ?_⟩
  rcases withoutSlash_cases (trim line) with plain | slashed
  · have whole : line = (indent ++ gap) ++ (commandChars line ++ (after ++ back)) := by
      rw [plain, words] at split
      simpa using split
    have blanks : AllBlank (indent ++ gap) := by
      intro c member
      exact (List.mem_append.mp member).elim (blank c) (apart c)
    have calls : Calls (commandChars line) _ := .plain blanks ended
    rwa [← whole] at calls
  · have whole : line = indent ++ '/' :: (gap ++ (commandChars line ++ (after ++ back))) := by
      rw [slashed, words] at split
      simpa using split
    have calls : Calls (commandChars line) _ := .slashed blank apart ended
    rwa [← whole] at calls

theorem ne_empty_of_word {name : String} (token : IsWord name.toList) : name ≠ "" := by
  rintro rfl
  exact token.nonempty rfl

theorem isBlacklisted_alike {name other : String} {blacklist : List String}
    (token : IsWord name.toList) (token_other : IsWord other.toList)
    (small : other.toList.map Char.toLower = name.toList.map Char.toLower) :
    isBlacklisted other blacklist = isBlacklisted name blacklist := by
  have lowers : lowerEach other.toList = lowerEach name.toList := by
    rw [← lowerEach_map_toLower, small, lowerEach_map_toLower]
  rw [Bool.eq_iff_iff, Lint.isBlacklisted_iff (ne_empty_of_word token_other),
    Lint.isBlacklisted_iff (ne_empty_of_word token), lowers]

theorem named_of_dangerous {line : String} {blacklist : List String}
    (dangerous : isDangerous line blacklist = true) : commandChars line.toList ≠ [] := by
  intro nothing
  have unnamed : commandName line = "" := by
    rw [← String.toList_eq_nil_iff, toList_commandName, nothing]
  rw [isDangerous, unnamed] at dangerous
  simp [isBlacklisted] at dangerous

/-- Whether a line is dangerous is said by the name that it calls: in whatever case the letters of
the name are, with blanks around it, and with a slash in front or without, the line is as dangerous
as the name. And every dangerous line is written in one of these ways. -/
theorem danger_by_name (blacklist : List String) :
    (∀ name other : String, IsName name.toList →
      sameIgnoringAsciiCase other.toList name.toList = true →
      ∀ line : String, Calls other.toList line.toList →
        isDangerous line blacklist = isBlacklisted name blacklist) ∧
    ∀ line : String, isDangerous line blacklist = true →
      IsWord (commandName line).toList ∧ Calls (commandName line).toList line.toList := by
  constructor
  · intro name other named alike line calls
    have small : other.toList.map Char.toLower = name.toList.map Char.toLower := beq_iff_eq.mp alike
    have named_other : IsName other.toList := by
      rw [← isName_map_toLower, small, isName_map_toLower]
      exact named
    have same : commandName line = other := by
      rw [← String.toList_inj, toList_commandName]
      exact commandChars_of_calls named_other calls
    rw [isDangerous, same, isBlacklisted_alike named.word named_other.word small]
  · intro line dangerous
    rw [toList_commandName]
    exact calls_commandChars (named_of_dangerous dangerous)

theorem danger_by_name_stop :
    IsName "stop".toList ∧ Calls "sTOP".toList "\u2003/\u00A0sTOP\tnow".toList ∧
      isDangerous "\u2003/\u00A0sTOP\tnow" ["Stop"] = isBlacklisted "stop" ["Stop"] ∧
      isDangerous "/ STOP\u3000now" ["Stop"] = true ∧
      Calls (commandName "/ STOP\u3000now").toList "/ STOP\u3000now".toList := by
  have named : IsName "stop".toList := by decide
  have alike : sameIgnoringAsciiCase "sTOP".toList "stop".toList = true := by decide
  have indent : AllBlank ['\u2003'] := by simp [AllBlank, isBlank]
  have gap : AllBlank ['\u00A0'] := by simp [AllBlank, isBlank]
  have ended : EndsWord ['\t', 'n', 'o', 'w'] := by simp [EndsWord, isBlank]
  have calls : Calls "sTOP".toList "\u2003/\u00A0sTOP\tnow".toList := .slashed indent gap ended
  have dangerous : isDangerous "/ STOP\u3000now" ["Stop"] = true := by decide +kernel
  obtain ⟨judged, written⟩ := danger_by_name ["Stop"]
  exact ⟨named, calls, judged "stop" "sTOP" named alike _ calls, dangerous,
    (written _ dangerous).2⟩

end ConsoleBatch
