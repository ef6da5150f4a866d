import ConsoleBatch.Text.Blank
import ConsoleBatch.Text.Lines

/-! What trimming takes from the ends of a text, and the line feeds that no line has. -/

namespace ConsoleBatch.Text

structure Bare (text : List Char) : Prop where
  front : ∀ first ∈ text.head?, isBlank first = false
  back : ∀ last ∈ text.getLast?, isBlank last = false

theorem head_trimStart (text : List Char) :
    ∀ first ∈ (trimStart text).head?, isBlank first = false := by
  intro first start
  have kept := List.head?_dropWhile_not isBlank text
  rw [Option.mem_def, trimStart] at start
  rw [start] at kept
  simpa using kept

theorem reverse_trimEnd (text : List Char) : (trimEnd text).reverse = trimStart text.reverse :=
  List.reverse_reverse _

theorem prefix_trimEnd (text : List Char) : trimEnd text <+: text := by
  rw [← List.reverse_suffix, reverse_trimEnd]
  exact List.dropWhile_suffix _

theorem infix_trim (text : List Char) : trim text <:+: text :=
  (prefix_trimEnd _).isInfix.trans (List.dropWhile_suffix _).isInfix

theorem bare_trim (text : List Char) : Bare (trim text) := by
  constructor
  · intro first start
    obtain ⟨cut, whole⟩ := prefix_trimEnd (trimStart text)
    apply head_trimStart text
    rw [← whole, List.head?_append]
    change (trim text).head?.or _ = _
    rw [start, Option.some_or]
  · intro last finish
    apply head_trimStart (trimStart text).reverse
    rw [← reverse_trimEnd, List.head?_reverse]
    exact finish

theorem trimStart_of_head {text : List Char} (front : ∀ first ∈ text.head?, isBlank first = false) :
    trimStart text = text := by
  cases text with
  | nil => rfl
  | cons first rest =>
    have inked : isBlank first = false := front first rfl
    simp [trimStart, inked]

theorem trim_of_bare {text : List Char} (bare : Bare text) : trim text = text := by
  have back : trimStart text.reverse = text.reverse := by
    apply trimStart_of_head
    rw [List.head?_reverse]
    exact bare.back
  calc
    trim text = (trimStart (trimStart text).reverse).reverse := rfl
    _ = (trimStart text.reverse).reverse := by rw [trimStart_of_head bare.front]
    _ = text := by rw [back, List.reverse_reverse]

theorem mem_trimStart {c : Char} {text : List Char} (inked : isBlank c = false)
    (member : c ∈ text) : c ∈ trimStart text := by
  rw [← List.takeWhile_append_dropWhile (p := isBlank) (l := text)] at member
  rcases List.mem_append.mp member with cut | kept
  · have blank := List.all_eq_true.mp List.all_takeWhile c cut
    rw [inked] at blank
    cases blank
  · exact kept

theorem mem_trim {c : Char} {text : List Char} (inked : isBlank c = false) (member : c ∈ text) :
    c ∈ trim text := by
  apply List.mem_reverse.mp
  rw [trim, reverse_trimEnd]
  exact mem_trimStart inked (List.mem_reverse.mpr (mem_trimStart inked member))

theorem trimEnd_blank {c : Char} (blank : isBlank c = true) (text : List Char) :
    trimEnd (text ++ [c]) = trimEnd text := by
  simp [trimEnd, blank]

theorem trim_blank {c : Char} (blank : isBlank c = true) (text : List Char) :
    trim (text ++ [c]) = trim text := by
  rw [trim, trim, trimStart, trimStart, List.dropWhile_append]
  split
  · rename_i nothing
    rw [List.isEmpty_iff] at nothing
    rw [nothing, List.dropWhile_cons_of_pos blank, List.dropWhile_nil]
  · exact trimEnd_blank blank _

theorem trimmed_trimmed (text : String) : trimmed (trimmed text) = trimmed text := by
  apply String.toList_inj.mp
  rw [toList_trimmed, toList_trimmed]
  exact trim_of_bare (bare_trim text.toList)

theorem other_of_not_mem {mark : Char} {text : List Char} (absent : mark ∉ text) :
    ∀ c ∈ text, (c != mark) = true := by
  intro c member
  apply bne_iff_ne.mpr
  rintro rfl
  exact absent member

/-- The first mark in a text is the one that no other stands in front of. -/
theorem span_mark {mark : Char} {front : List Char} (absent : mark ∉ front) (back : List Char) :
    (front ++ mark :: back).takeWhile (· != mark) = front ∧
      (front ++ mark :: back).dropWhile (· != mark) = mark :: back := by
  rw [List.takeWhile_append_of_pos (other_of_not_mem absent),
    List.dropWhile_append_of_pos (other_of_not_mem absent)]
  simp

theorem withoutReturn_sublist (line : List Char) : (withoutReturn line).Sublist line := by
  unfold withoutReturn
  split
  · exact List.dropLast_sublist line
  · exact List.Sublist.refl line

theorem trim_withoutReturn (line : List Char) : trim (withoutReturn line) = trim line := by
  unfold withoutReturn
  split
  · rename_i finish
    obtain ⟨front, rfl⟩ := List.getLast?_eq_some_iff.mp finish
    rw [List.dropLast_concat, trim_blank (by decide)]
  · rfl

/-- A text is cut at its line feeds; what stands behind the last one has none. -/
inductive Lined : List Char → Prop
  | last {line : List Char} (unbroken : '\n' ∉ line) : Lined line
  | line {line rest : List Char} (unbroken : '\n' ∉ line) (onward : Lined rest) :
      Lined (line ++ '\n' :: rest)

theorem lined (text : List Char) : Lined text := by
  induction text with
  | nil => exact .last List.not_mem_nil
  | cons c text ih =>
    by_cases feed : '\n' = c
    · rw [← feed]
      exact @Lined.line [] text List.not_mem_nil ih
    · cases ih with
      | last unbroken => exact .last (List.not_mem_cons_of_ne_of_not_mem feed unbroken)
      | line unbroken onward =>
        exact .line (List.not_mem_cons_of_ne_of_not_mem feed unbroken) onward

theorem lines_followed {text rest : List Char} (found : afterFeed? text = some rest) :
    lines text = withoutReturn (beforeFeed text) :: lines rest := by
  rw [lines]
  split
  · rename_i other here
    obtain rfl := Option.some.inj (found.symm.trans here)
    rfl
  · rename_i missing
    cases found.symm.trans missing

theorem lines_last {text : List Char} (last : afterFeed? text = none) :
    lines text = if text.isEmpty then [] else [text] := by
  rw [lines]
  split
  · rename_i found
    cases last.symm.trans found
  · rfl

theorem afterFeed?_cons {line : List Char} (unbroken : '\n' ∉ line) (rest : List Char) :
    afterFeed? (line ++ '\n' :: rest) = some rest := by
  rw [afterFeed?, (span_mark unbroken rest).2]
  rfl

theorem afterFeed?_eq_none {text : List Char} (unbroken : '\n' ∉ text) :
    afterFeed? text = none := by
  have nothing : (text ++ []).dropWhile (· != '\n') = [] :=
    List.dropWhile_append_of_pos (other_of_not_mem unbroken)
  rw [List.append_nil] at nothing
  rw [afterFeed?, nothing]
  rfl

theorem lines_feed {line : List Char} (unbroken : '\n' ∉ line) (rest : List Char) :
    lines (line ++ '\n' :: rest) = withoutReturn line :: lines rest := by
  have before : beforeFeed (line ++ '\n' :: rest) = line := (span_mark unbroken rest).1
  rw [lines_followed (afterFeed?_cons unbroken rest), before]

theorem lines_unbroken {text : List Char} (unbroken : '\n' ∉ text) :
    lines text = if text.isEmpty then [] else [text] :=
  lines_last (afterFeed?_eq_none unbroken)

theorem lines_nil : lines [] = [] :=
  lines_unbroken List.not_mem_nil

/-- Every line has a character of its own, for an empty one ends. -/
theorem length_lines_le (text : List Char) : (lines text).length ≤ text.length := by
  induction lined text with
  | @last line unbroken =>
    rw [lines_unbroken unbroken]
    cases line with
    | nil => exact Nat.le_refl 0
    | cons c rest => exact Nat.succ_le_succ (Nat.zero_le rest.length)
  | line unbroken onward ih =>
    rw [lines_feed unbroken, List.length_cons, List.length_append, List.length_cons]
    omega

theorem feed_not_mem_lines {text line : List Char} (member : line ∈ lines text) : '\n' ∉ line := by
  induction lined text with
  | last unbroken =>
    rw [lines_unbroken unbroken] at member
    split at member
    · cases member
    · rw [List.mem_singleton.mp member]
      exact unbroken
  | line unbroken _ ih =>
    rw [lines_feed unbroken] at member
    rcases List.mem_cons.mp member with rfl | later
    · exact fun feed => unbroken ((withoutReturn_sublist _).subset feed)
    · exact ih later

end ConsoleBatch.Text
