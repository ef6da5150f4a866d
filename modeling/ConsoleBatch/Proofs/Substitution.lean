import ConsoleBatch.Message.Template
import ConsoleBatch.Proofs.Trimming
import Mathlib.Data.List.Forall2

/-! What becomes of the tags of a template.

Where a template is cut is said by the template and the names alone: the pieces put together are the
template, and no tag is left in one piece with something else. The values come in afterwards, one
for each piece, so that none of them is looked at for tags. -/

namespace ConsoleBatch.Message

def tagText (name : String) : List Char :=
  '<' :: (name.toList ++ ['>'])

def Piece.source : Piece → List Char
  | .literal c => [c]
  | .tag name => tagText name

def sourceOf (pieces : List Piece) : List Char :=
  pieces.flatMap Piece.source

/-- A name that neither starts nor ends a tag within a tag. -/
structure IsTagName (name : String) : Prop where
  no_opening : '<' ∉ name.toList
  no_closing : '>' ∉ name.toList

instance (name : String) : Decidable (IsTagName name) :=
  decidable_of_iff ('<' ∉ name.toList ∧ '>' ∉ name.toList)
    ⟨fun ⟨opening, closing⟩ => ⟨opening, closing⟩, fun plain => ⟨plain.no_opening, plain.no_closing⟩⟩

/-- The pieces are the template, their tags have names of the list, and wherever the template has
such a tag, it is one of the pieces. -/
structure Cuts (names : List String) (template : List Char) (pieces : List Piece) : Prop where
  whole : sourceOf pieces = template
  named : ∀ name, .tag name ∈ pieces → name ∈ names
  complete : ∀ name ∈ names, ∀ front back, template = front ++ (tagText name ++ back) →
    ∃ before after, pieces = before ++ .tag name :: after ∧ sourceOf before = front ∧
      sourceOf after = back

theorem sourceOf_cons (piece : Piece) (pieces : List Piece) :
    sourceOf (piece :: pieces) = piece.source ++ sourceOf pieces :=
  List.flatMap_cons

theorem source_ne_nil (piece : Piece) : piece.source ≠ [] := by
  cases piece <;> exact List.cons_ne_nil _ _

theorem eq_nil_of_sourceOf {pieces : List Piece} (nothing : sourceOf pieces = []) : pieces = [] := by
  cases pieces with
  | nil => rfl
  | cons piece pieces =>
    rw [sourceOf_cons, List.append_eq_nil_iff] at nothing
    exact absurd nothing.1 (source_ne_nil piece)

namespace Cuts

variable {names : List String} {template : List Char} {piece other : Piece}
  {pieces others : List Piece}

theorem behind (cuts : Cuts names template (piece :: pieces)) :
    Cuts names (sourceOf pieces) pieces where
  whole := rfl
  named name member := cuts.named name (List.mem_cons_of_mem _ member)
  complete name listed front back split := by
    -- The tag stands in the whole template too, with the first piece in front of it.
    have from_start : template = piece.source ++ front ++ (tagText name ++ back) := by
      rw [← cuts.whole, sourceOf_cons, split, List.append_assoc]
    obtain ⟨before, after, cut, here, rest⟩ := cuts.complete name listed _ back from_start
    cases before with
    | nil =>
      obtain ⟨nothing, _⟩ := List.append_eq_nil_iff.mp here.symm
      exact absurd nothing (source_ne_nil piece)
    | cons first before =>
      obtain ⟨rfl, behind⟩ := List.cons.inj cut
      rw [sourceOf_cons] at here
      exact ⟨before, after, behind, List.append_cancel_left here, rest⟩

/-- A tag at the front is the first piece of any cutting. -/
theorem starts_with_tag {name : String} (cuts : Cuts names template (.tag name :: pieces))
    (cuts' : Cuts names template (other :: others)) : other = .tag name := by
  have listed := cuts.named name List.mem_cons_self
  have start : template = [] ++ (tagText name ++ sourceOf pieces) := by
    rw [← cuts.whole, sourceOf_cons]
    rfl
  obtain ⟨before, after, cut, nothing, _⟩ := cuts'.complete name listed _ _ start
  rw [eq_nil_of_sourceOf nothing] at cut
  exact (List.cons.inj cut).1

theorem same_start (cuts : Cuts names template (piece :: pieces))
    (cuts' : Cuts names template (other :: others)) : piece = other := by
  cases piece with
  | tag name => exact (cuts.starts_with_tag cuts').symm
  | literal c =>
    cases other with
    | tag name => exact cuts'.starts_with_tag cuts
    | literal d =>
      have same : c :: sourceOf pieces = d :: sourceOf others := cuts.whole.trans cuts'.whole.symm
      rw [(List.cons.inj same).1]

theorem unique (cuts : Cuts names template pieces) (cuts' : Cuts names template others) :
    pieces = others := by
  induction pieces generalizing template others with
  | nil =>
    have nothing : sourceOf others = [] := cuts'.whole.trans cuts.whole.symm
    rw [eq_nil_of_sourceOf nothing]
  | cons piece pieces ih =>
    cases others with
    | nil =>
      have nothing : sourceOf (piece :: pieces) = [] := cuts.whole.trans cuts'.whole.symm
      cases eq_nil_of_sourceOf nothing
    | cons other others =>
      obtain rfl := cuts.same_start cuts'
      have behind := cuts'.behind
      have same := cuts.whole.trans cuts'.whole.symm
      rw [sourceOf_cons, sourceOf_cons] at same
      rw [← List.append_cancel_left same] at behind
      rw [ih cuts.behind behind]

end Cuts

section

variable {isName : String → Bool} {c : Char} {rest after : List Char} {name : String}

theorem tagAfter?_eq_some_iff :
    tagAfter? isName rest = some (name, after) ↔
      rest = name.toList ++ '>' :: after ∧ '>' ∉ name.toList ∧ isName name = true := by
  constructor
  · intro found
    have whole := List.takeWhile_append_dropWhile (p := (· != '>')) (l := rest)
    have stops := List.head?_dropWhile_not (· != '>') rest
    have inside := List.all_takeWhile (p := (· != '>')) (l := rest)
    unfold tagAfter? at found
    split at found
    · cases found
    · rename_i close behind split
      split at found
      · rename_i named
        obtain ⟨rfl, rfl⟩ := Prod.mk.inj (Option.some.inj found)
        rw [split] at whole stops
        obtain rfl : close = '>' := by simpa using stops
        rw [tagName, String.toList_ofList]
        refine ⟨whole.symm, ?_, named⟩
        intro closing
        simpa using List.all_eq_true.mp inside _ closing
      · cases found
  · rintro ⟨rfl, no_closing, named⟩
    obtain ⟨front, back⟩ := Text.span_mark no_closing after
    unfold tagAfter? tagName
    rw [front, back]
    simp [named]

theorem openTag?_eq_some_iff :
    openTag? isName c rest = some (name, after) ↔
      c :: rest = tagText name ++ after ∧ '>' ∉ name.toList ∧ isName name = true := by
  unfold openTag?
  by_cases opening : c = '<'
  · rw [if_pos opening, tagAfter?_eq_some_iff, opening]
    simp [tagText]
  · simp [opening, tagText]

end

variable {isName : String → Bool} {template : List Char}

theorem sourceOf_cut (isName : String → Bool) (template : List Char) :
    sourceOf (cut isName template) = template := by
  fun_induction cut isName template with
  | case1 => rfl
  | case2 c rest name after found ih =>
    rw [sourceOf_cons, ih, (openTag?_eq_some_iff.mp found).1]
    rfl
  | case3 c rest none_here ih =>
    rw [sourceOf_cons, ih]
    rfl

theorem named_of_mem_cut {name : String} (member : .tag name ∈ cut isName template) :
    isName name = true := by
  fun_induction cut isName template with
  | case1 => cases member
  | case2 c rest first after found ih =>
    rcases List.mem_cons.mp member with same | member
    · cases same
      exact (openTag?_eq_some_iff.mp found).2.2
    · exact ih member
  | case3 c rest none_here ih =>
    rcases List.mem_cons.mp member with same | member
    · cases same
    · exact ih member

/-- Two tags of a text are the same one, or one stands behind the other. -/
theorem tags_apart {first name : String} {after front back : List Char} (plain : IsTagName first)
    (no_closing : '>' ∉ name.toList)
    (same : tagText first ++ after = front ++ (tagText name ++ back)) :
    (front = [] ∧ first = name ∧ after = back) ∨
      ∃ between, front = tagText first ++ between ∧ after = between ++ (tagText name ++ back) := by
  cases front with
  | nil =>
    have inner : first.toList ++ '>' :: after = name.toList ++ '>' :: back := by
      simpa [tagText] using same
    obtain ⟨name_first, rest_first⟩ := Text.span_mark plain.no_closing after
    obtain ⟨name_second, rest_second⟩ := Text.span_mark no_closing back
    rw [inner] at name_first rest_first
    have names := name_first.symm.trans name_second
    have rests := rest_first.symm.trans rest_second
    exact .inl ⟨rfl, String.toList_inj.mp names, (List.cons.inj rests).2⟩
  | cons c front =>
    obtain ⟨rfl, inner⟩ := List.cons.inj same
    rcases List.append_eq_append_iff.mp inner with ⟨between, rfl, rfl⟩ | ⟨rest, split, within⟩
    · exact .inr ⟨between, rfl, rfl⟩
    · cases rest with
      | nil =>
        rw [List.append_nil] at split
        exact .inr ⟨[], by rw [List.append_nil, ← split]; rfl, within.symm⟩
      | cons d rest =>
        -- The second tag would start within the first one.
        obtain ⟨rfl, _⟩ := List.cons.inj within
        have inside : '<' ∈ first.toList ++ ['>'] := by
          rw [split]
          exact List.mem_append_right _ List.mem_cons_self
        simp [plain.no_opening] at inside

theorem cut_complete (plain : ∀ name, isName name = true → IsTagName name) {name : String}
    (named : isName name = true) {front back : List Char}
    (split : template = front ++ (tagText name ++ back)) :
    ∃ before after, cut isName template = before ++ .tag name :: after ∧
      sourceOf before = front ∧ sourceOf after = back := by
  fun_induction cut isName template generalizing front with
  | case1 => simp [tagText] at split
  | case2 c rest first after found ih =>
    obtain ⟨start, _, named_first⟩ := openTag?_eq_some_iff.mp found
    rw [start] at split
    rcases tags_apart (plain first named_first) (plain name named).no_closing split with
      ⟨rfl, rfl, rfl⟩ | ⟨between, rfl, behind⟩
    · exact ⟨[], _, rfl, rfl, sourceOf_cut isName after⟩
    · obtain ⟨before, rest, cut, here, ends⟩ := ih behind
      refine ⟨.tag first :: before, rest, congrArg _ cut, ?_, ends⟩
      rw [sourceOf_cons, here]
      rfl
  | case3 c rest none_here ih =>
    cases front with
    | nil =>
      have found := openTag?_eq_some_iff.mpr ⟨split, (plain name named).no_closing, named⟩
      cases none_here.symm.trans found
    | cons d front =>
      obtain ⟨rfl, behind⟩ := List.cons.inj split
      obtain ⟨before, rest, cut, here, ends⟩ := ih behind
      refine ⟨.literal c :: before, rest, congrArg _ cut, ?_, ends⟩
      rw [sourceOf_cons, here]
      rfl

theorem cuts_cut {names : List String} (plain : ∀ name ∈ names, IsTagName name)
    (same : ∀ name, isName name = true ↔ name ∈ names) (template : List Char) :
    Cuts names template (cut isName template) where
  whole := sourceOf_cut isName template
  named name member := (same name).mp (named_of_mem_cut member)
  complete name listed _ _ split :=
    cut_complete (fun other named => plain other ((same other).mp named)) ((same name).mpr listed)
      split

variable {bindings : Bindings}

def FirstValue (bindings : Bindings) (name value : String) : Prop :=
  ∃ front back, bindings = front ++ (name, value) :: back ∧ ∀ entry ∈ front, entry.1 ≠ name

inductive Shows (bindings : Bindings) : Piece → List Char → Prop
  | literal (c : Char) : Shows bindings (.literal c) [c]
  | tag {name value : String} (first : FirstValue bindings name value) :
      Shows bindings (.tag name) value.toList

theorem lookup_eq_some_iff_first {name value : String} :
    bindings.lookup name = some value ↔ FirstValue bindings name value := by
  have differs : ∀ entry : String × String, (name != entry.1) = true ↔ entry.1 ≠ name :=
    fun entry => bne_iff_ne.trans ne_comm
  simp only [List.lookup_eq_some_iff, differs, FirstValue]

theorem isSome_lookup_iff {name : String} :
    (bindings.lookup name).isSome = true ↔ name ∈ bindings.map Prod.fst := by
  have same : ∀ entry : String × String, (name == entry.1) = true ↔ entry.1 = name :=
    fun entry => beq_iff_eq.trans eq_comm
  simp only [List.lookup_isSome_iff, List.mem_map, same]

theorem exists_value {name : String} (bound : (bindings.lookup name).isSome = true) :
    ∃ value, FirstValue bindings name value ∧ fill bindings (.tag name) = value.toList := by
  obtain ⟨value, found⟩ := Option.isSome_iff_exists.mp bound
  refine ⟨value, lookup_eq_some_iff_first.mp found, ?_⟩
  rw [fill, found, Option.getD_some]

theorem shows_fill (piece : Piece)
    (bound : ∀ name, piece = .tag name → (bindings.lookup name).isSome = true) :
    Shows bindings piece (fill bindings piece) := by
  cases piece with
  | literal c => exact .literal c
  | tag name =>
    obtain ⟨value, first, filled⟩ := exists_value (bound name rfl)
    rw [filled]
    exact .tag first

theorem fill_itself (itself : ∀ entry ∈ bindings, entry.2 = String.ofList (tagText entry.1))
    (piece : Piece) (bound : ∀ name, piece = .tag name → (bindings.lookup name).isSome = true) :
    fill bindings piece = piece.source := by
  cases piece with
  | literal c => rfl
  | tag name =>
    obtain ⟨value, ⟨front, back, split, _⟩, filled⟩ := exists_value (bound name rfl)
    have own : value = String.ofList (tagText name) := by
      apply itself (name, value)
      rw [split]
      exact List.mem_append_right _ List.mem_cons_self
    rw [filled, own, String.toList_ofList]
    rfl

theorem substitute_eq {names : List String}
    (same : ∀ name, name ∈ bindings.map Prod.fst ↔ name ∈ names) (template : String) :
    substitute template bindings =
      String.ofList ((cut names.contains template.toList).flatMap (fill bindings)) := by
  have names_only : (fun name => (bindings.lookup name).isSome) = names.contains := by
    funext name
    rw [Bool.eq_iff_iff, isSome_lookup_iff, List.contains_iff_mem, same]
  unfold substitute
  rw [names_only]

/-- A template is cut in one way, which the names decide and no value has a part in. What is shown
is a text for each piece, one after the other: literals as they stand, and the first value for each
tag as it stands. Tags that are filled in with themselves give the template back. -/
theorem substitution_by_pieces (names : List String) (plain : ∀ name ∈ names, IsTagName name)
    (template : String) :
    ∃ pieces, (∀ other, Cuts names template.toList other ↔ other = pieces) ∧
      ∀ bindings : Bindings, (∀ name, name ∈ bindings.map Prod.fst ↔ name ∈ names) →
        (∃ shown, List.Forall₂ (Shows bindings) pieces shown ∧
          substitute template bindings = String.ofList shown.flatten) ∧
        ((∀ entry ∈ bindings, entry.2 = String.ofList (tagText entry.1)) →
          substitute template bindings = template) := by
  have cuts := cuts_cut plain (fun name => List.contains_iff_mem) template.toList
  refine ⟨_, fun other => ⟨fun cuts' => cuts'.unique cuts, fun same => same ▸ cuts⟩, ?_⟩
  intro bindings same
  have bound : ∀ piece ∈ cut names.contains template.toList,
      ∀ name, piece = .tag name → (bindings.lookup name).isSome = true := by
    rintro piece member name rfl
    exact isSome_lookup_iff.mpr ((same name).mpr (cuts.named name member))
  rw [substitute_eq same]
  constructor
  · refine ⟨(cut names.contains template.toList).map (fill bindings), ?_, ?_⟩
    · rw [List.forall₂_map_right_iff, List.forall₂_same]
      exact fun piece member => shows_fill piece (bound piece member)
    · rw [List.flatMap_def]
  · intro itself
    have unchanged : (cut names.contains template.toList).flatMap (fill bindings) =
        sourceOf (cut names.contains template.toList) :=
      List.flatMap_congr fun piece member => fill_itself itself piece (bound piece member)
    rw [unchanged, cuts.whole, String.ofList_toList]

def bracketed : String :=
  "<<line> <x<line>> <y> <count"

theorem substitution_by_pieces_bracketed :
    (∀ name ∈ ["line", "count"], IsTagName name) ∧
      (∃ pieces, Cuts ["line", "count"] bracketed.toList pieces ∧
        ∃ shown, List.Forall₂ (Shows [("line", "<count>"), ("count", "2"), ("line", "z")]) pieces
            shown ∧
          "<<count> <x<count>> <y> <count" = String.ofList shown.flatten) ∧
      substitute bracketed [("count", "<count>"), ("line", "<line>")] = bracketed := by
  have plain : ∀ name ∈ ["line", "count"], IsTagName name := by decide
  have result : substitute bracketed [("line", "<count>"), ("count", "2"), ("line", "z")] =
      "<<count> <x<count>> <y> <count" := by
    decide +kernel
  obtain ⟨pieces, cuts, filled⟩ := substitution_by_pieces ["line", "count"] plain bracketed
  obtain ⟨⟨shown, each, whole⟩, _⟩ := filled [("line", "<count>"), ("count", "2"), ("line", "z")]
    (by grind)
  obtain ⟨_, unchanged⟩ := filled [("count", "<count>"), ("line", "<line>")] (by grind)
  rw [result] at whole
  exact ⟨plain, ⟨pieces, (cuts pieces).mpr rfl, shown, each, whole⟩, unchanged (by decide)⟩

end ConsoleBatch.Message
