import ConsoleBatch.Proofs.Numerals
import ConsoleBatch.Proofs.Readable

/-! Values that are written and read again.

A value is scanned as the tokens that its parts are scanned as, whatever blanks stand between them,
and the reader puts a value together from them with the members of its objects in order. Its numbers
are what their numerals are read as: natural numbers that fit a machine word stay the same. -/

namespace ConsoleBatch.Json

/-- The numbers of the value are natural and fit a machine word. -/
inductive Plain : Value → Prop
  | null : Plain .null
  | bool (value : Bool) : Plain (.bool value)
  | natural {n : Nat} (fits : n < wordLimit) : Plain (.number (.integer n))
  | string (text : String) : Plain (.string text)
  | array {items : List Value} (each : ∀ item ∈ items, Plain item) : Plain (.array items)
  | object {members : List (String × Value)} (each : ∀ member ∈ members, Plain member.2) :
      Plain (.object members)

inductive Printable : Value → Prop
  | null : Printable .null
  | bool (value : Bool) : Printable (.bool value)
  | number {number : Number} (finite : number.Finite) : Printable (.number number)
  | string (text : String) : Printable (.string text)
  | array {items : List Value} (each : ∀ item ∈ items, Printable item) : Printable (.array items)
  | object {members : List (String × Value)} (each : ∀ member ∈ members, Printable member.2) :
      Printable (.object members)

theorem Plain.printable {value : Value} (plain : Plain value) : Printable value := by
  induction plain with
  | null => exact .null
  | bool value => exact .bool value
  | natural fits => exact .number trivial
  | string text => exact .string text
  | array _ ih => exact .array ih
  | object _ ih => exact .object ih

mutual

def tokensOf : Value → List Token
  | .null => [.null]
  | .bool value => [.bool value]
  | .number number => [.numeral number.text]
  | .string text => [.string text]
  | .array items =>
    .openBracket :: ([Token.comma].intercalate (itemTokens items) ++ [.closeBracket])
  | .object members =>
    .openBrace :: ([Token.comma].intercalate (memberTokens members) ++ [.closeBrace])

def itemTokens : List Value → List (List Token)
  | [] => []
  | item :: rest => tokensOf item :: itemTokens rest

def memberTokens : List (String × Value) → List (List Token)
  | [] => []
  | (name, value) :: rest => (.string name :: .colon :: tokensOf value) :: memberTokens rest

end

theorem itemTokens_eq_map (items : List Value) : itemTokens items = items.map tokensOf := by
  induction items with
  | nil => rfl
  | cons item rest ih => rw [itemTokens, ih, List.map_cons]

theorem memberTokens_eq_map (members : List (String × Value)) :
    memberTokens members =
      members.map fun member => .string member.1 :: .colon :: tokensOf member.2 := by
  induction members with
  | nil => rfl
  | cons member rest ih => rw [memberTokens, ih, List.map_cons]

theorem writeItems_eq_map (style : Style) (depth : Nat) (items : List Value) :
    style.writeItems depth items = items.map (style.write depth) := by
  induction items with
  | nil => rfl
  | cons item rest ih => rw [Style.writeItems, ih, List.map_cons]

theorem writeMembers_eq_map (style : Style) (depth : Nat) (members : List (String × Value)) :
    style.writeMembers depth members =
      members.map fun member => quoted member.1 ++ style.colon ++ style.write depth member.2 := by
  induction members with
  | nil => rfl
  | cons member rest ih => rw [Style.writeMembers, ih, List.map_cons]

def Gap (text : List Char) : Prop :=
  ∀ c ∈ text, c = ' ' ∨ c = '\n'

theorem gap_nil : Gap [] :=
  List.forall_mem_nil _

theorem gap_newLine (depth : Nat) : Gap (newLine depth).toList := by
  intro c listed
  rw [newLine, String.toList_ofList] at listed
  rcases List.mem_cons.mp listed with feed | blank
  · exact .inr feed
  · exact .inl (List.eq_of_mem_replicate blank)

theorem scans_gap {gap : List Char} (blank : Gap gap) (rest : List Char) : Scans rest gap [] := by
  refine scans_blanks (fun c listed => ?_) rest
  rcases blank c listed with rfl | rfl <;> decide

theorem ends_gap {gap rest : List Char} (blank : Gap gap) (ends : Ends rest) :
    Ends (gap ++ rest) := by
  cases gap with
  | nil => exact ends
  | cons c more =>
    rcases blank c List.mem_cons_self with rfl | rfl <;>
      exact ends_cons (by decide) (by decide) _

/-- The style sets the parts of a value apart by blanks, if at all. -/
structure Style.Spaced (style : Style) : Prop where
  colon : ∃ gap, Gap gap ∧ style.colon.toList = ':' :: gap
  enclose : ∀ depth opening parts closing, ∃ before between after,
    Gap before ∧ Gap between ∧ Gap after ∧
      (style.enclose depth opening parts closing).toList = opening.toList ++
        (before ++ ((',' :: between).intercalate (parts.map String.toList) ++
          (after ++ closing.toList)))

theorem spaced_oneLine : oneLine.Spaced where
  colon := ⟨[], gap_nil, rfl⟩
  enclose _ opening parts closing :=
    ⟨[], [], [], gap_nil, gap_nil, gap_nil, by simp [oneLine]⟩

theorem spaced_indented : indented.Spaced where
  colon := ⟨[' '], List.forall_mem_singleton.mpr (.inl rfl), rfl⟩
  enclose depth opening parts closing := by
    cases parts with
    | nil => exact ⟨[], [], [], gap_nil, gap_nil, gap_nil, by simp [indented]⟩
    | cons part more =>
      have inner := gap_newLine (depth + 1)
      exact ⟨_, _, _, inner, inner, gap_newLine depth, by simp [indented]⟩

theorem scans_parts {α : Type} {parts : List α} {chars : α → List Char} {tokens : α → List Token}
    {between : List Char} (blank : Gap between)
    (each : ∀ part ∈ parts, ∀ rest, Ends rest → Scans rest (chars part) (tokens part))
    {rest : List Char} (ends : Ends rest) :
    Scans rest ((',' :: between).intercalate (parts.map chars))
      ([Token.comma].intercalate (parts.map tokens)) := by
  induction parts with
  | nil => exact scans_nil rest
  | cons part more ih =>
    obtain ⟨here, others⟩ := List.forall_mem_cons.mp each
    cases more with
    | nil => simpa using here rest ends
    | cons next more =>
      simp only [List.map_cons, List.intercalate_cons_cons, List.append_assoc] at ih ⊢
      generalize (',' :: between).intercalate (chars next :: more.map chars) = later at ih ⊢
      have comma : Scans (later ++ rest) (',' :: between) [.comma] :=
        Scans.append (scans_mark (by decide) (fun _ => rfl) _) (scans_gap blank _)
      exact (here _ (ends_cons (by decide) (by decide) _)).append (comma.append (ih others))

/-- Brackets of a style, around parts that can be scanned in front of a comma or of what closes. -/
theorem scans_enclosed {style : Style} (spaced : style.Spaced) (depth : Nat)
    {opening closing : String} {first last : Token}
    (front : ∀ rest, Scans rest opening.toList [first])
    (back : ∀ rest, Scans rest closing.toList [last])
    (closes : ∀ rest, Ends (closing.toList ++ rest)) {α : Type} {parts : List α}
    {written : α → String} {tokens : α → List Token}
    (each : ∀ part ∈ parts, ∀ rest, Ends rest → Scans rest (written part).toList (tokens part))
    (rest : List Char) :
    Scans rest (style.enclose depth opening (parts.map written) closing).toList
      (first :: ([Token.comma].intercalate (parts.map tokens) ++ [last])) := by
  obtain ⟨before, between, after, before_blank, between_blank, after_blank, laid⟩ :=
    spaced.enclose depth opening (parts.map written) closing
  rw [laid, List.map_map]
  have ending : Scans rest (after ++ closing.toList) [last] :=
    (scans_gap after_blank _).append (back rest)
  have ends : Ends (after ++ closing.toList ++ rest) := by
    rw [List.append_assoc]
    exact ends_gap after_blank (closes rest)
  have inside := scans_parts between_blank each ends
  exact (front _).append ((scans_gap before_blank _).append (inside.append ending))

theorem scans_write {style : Style} (spaced : style.Spaced) {value : Value}
    (printable : Printable value) (depth : Nat) {rest : List Char} (ends : Ends rest) :
    Scans rest (style.write depth value).toList (tokensOf value) := by
  induction printable generalizing depth rest with
  | null => exact scans_null ends
  | bool value => exact scans_bool value ends
  | @number number finite =>
    have scans := scans_numeral (numeral_text finite) ends
    rw [String.ofList_toList] at scans
    exact scans
  | string text => exact scans_quoted text rest
  | @array items each ih =>
    rw [Style.write, writeItems_eq_map, tokensOf, itemTokens_eq_map]
    apply scans_enclosed spaced depth
    · exact scans_mark (by decide) fun _ => rfl
    · exact scans_mark (by decide) fun _ => rfl
    · exact ends_cons (by decide) (by decide)
    · exact fun item listed rest ends => ih item listed _ ends
  | @object members each ih =>
    obtain ⟨gap, gap_blank, colon_laid⟩ := spaced.colon
    rw [Style.write, writeMembers_eq_map, tokensOf, memberTokens_eq_map]
    apply scans_enclosed spaced depth
    · exact scans_mark (by decide) fun _ => rfl
    · exact scans_mark (by decide) fun _ => rfl
    · exact ends_cons (by decide) (by decide)
    · intro member listed rest ends
      have value := ih member listed (depth + 1) ends
      have colon : Scans ((style.write (depth + 1) member.2).toList ++ rest) style.colon.toList
          [.colon] := by
        rw [colon_laid]
        exact Scans.append (scans_mark (by decide) (fun _ => rfl) _) (scans_gap gap_blank _)
      have name := scans_quoted member.1
        ((style.colon.toList ++ (style.write (depth + 1) member.2).toList) ++ rest)
      simpa using name.append (colon.append value)

mutual

/-- The value put together from its parts: its numbers as `number` makes them, and the members of
all its objects in order. -/
def Value.rebuilt (number : Number → Value) : Value → Value
  | .number n => number n
  | .array items => .array (Value.rebuiltItems number items)
  | .object members => .ofMembers (Value.rebuiltMembers number members)
  | value => value

def Value.rebuiltItems (number : Number → Value) : List Value → List Value
  | [] => []
  | item :: rest => item.rebuilt number :: Value.rebuiltItems number rest

def Value.rebuiltMembers (number : Number → Value) :
    List (String × Value) → List (String × Value)
  | [] => []
  | (name, value) :: rest => (name, value.rebuilt number) :: Value.rebuiltMembers number rest

end

def Value.sorted (value : Value) : Value :=
  value.rebuilt .number

/-- What the reader makes of a written value. -/
def Value.reread (value : Value) : Value :=
  value.rebuilt fun number => numeralValue number.text

variable {number : Number → Value}

theorem rebuilt_array (items : List Value) :
    (Value.array items).rebuilt number = .array (items.map (Value.rebuilt number)) := by
  rw [Value.rebuilt]
  congr 1
  induction items with
  | nil => rfl
  | cons item rest ih => rw [Value.rebuiltItems, ih, List.map_cons]

theorem rebuilt_object (members : List (String × Value)) :
    (Value.object members).rebuilt number =
      .ofMembers (members.map fun member => (member.1, member.2.rebuilt number)) := by
  rw [Value.rebuilt]
  congr 1
  induction members with
  | nil => rfl
  | cons member rest ih => rw [Value.rebuiltMembers, ih, List.map_cons]

/-- Natural numbers that fit a machine word are read as they are written. -/
theorem reread_of_plain {value : Value} (plain : Plain value) : value.reread = value.sorted := by
  unfold Value.reread Value.sorted
  induction plain with
  | null | bool | string => rfl
  | natural fits => exact numeralValue_digitsOf fits
  | array _ ih => rw [rebuilt_array, rebuilt_array, List.map_congr_left ih]
  | object _ ih =>
    rw [rebuilt_object, rebuilt_object]
    exact congrArg Value.ofMembers
      (List.map_congr_left fun member listed => Prod.ext rfl (ih member listed))

/-- The reader takes some tokens for a value, wherever a value may stand. -/
def Reads (tokens : List Token) (value : Value) : Prop :=
  ∀ reader after, deliver reader value = some after → tokens.foldlM readToken reader = some after

theorem reads_single {token : Token} {value : Value}
    (delivers : ∀ reader, readToken reader token = deliver reader value) :
    Reads [token] value := by
  intro reader after delivered
  rw [List.foldlM_cons, delivers, delivered]
  rfl

theorem nameOrValue_of_deliver {reader after : Reader} {name : String} {value : Value}
    (delivered : deliver reader value = some after) :
    nameOrValue reader name value = some after := by
  unfold nameOrValue
  split
  · rename_i opened
    unfold deliver at delivered
    rw [opened] at delivered
    cases delivered
  · exact delivered

theorem reads_string (text : String) : Reads [.string text] (.string text) := by
  intro reader after delivered
  rw [List.foldlM_cons]
  change (nameOrValue reader text (.string text)).bind _ = _
  rw [nameOrValue_of_deliver delivered]
  rfl

theorem reads_numeral (text : String) : Reads [.numeral text] (numeralValue text) := by
  intro reader after delivered
  rw [List.foldlM_cons]
  change (nameOrValue reader text (numeralValue text)).bind _ = _
  rw [nameOrValue_of_deliver delivered]
  rfl

theorem reads_parts {α β : Type} (frame : α → Bool → Frame) (tokens : β → List Token)
    (take : α → β → α) {root : Option Value} {outer : List Frame} {parts : List β}
    (comma : ∀ state, readToken { stack := frame state true :: outer, root } .comma =
      some { stack := frame state false :: outer, root })
    (each : ∀ part ∈ parts, ∀ state commaAllowed,
      (tokens part).foldlM readToken { stack := frame state commaAllowed :: outer, root } =
        some { stack := frame (take state part) true :: outer, root })
    (state : α) (commaAllowed : Bool) :
    ∃ commaAllowed', ([Token.comma].intercalate (parts.map tokens)).foldlM readToken
        { stack := frame state commaAllowed :: outer, root } =
      some { stack := frame (parts.foldl take state) commaAllowed' :: outer, root } := by
  induction parts generalizing state commaAllowed with
  | nil => exact ⟨commaAllowed, rfl⟩
  | cons part more ih =>
    obtain ⟨here, others⟩ := List.forall_mem_cons.mp each
    cases more with
    | nil =>
      refine ⟨true, ?_⟩
      rw [List.map_cons, List.map_nil, List.intercalate_singleton]
      exact here state commaAllowed
    | cons next more =>
      obtain ⟨commaAllowed', ran⟩ := ih others (take state part) false
      refine ⟨commaAllowed', ?_⟩
      rw [List.map_cons, List.map_cons, List.intercalate_cons_cons, List.append_assoc,
        List.foldlM_append, here]
      change (readToken _ .comma).bind _ = _
      rw [comma]
      exact ran

theorem foldl_map_cons {α β : Type} (f : α → β) (items : List α) (read : List β) :
    items.foldl (fun read item => f item :: read) read = (items.map f).reverse ++ read := by
  induction items generalizing read with
  | nil => rfl
  | cons item rest ih => simp [ih]

/-- The tokens of a value are read as the value, its members in order. -/
theorem reads_tokensOf {value : Value} (printable : Printable value) :
    Reads (tokensOf value) value.reread := by
  induction printable with
  | null => exact reads_single fun _ => rfl
  | bool value => exact reads_single fun _ => rfl
  | number => exact reads_numeral _
  | string text => exact reads_string text
  | @array items each ih =>
    rintro ⟨outer, root⟩ after delivered
    have each_read : ∀ item ∈ items, ∀ read commaAllowed,
        (tokensOf item).foldlM readToken { stack := .items read commaAllowed :: outer, root } =
          some { stack := .items (item.reread :: read) true :: outer, root } :=
      fun item listed _ _ => ih item listed _ _ rfl
    obtain ⟨_, ran⟩ := reads_parts Frame.items tokensOf _ (fun _ => rfl) each_read [] false
    rw [tokensOf, itemTokens_eq_map, List.foldlM_cons]
    change List.foldlM readToken { stack := .items [] false :: outer, root } _ = _
    rw [List.foldlM_append, ran, foldl_map_cons, List.append_nil]
    change (deliver { stack := outer, root } (.array (List.reverse _))).bind _ = _
    rw [Value.reread, rebuilt_array] at delivered
    rw [List.reverse_reverse]
    exact congrArg (Option.bind · _) delivered
  | @object members each ih =>
    rintro ⟨outer, root⟩ after delivered
    have each_read : ∀ member ∈ members, ∀ read commaAllowed,
        (Token.string member.1 :: .colon :: tokensOf member.2).foldlM readToken
            { stack := .members read commaAllowed :: outer, root } =
          some
            { stack := .members (putMember member.1 member.2.reread read) true :: outer, root } :=
      fun member listed _ _ => ih member listed _ _ rfl
    obtain ⟨_, ran⟩ := reads_parts Frame.members _ _ (fun _ => rfl) each_read [] false
    rw [tokensOf, memberTokens_eq_map, List.foldlM_cons]
    change List.foldlM readToken { stack := .members [] false :: outer, root } _ = _
    rw [List.foldlM_append, ran]
    change (deliver { stack := outer, root } (.object _)).bind _ = _
    rw [Value.reread, rebuilt_object, Value.ofMembers, List.foldl_map] at delivered
    exact congrArg (Option.bind · _) delivered

/-- A value that is written is read again. -/
theorem read?_write {style : Style} (spaced : style.Spaced) {value : Value}
    (printable : Printable value) {ending : String} (blank : Gap ending.toList) :
    read? (style.write 0 value ++ ending) = some value.reread := by
  have scanned : tokens? (style.write 0 value ++ ending).toList = some (tokensOf value) := by
    have ends := ends_gap blank ends_nil
    have scans := (scans_write spaced printable 0 ends).append (scans_gap blank [])
    rw [Scans, List.append_nil, tokens?, Option.map_some, List.append_nil, List.append_nil] at scans
    rw [String.toList_append]
    exact scans
  have ran := reads_tokensOf printable {} { root := some value.reread } rfl
  rw [read?, scanned, Option.bind_some, valueOf?, ran]
  rfl

theorem read?_compact {value : Value} (plain : Plain value) :
    read? value.compact = some value.sorted := by
  have blank : Gap "".toList := gap_nil
  have reads := read?_write spaced_oneLine plain.printable blank
  rw [String.append_empty, reread_of_plain plain] at reads
  exact reads

theorem putMember_last {name : String} {value : Value} {members : List (String × Value)}
    (behind : ∀ member ∈ members, member.1 < name) :
    putMember name value members = members ++ [(name, value)] := by
  induction members with
  | nil => rfl
  | cons member rest ih =>
    obtain ⟨here, others⟩ := List.forall_mem_cons.mp behind
    have not_before : ¬ name < member.1 := String.lt_asymm here
    have differs : name ≠ member.1 := by
      rintro rfl
      exact String.lt_irrefl _ here
    rw [putMember, if_neg not_before, if_neg differs, ih others]
    rfl

theorem foldl_putMember {members sorted : List (String × Value)}
    (ascending : Ascending (sorted ++ members)) :
    members.foldl (fun sorted member => putMember member.1 member.2 sorted) sorted =
      sorted ++ members := by
  induction members generalizing sorted with
  | nil => exact (List.append_nil sorted).symm
  | cons member rest ih =>
    have before := (List.pairwise_append.mp ascending).2.2
    have behind : ∀ earlier ∈ sorted, earlier.1 < member.1 := fun earlier listed =>
      before earlier listed member List.mem_cons_self
    have split : sorted ++ member :: rest = (sorted ++ [member]) ++ rest := by simp
    rw [split] at ascending ⊢
    rw [List.foldl_cons, putMember_last behind]
    exact ih ascending

theorem printable_double (x : Decimal.Double) : Printable (.double x) := by
  unfold Value.double
  split
  · rename_i finite
    exact .number finite
  · exact .null

theorem printable_ofMembers {members : List (String × Value)}
    (each : ∀ member ∈ members, Printable member.2) : Printable (.ofMembers members) := by
  refine .object fun member put => ?_
  rcases mem_putMembers put with listed | none
  · exact each member listed
  · cases none

theorem lookup_map (f : Value → Value) (members : List (String × Value)) (name : String) :
    (members.map fun member => (member.1, f member.2)).lookup name =
      (members.lookup name).map f := by
  induction members with
  | nil => rfl
  | cons member rest ih =>
    rw [List.map_cons, lookup_member, lookup_member, ih]
    split <;> rfl

theorem member?_reread (members : List (String × Value)) (name : String) :
    (Value.ofMembers members).reread.member? name =
      (members.reverse.lookup name).map Value.reread := by
  rw [← member?_ofMembers]
  obtain ⟨kept, named⟩ : ∃ kept, Value.ofMembers members = .object kept := ⟨_, rfl⟩
  have ascending : Ascending kept := by
    cases named
    exact ascending_putMembers members List.Pairwise.nil
  have again : Value.ofMembers kept = .object kept :=
    congrArg Value.object (@foldl_putMember kept [] ascending)
  rw [named, Value.reread, rebuilt_object, member?_ofMembers, ← List.map_reverse, lookup_map,
    ← member?_ofMembers, again]
  rfl

theorem sorted_of_readable {value : Value} (readable : Readable value) : value.sorted = value := by
  unfold Value.sorted
  induction readable with
  | null | bool | integer | float | string => rfl
  | @array items each ih => rw [rebuilt_array, List.map_congr_left ih, List.map_id']
  | @object members ascending each ih =>
    have each_same : ∀ member ∈ members, (member.1, member.2.rebuilt .number) = id member :=
      fun member listed => Prod.ext rfl (ih member listed)
    rw [rebuilt_object, List.map_congr_left each_same, List.map_id, Value.ofMembers]
    exact congrArg Value.object (foldl_putMember ascending)

end ConsoleBatch.Json
