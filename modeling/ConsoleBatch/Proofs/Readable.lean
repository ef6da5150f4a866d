import ConsoleBatch.Json.Reading
import ConsoleBatch.Proofs.Members

/-! What reading can give.

Every value that is read has objects in the order of their names, and its integers fit a machine
word. The reader keeps this for all that it has on its stack, one token after the other. -/

namespace ConsoleBatch.Json

open Decimal (Double digitsValue)

inductive Readable : Value → Prop
  | null : Readable .null
  | bool (value : Bool) : Readable (.bool value)
  | integer {n : Int} (low : -signedLimit ≤ n) (high : n < wordLimit) :
      Readable (.number (.integer n))
  | float (value : Double) : Readable (.number (.float value))
  | string (text : String) : Readable (.string text)
  | array {items : List Value} (each : ∀ item ∈ items, Readable item) : Readable (.array items)
  | object {members : List (String × Value)} (ascending : Ascending members)
      (each : ∀ member ∈ members, Readable member.2) : Readable (.object members)

theorem integer?_range {negative : Bool} {numeral : DecimalParts} {n : Int}
    (reads : integer? negative numeral = some n) : -signedLimit ≤ n ∧ n < wordLimit := by
  unfold integer? at reads
  have limits : (0 : Int) < signedLimit ∧ (signedLimit : Int) < wordLimit := by decide
  dsimp only at reads
  split at reads
  · cases reads
  · split at reads
    · split at reads
      · cases reads
        omega
      · cases reads
    · split at reads
      · cases reads
        omega
      · cases reads

theorem hexInteger?_range {negative : Bool} {digits : List Char} {n : Int}
    (reads : hexInteger? negative digits = some n) : -signedLimit ≤ n ∧ n < wordLimit := by
  have limits : (0 : Int) < signedLimit ∧ (signedLimit : Int) < wordLimit := by decide
  obtain ⟨size, _, fits⟩ := Option.bind_eq_some_iff.mp reads
  split at fits
  · cases negative <;> cases fits <;> simp <;> omega
  · cases fits

theorem numberOf?_range {text : List Char} {n : Int} (reads : numberOf? text = some (.integer n)) :
    -signedLimit ≤ n ∧ n < wordLimit := by
  unfold numberOf? at reads
  dsimp only at reads
  split at reads
  · obtain ⟨_, hex, same⟩ := Option.map_eq_some_iff.mp reads
    cases same
    exact hexInteger?_range hex
  · obtain ⟨_, hex, same⟩ := Option.map_eq_some_iff.mp reads
    cases same
    exact hexInteger?_range hex
  · split at reads
    · rename_i decimal
      cases reads
      exact integer?_range decimal
    · obtain ⟨_, _, same⟩ := Option.map_eq_some_iff.mp reads
      cases same

theorem readable_numeralValue (text : String) : Readable (numeralValue text) := by
  unfold numeralValue
  split
  · rename_i number found
    cases number with
    | integer n =>
      obtain ⟨low, high⟩ := numberOf?_range found
      exact .integer low high
    | float value => exact .float value
  · exact .string text

def Frame.Sound : Frame → Prop
  | .members read _ | .named read _ | .valued read _ => Readable (.object read)
  | .items read _ => Readable (.array read)

structure Reader.Sound (reader : Reader) : Prop where
  stack : ∀ frame ∈ reader.stack, frame.Sound
  root : ∀ value, reader.root = some value → Readable value

theorem readable_put {read : List (String × Value)} (object : Readable (.object read))
    (name : String) {value : Value} (readable : Readable value) :
    Readable (.object (putMember name value read)) := by
  cases object with
  | object ascending each =>
    refine .object (ascending_putMember name value ascending) ?_
    intro member put
    rcases mem_putMember put with rfl | earlier
    · exact readable
    · exact each member earlier

theorem readable_item {read : List Value} (array : Readable (.array read)) {value : Value}
    (readable : Readable value) : Readable (.array (value :: read)) := by
  cases array with
  | array each =>
    refine .array ?_
    intro item listed
    rcases List.mem_cons.mp listed with rfl | earlier
    · exact readable
    · exact each item earlier

theorem readable_reverse {read : List Value} (array : Readable (.array read)) :
    Readable (.array read.reverse) := by
  cases array with
  | array each => exact .array fun item listed => each item (List.mem_reverse.mp listed)

variable {reader : Reader} {frame : Frame} {outer : List Frame}

theorem Reader.Sound.under (sound : reader.Sound) (top : frame.Sound) :
    Reader.Sound { reader with stack := frame :: reader.stack } where
  stack other listed := by
    rcases List.mem_cons.mp listed with rfl | below
    · exact top
    · exact sound.stack other below
  root := sound.root

theorem Reader.Sound.top (sound : reader.Sound) (opened : reader.stack = frame :: outer) :
    frame.Sound :=
  sound.stack frame (opened ▸ List.mem_cons_self)

theorem Reader.Sound.below (sound : reader.Sound) (opened : reader.stack = frame :: outer) :
    Reader.Sound { reader with stack := outer } where
  stack other listed := sound.stack other (opened ▸ List.mem_cons_of_mem _ listed)
  root := sound.root

theorem sound_deliver {after : Reader} {value : Value} (sound : reader.Sound)
    (readable : Readable value) (delivers : deliver reader value = some after) : after.Sound := by
  unfold deliver at delivers
  split at delivers
  · cases delivers
    refine ⟨List.forall_mem_nil _, ?_⟩
    intro whole same
    cases same
    exact readable
  · rename_i opened
    cases delivers
    exact (sound.below opened).under (readable_put (sound.top opened) _ readable)
  · rename_i opened
    cases delivers
    exact (sound.below opened).under (readable_item (sound.top opened) readable)
  · cases delivers

theorem sound_nameOrValue {after : Reader} {name : String} {value : Value} (sound : reader.Sound)
    (readable : Readable value) (reads : nameOrValue reader name value = some after) :
    after.Sound := by
  unfold nameOrValue at reads
  split at reads
  · rename_i opened
    cases reads
    have top := sound.top opened
    exact (sound.below opened).under top
  · exact sound_deliver sound readable reads

/-- One token more leaves the reader sound. -/
theorem sound_readToken {after : Reader} {token : Token} (sound : reader.Sound)
    (reads : readToken reader token = some after) : after.Sound := by
  unfold readToken at reads
  split at reads
  · cases reads
    exact sound.under (.object List.Pairwise.nil (List.forall_mem_nil _))
  · cases reads
    exact sound.under (.array (List.forall_mem_nil _))
  · rename_i opened
    exact sound_deliver (sound.below opened) (sound.top opened) reads
  · rename_i opened
    exact sound_deliver (sound.below opened) (readable_reverse (sound.top opened)) reads
  -- The next four leave what was read in the innermost frame as it is.
  iterate 4
    · rename_i opened
      cases reads
      have top := sound.top opened
      exact (sound.below opened).under top
  · exact sound_nameOrValue sound (.string _) reads
  · exact sound_nameOrValue sound (readable_numeralValue _) reads
  · exact sound_deliver sound (.bool _) reads
  · exact sound_deliver sound .null reads
  · cases reads

theorem sound_readTokens {tokens : List Token} {reader after : Reader} (sound : reader.Sound)
    (reads : tokens.foldlM readToken reader = some after) : after.Sound := by
  induction tokens generalizing reader with
  | nil =>
    cases reads
    exact sound
  | cons token rest ih =>
    rw [List.foldlM_cons] at reads
    obtain ⟨next, first, later⟩ := Option.bind_eq_some_iff.mp reads
    exact ih (sound_readToken sound first) later

theorem readable_of_read? {text : String} {value : Value} (reads : read? text = some value) :
    Readable value := by
  obtain ⟨tokens, _, valued⟩ := Option.bind_eq_some_iff.mp reads
  obtain ⟨reader, ran, ends⟩ := Option.bind_eq_some_iff.mp valued
  have empty : Reader.Sound {} := ⟨List.forall_mem_nil _, fun _ same => nomatch same⟩
  have sound := sound_readTokens empty ran
  split at ends
  · cases ends
    rename_i root
    exact sound.root _ root
  · cases ends
    exact .object List.Pairwise.nil (List.forall_mem_nil _)
  · cases ends

end ConsoleBatch.Json
