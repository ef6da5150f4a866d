import ConsoleBatch.Config.Load

/-! What a schema asks for.

`Conforms` says it without any order of looking, and a value that conforms is one without a
fault. -/

namespace ConsoleBatch.Config

open Decimal (Double)
open Json (Value)

inductive Conforms : Schema → Value → Prop
  | string (text : String) : Conforms .string (.string text)
  | nonempty {text : String} (some_text : text ≠ "") : Conforms .nonemptyString (.string text)
  | option {options : List String} {text : String} (listed : text ∈ options) :
      Conforms (.choice options) (.string text)
  | boolean (value : Bool) : Conforms .boolean (.bool value)
  | integer {n : Int} (natural : 0 ≤ n) : Conforms .count (.number (.integer n))
  | whole {value : Double} (whole : value.isWhole = true) (natural : value.isBelowZero = false) :
      Conforms .count (.number (.float value))
  | list {schema : Schema} {items : List Value} (each : ∀ item ∈ items, Conforms schema item) :
      Conforms (.list schema) (.array items)
  | record {fields : List (String × Schema)} {members : List (String × Value)}
      (known : ∀ member ∈ members, ∃ schema, fields.lookup member.1 = some schema)
      (each : ∀ member ∈ members, ∀ schema, fields.lookup member.1 = some schema →
        Conforms schema member.2) :
      Conforms (.record fields) (.object members)
  | dictionary {schema : Schema} {members : List (String × Value)}
      (each : ∀ member ∈ members, Conforms schema member.2) :
      Conforms (.dictionary schema) (.object members)

theorem conforms_nonempty_iff {text : String} :
    Conforms .nonemptyString (.string text) ↔ text ≠ "" := by
  constructor
  · intro conforms
    cases conforms with
    | nonempty some_text => exact some_text
  · exact .nonempty

theorem conforms_choice_iff {options : List String} {text : String} :
    Conforms (.choice options) (.string text) ↔ text ∈ options := by
  constructor
  · intro conforms
    cases conforms with
    | option listed => exact listed
  · exact .option

theorem conforms_list_iff {schema : Schema} {items : List Value} :
    Conforms (.list schema) (.array items) ↔ ∀ item ∈ items, Conforms schema item := by
  constructor
  · intro conforms
    cases conforms with
    | list each => exact each
  · exact .list

theorem conforms_dictionary_iff {schema : Schema} {members : List (String × Value)} :
    Conforms (.dictionary schema) (.object members) ↔
      ∀ member ∈ members, Conforms schema member.2 := by
  constructor
  · intro conforms
    cases conforms with
    | dictionary each => exact each
  · exact .dictionary

theorem conforms_count_iff {number : Json.Number} :
    Conforms .count (.number number) ↔ isWhole number = true ∧ isNegative number = false := by
  constructor
  · intro conforms
    cases conforms with
    | integer natural => exact ⟨rfl, decide_eq_false (Int.not_lt.mpr natural)⟩
    | whole whole natural => exact ⟨whole, natural⟩
  · rintro ⟨whole, natural⟩
    cases number with
    | integer n => exact .integer (Int.not_lt.mp (of_decide_eq_false natural))
    | float value => exact .whole whole natural

theorem conforms_record_iff {fields : List (String × Schema)} {members : List (String × Value)} :
    Conforms (.record fields) (.object members) ↔
      ∀ member ∈ members, ∃ schema,
        fields.lookup member.1 = some schema ∧ Conforms schema member.2 := by
  constructor
  · intro conforms member listed
    cases conforms with
    | record known each =>
      obtain ⟨schema, found⟩ := known member listed
      exact ⟨schema, found, each member listed schema found⟩
  · intro all
    refine .record (fun member listed => ?_) (fun member listed schema found => ?_)
    · obtain ⟨schema, found, _⟩ := all member listed
      exact ⟨schema, found⟩
    · obtain ⟨same, known, conforms⟩ := all member listed
      rw [found] at known
      cases known
      exact conforms

mutual

/-- A value has no fault exactly if it conforms to the schema. -/
theorem fault?_eq_none_iff (schema : Schema) (value : Value) :
    fault? schema value = none ↔ Conforms schema value := by
  unfold fault?
  split
  · exact iff_of_true rfl (.string _)
  · rw [ite_eq_right_iff, conforms_nonempty_iff]
    simp [here]
  · rw [ite_eq_left_iff, conforms_choice_iff]
    simp [here]
  · exact iff_of_true rfl (.boolean _)
  · rename_i number
    rw [conforms_count_iff]
    cases isWhole number <;> cases isNegative number <;> simp [here]
  · rw [itemsFault?_eq_none_iff, conforms_list_iff]
  · rw [membersFault?_eq_none_iff, conforms_record_iff]
  · rw [membersFault?_eq_none_iff, conforms_dictionary_iff]
    simp
  · refine iff_of_false (Option.some_ne_none _) ?_
    intro conforms
    -- No constructor is left: each one is about a pair that was met above.
    cases conforms <;> simp_all

theorem itemsFault?_eq_none_iff (schema : Schema) (index : Nat) (items : List Value) :
    itemsFault? schema index items = none ↔ ∀ item ∈ items, Conforms schema item := by
  cases items with
  | nil => simp [itemsFault?]
  | cons item rest =>
    rw [itemsFault?, Option.or_eq_none_iff, Option.map_eq_none_iff, fault?_eq_none_iff schema item,
      itemsFault?_eq_none_iff schema (index + 1) rest, List.forall_mem_cons]

theorem membersFault?_eq_none_iff (schemaOf : String → Option Schema)
    (members : List (String × Value)) :
    membersFault? schemaOf members = none ↔ ∀ member ∈ members, ∃ schema,
      schemaOf member.1 = some schema ∧ Conforms schema member.2 := by
  cases members with
  | nil => simp [membersFault?]
  | cons member rest =>
    obtain ⟨name, value⟩ := member
    rw [membersFault?, List.forall_mem_cons]
    cases found : schemaOf name with
    | none => simp [here]
    | some schema =>
      dsimp only
      rw [Option.or_eq_none_iff, Option.map_eq_none_iff, fault?_eq_none_iff schema value,
        membersFault?_eq_none_iff schemaOf rest]
      simp

end

end ConsoleBatch.Config
