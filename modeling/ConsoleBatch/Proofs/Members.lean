import ConsoleBatch.Json.Value
import Mathlib.Data.List.Sort

/-! The members of objects.

`putMember` keeps them in the order of their names, and what is looked up afterwards is what was put
last under the name. -/

namespace ConsoleBatch.Json

theorem lookup_member (first : String) (value : Value) (rest : List (String × Value))
    (name : String) :
    List.lookup name ((first, value) :: rest) =
      if name = first then some value else rest.lookup name := by
  rw [List.lookup_cons]
  by_cases same : name = first
  · rw [if_pos same, beq_iff_eq.mpr same]
  · rw [if_neg same, beq_eq_false_iff_ne.mpr same]

theorem lookup_putMember (name : String) (value : Value) (members : List (String × Value))
    (other : String) :
    (putMember name value members).lookup other =
      if other = name then some value else members.lookup other := by
  induction members with
  | nil => exact lookup_member name value [] other
  | cons member rest ih =>
    obtain ⟨first, kept⟩ := member
    unfold putMember
    rw [lookup_member first]
    split
    · rw [lookup_member, lookup_member]
    · split
      · rename_i found
        subst found
        rw [lookup_member]
        split <;> rfl
      · rename_i differs
        rw [lookup_member, ih]
        by_cases here : other = first
        · subst here
          rw [if_pos rfl, if_neg (Ne.symm differs), if_pos rfl]
        · rw [if_neg here, if_neg here]

theorem lookup_putMembers (members sorted : List (String × Value)) (name : String) :
    (members.foldl (fun sorted member => putMember member.1 member.2 sorted) sorted).lookup name =
      (members.reverse.lookup name).or (sorted.lookup name) := by
  induction members generalizing sorted with
  | nil => rfl
  | cons member rest ih =>
    rw [List.foldl_cons, ih, lookup_putMember, List.reverse_cons, List.lookup_append,
      Option.or_assoc]
    congr 1
    rw [lookup_member]
    split <;> rfl

theorem member?_ofMembers (members : List (String × Value)) (name : String) :
    (Value.ofMembers members).member? name = members.reverse.lookup name := by
  change List.lookup name (List.foldl _ [] members) = _
  rw [lookup_putMembers]
  exact Option.or_none

def Distinct {α : Type} (members : List (String × α)) : Prop :=
  members.Pairwise fun first second => first.1 ≠ second.1

theorem lookup_eq_some_iff {Key α : Type} [BEq Key] [LawfulBEq Key] {members : List (Key × α)}
    (distinct : members.Pairwise fun first second => first.1 ≠ second.1) {name : Key} {value : α} :
    members.lookup name = some value ↔ (name, value) ∈ members := by
  rw [List.lookup_eq_some_iff]
  constructor
  · rintro ⟨front, back, split, _⟩
    rw [split]
    exact List.mem_append_right _ List.mem_cons_self
  · intro listed
    obtain ⟨front, back, split⟩ := List.append_of_mem listed
    refine ⟨front, back, split, ?_⟩
    intro member earlier
    rw [split] at distinct
    have other := (List.pairwise_append.mp distinct).2.2 member earlier _ List.mem_cons_self
    exact bne_iff_ne.mpr (Ne.symm other)

theorem member?_ofMembers_iff {members : List (String × Value)} (distinct : Distinct members)
    {name : String} {value : Value} :
    (Value.ofMembers members).member? name = some value ↔ (name, value) ∈ members := by
  have reversed : Distinct members.reverse :=
    List.pairwise_reverse.mpr (distinct.imp Ne.symm)
  rw [member?_ofMembers, lookup_eq_some_iff reversed, List.mem_reverse]

def Ascending {α : Type} (members : List (String × α)) : Prop :=
  members.Pairwise fun first second => first.1 < second.1

theorem mem_putMember {name : String} {value : Value} {members : List (String × Value)}
    {member : String × Value} (put : member ∈ putMember name value members) :
    member = (name, value) ∨ member ∈ members := by
  induction members with
  | nil => exact .inl (List.mem_singleton.mp put)
  | cons first rest ih =>
    obtain ⟨other, kept⟩ := first
    unfold putMember at put
    split at put
    · exact List.mem_cons.mp put
    · split at put
      · rcases List.mem_cons.mp put with new | later
        · exact .inl new
        · exact .inr (List.mem_cons_of_mem _ later)
      · rcases List.mem_cons.mp put with here | later
        · exact .inr (List.mem_cons.mpr (.inl here))
        · exact (ih later).imp_right (List.mem_cons_of_mem _)

theorem ascending_putMember (name : String) (value : Value) {members : List (String × Value)}
    (ascending : Ascending members) : Ascending (putMember name value members) := by
  induction members with
  | nil => exact List.pairwise_singleton _ _
  | cons first rest ih =>
    obtain ⟨other, kept⟩ := first
    obtain ⟨above, ordered⟩ := List.pairwise_cons.mp ascending
    unfold putMember
    split
    · rename_i before
      refine List.pairwise_cons.mpr ⟨?_, ascending⟩
      intro member listed
      rcases List.mem_cons.mp listed with rfl | later
      · exact before
      · exact String.lt_trans before (above member later)
    · rename_i not_before
      split
      · rename_i same
        exact List.pairwise_cons.mpr ⟨fun member later => same ▸ above member later, ordered⟩
      · rename_i differs
        have behind : other < name := by
          rw [← String.not_le]
          intro le
          exact differs (String.le_antisymm le (String.not_lt.mp not_before))
        refine List.pairwise_cons.mpr ⟨?_, ih ordered⟩
        intro member put
        rcases mem_putMember put with rfl | later
        · exact behind
        · exact above member later

theorem Ascending.distinct {α : Type} {members : List (String × α)}
    (ascending : Ascending members) : Distinct members := by
  refine List.Pairwise.imp ?_ ascending
  intro first second before same
  rw [same] at before
  exact String.lt_irrefl _ before

theorem Ascending.ext {α : Type} {members others : List (String × α)}
    (ascending : Ascending members) (ascending' : Ascending others)
    (same : ∀ member, member ∈ members ↔ member ∈ others) :
    members = others := by
  have antisymm : Std.Antisymm fun first second : String × α => first.1 < second.1 :=
    ⟨fun _ _ before behind => absurd behind (String.lt_asymm before)⟩
  have irrefl : Std.Irrefl fun first second : String × α => first.1 < second.1 :=
    ⟨fun member => String.lt_irrefl member.1⟩
  exact List.Pairwise.eq_of_mem_iff ascending ascending' same

theorem mem_putMembers {members sorted : List (String × Value)} {member : String × Value}
    (put : member ∈
      members.foldl (fun sorted member => putMember member.1 member.2 sorted) sorted) :
    member ∈ members ∨ member ∈ sorted := by
  induction members generalizing sorted with
  | nil => exact .inr put
  | cons first rest ih =>
    rcases ih put with later | earlier
    · exact .inl (List.mem_cons_of_mem _ later)
    · rcases mem_putMember earlier with here | before
      · exact .inl (here ▸ List.mem_cons_self)
      · exact .inr before

theorem ascending_putMembers (members : List (String × Value)) {sorted : List (String × Value)}
    (ascending : Ascending sorted) :
    Ascending (members.foldl (fun sorted member => putMember member.1 member.2 sorted) sorted) := by
  induction members generalizing sorted with
  | nil => exact ascending
  | cons first rest ih => exact ih (ascending_putMember _ _ ascending)

end ConsoleBatch.Json
