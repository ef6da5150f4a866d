import ConsoleBatch.Proofs.EditScripts
import ConsoleBatch.Proofs.Nearest

/-! The suggestion for a name that is not known.

The closest candidate is the first in the order of strings among the nearest ones. It is suggested
if it is neither the target nor too far off, so that the target among the candidates keeps all
others from being suggested. -/

namespace ConsoleBatch.Lint

def distanceTo (target name : String) : Nat :=
  editDistance target.toList name.toList

/-- A candidate that is nearer than any other one, or as near and before it in the order of
strings. -/
structure Closest (target : String) (candidates : List String) (name : String) : Prop where
  candidate : name ∈ candidates
  ahead : ∀ other ∈ candidates, distanceTo target name < distanceTo target other ∨
    distanceTo target name = distanceTo target other ∧ name ≤ other

variable {target name : String} {candidates : List String}

theorem distanceTo_self (target : String) : distanceTo target target = 0 :=
  editDistance_self target.toList

theorem distanceTo_eq_zero_iff : distanceTo target name = 0 ↔ target = name := by
  rw [distanceTo, editDistance_eq_zero_iff, String.toList_inj]

theorem Closest.distance_le (closest : Closest target candidates name) {other : String}
    (candidate : other ∈ candidates) : distanceTo target name ≤ distanceTo target other := by
  rcases closest.ahead other candidate with nearer | ⟨near, _⟩ <;> omega

theorem Closest.unique (first : Closest target candidates name) {other : String}
    (second : Closest target candidates other) : name = other := by
  have same : (distanceTo target name, name) = (distanceTo target other, other) :=
    noWorse_antisymm (first.ahead other second.candidate) (second.ahead name first.candidate)
  exact congrArg Prod.snd same

theorem closest_of_best {best : Scored}
    (found : Best (candidates.map fun name => (distanceTo target name, name)) best) :
    best.1 = distanceTo target best.2 ∧ Closest target candidates best.2 := by
  obtain ⟨name, member, rfl⟩ := List.mem_map.mp found.listed
  refine ⟨rfl, member, ?_⟩
  intro other candidate
  exact found.no_worse _ (List.mem_map_of_mem candidate)

/-- What is suggested is decided by the closest candidate alone. -/
theorem closestMatch_of_candidates (target : String) (some_candidate : candidates ≠ []) :
    ∃ name, Closest target candidates name ∧ closestMatch target candidates =
      if 1 ≤ distanceTo target name ∧ distanceTo target name ≤ suggestionReach then some name
      else none := by
  rcases foldl_preferred (candidates.map fun name => (distanceTo target name, name)) with
    ⟨nothing, _⟩ | ⟨best, chosen, found⟩
  · exact absurd (List.map_eq_nil_iff.mp nothing) some_candidate
  · obtain ⟨scored, closest⟩ := closest_of_best found
    refine ⟨best.2, closest, ?_⟩
    have picked : (candidates.map fun name =>
        (editDistance target.toList name.toList, name)).foldl preferred none = some best := chosen
    unfold closestMatch
    dsimp only
    rw [picked, ← scored]

theorem closestMatch_eq_some_iff :
    closestMatch target candidates = some name ↔
      Closest target candidates name ∧ 1 ≤ distanceTo target name ∧
        distanceTo target name ≤ suggestionReach := by
  constructor
  · intro suggested
    have some_candidate : candidates ≠ [] := by
      rintro rfl
      cases suggested
    obtain ⟨closest, ahead, decided⟩ := closestMatch_of_candidates target some_candidate
    rw [suggested] at decided
    split at decided
    · rename_i in_reach
      obtain rfl := Option.some.inj decided
      exact ⟨ahead, in_reach⟩
    · cases decided
  · rintro ⟨ahead, in_reach⟩
    obtain ⟨closest, first, decided⟩ :=
      closestMatch_of_candidates target (List.ne_nil_of_mem ahead.candidate)
    rw [decided, first.unique ahead, if_pos in_reach]

theorem closestMatch_eq_none_iff :
    closestMatch target candidates = none ↔
      target ∈ candidates ∨ ∀ name ∈ candidates, suggestionReach < distanceTo target name := by
  by_cases some_candidate : candidates = []
  · subst some_candidate
    simp [closestMatch]
  · obtain ⟨closest, ahead, decided⟩ := closestMatch_of_candidates target some_candidate
    rw [decided, ite_eq_right_iff]
    constructor
    · intro out_of_reach
      by_cases here : distanceTo target closest = 0
      · exact .inl (distanceTo_eq_zero_iff.mp here ▸ ahead.candidate)
      · refine .inr ?_
        intro name candidate
        have farther := ahead.distance_le candidate
        apply Nat.lt_of_not_le
        intro reached
        cases out_of_reach ⟨by omega, by omega⟩
    · rintro (here | far) ⟨apart, reached⟩
      · have nearest := ahead.distance_le here
        rw [distanceTo_self] at nearest
        omega
      · have beyond := far closest ahead.candidate
        omega

/-- The closest match is the candidate with the fewest edits, the first in the order of strings
among such candidates, and it is suggested from one edit up to three. Neither the order of the
candidates nor their repetition matters. -/
theorem closestMatch_exact (target : String) (candidates : List String) :
    (∀ name, closestMatch target candidates = some name ↔
      name ∈ candidates ∧ 1 ≤ editDistance target.toList name.toList ∧
        editDistance target.toList name.toList ≤ 3 ∧
        ∀ other ∈ candidates,
          editDistance target.toList name.toList < editDistance target.toList other.toList ∨
          editDistance target.toList name.toList = editDistance target.toList other.toList ∧
            name ≤ other) ∧
    (closestMatch target candidates = none ↔
      target ∈ candidates ∨ ∀ name ∈ candidates, 3 < editDistance target.toList name.toList) ∧
    ∀ others : List String, (∀ name, name ∈ others ↔ name ∈ candidates) →
      closestMatch target others = closestMatch target candidates := by
  refine ⟨?_, closestMatch_eq_none_iff, ?_⟩
  · intro name
    rw [closestMatch_eq_some_iff]
    constructor
    · rintro ⟨⟨candidate, ahead⟩, apart, reached⟩
      exact ⟨candidate, apart, reached, ahead⟩
    · rintro ⟨candidate, apart, reached, ahead⟩
      exact ⟨⟨candidate, ahead⟩, apart, reached⟩
  · intro others same
    exact closestMatch_same same target

theorem closestMatch_exact_reordered :
    let candidates := ["tpc", "tpa", "stop", "tpb"]
    let others := ["tpb", "tpa", "tpa", "tpc", "stop", "tpb"]
    (∀ name, name ∈ others ↔ name ∈ candidates) ∧
      closestMatch "tp" others = closestMatch "tp" candidates := by
  intro candidates others
  have same : ∀ name, name ∈ others ↔ name ∈ candidates := by
    intro name
    grind
  exact ⟨same, (closestMatch_exact "tp" candidates).2.2 others same⟩

end ConsoleBatch.Lint
