import ConsoleBatch.Lint.Suggestion

/-! The nearest candidate, whatever the order of the candidates. -/

namespace ConsoleBatch.Lint

/-- Nearer, or equally near and not behind in the order of strings. -/
def NoWorse (first second : Scored) : Prop :=
  first.1 < second.1 ∨ first.1 = second.1 ∧ first.2 ≤ second.2

/-- What `preferred` looks for: one of the candidates that is no worse than any. -/
structure Best (candidates : List Scored) (best : Scored) : Prop where
  listed : best ∈ candidates
  no_worse : ∀ candidate ∈ candidates, NoWorse best candidate

theorem noWorse_refl (scored : Scored) : NoWorse scored scored :=
  .inr ⟨rfl, String.le_refl _⟩

theorem noWorse_trans {first second third : Scored} (left : NoWorse first second)
    (right : NoWorse second third) : NoWorse first third := by
  rcases left with nearer | ⟨near, before⟩
  · rcases right with nearer' | ⟨near', _⟩
    · exact .inl (Nat.lt_trans nearer nearer')
    · exact .inl (near' ▸ nearer)
  · rcases right with nearer' | ⟨near', before'⟩
    · exact .inl (near ▸ nearer')
    · exact .inr ⟨near.trans near', String.le_trans before before'⟩

theorem noWorse_antisymm {first second : Scored} (left : NoWorse first second)
    (right : NoWorse second first) : first = second := by
  rcases left with nearer | ⟨near, before⟩
  · rcases right with farther | ⟨near, _⟩ <;> omega
  · rcases right with farther | ⟨_, behind⟩
    · omega
    · exact Prod.ext near (String.le_antisymm before behind)

theorem noWorse_of_isPreferred {candidate best : Scored}
    (better : isPreferred candidate best = true) : NoWorse candidate best := by
  simp only [isPreferred, Bool.or_eq_true, Bool.and_eq_true, decide_eq_true_eq,
    beq_iff_eq] at better
  rcases better with nearer | ⟨near, before⟩
  · exact .inl nearer
  · exact .inr ⟨near, String.not_lt.mp (String.lt_asymm before)⟩

theorem noWorse_of_not_isPreferred {candidate best : Scored}
    (kept : isPreferred candidate best = false) : NoWorse best candidate := by
  simp only [isPreferred, Bool.or_eq_false_iff, Bool.and_eq_false_iff, decide_eq_false_iff_not,
    beq_eq_false_iff_ne] at kept
  obtain ⟨no_nearer, differs | no_earlier⟩ := kept
  · exact .inl (by omega)
  · rcases Nat.lt_or_eq_of_le (Nat.le_of_not_lt no_nearer) with nearer | near
    · exact .inl nearer
    · exact .inr ⟨near, String.not_lt.mp no_earlier⟩

theorem best_unique {candidates others : List Scored}
    (same : ∀ scored, scored ∈ candidates ↔ scored ∈ others) {best other : Scored}
    (first : Best candidates best) (second : Best others other) : best = other :=
  noWorse_antisymm (first.no_worse other ((same other).mpr second.listed))
    (second.no_worse best ((same best).mp first.listed))

theorem best_preferred {candidates : List Scored} {current : Scored}
    (best : Best candidates current) (next : Scored) :
    ∃ better, preferred (some current) next = some better ∧ Best (next :: candidates) better := by
  cases prefers : isPreferred next current with
  | true =>
    have no_worse := noWorse_of_isPreferred prefers
    refine ⟨next, by simp only [preferred, prefers, if_true], List.mem_cons_self, ?_⟩
    intro candidate member
    rcases List.mem_cons.mp member with rfl | member
    · exact noWorse_refl _
    · exact noWorse_trans no_worse (best.no_worse candidate member)
  | false =>
    have no_worse := noWorse_of_not_isPreferred prefers
    refine ⟨current, by simp [preferred, prefers], List.mem_cons_of_mem _ best.listed, ?_⟩
    intro candidate member
    rcases List.mem_cons.mp member with rfl | member
    · exact no_worse
    · exact best.no_worse candidate member

theorem best_foldl {seen : List Scored} {current : Scored} (best : Best seen current)
    (rest : List Scored) :
    ∃ last, rest.foldl preferred (some current) = some last ∧ Best (rest.reverse ++ seen) last := by
  induction rest generalizing seen current with
  | nil => exact ⟨current, rfl, best⟩
  | cons next rest ih =>
    obtain ⟨better, chosen, best⟩ := best_preferred best next
    obtain ⟨last, ends, best⟩ := ih best
    refine ⟨last, ?_, ?_⟩
    · rw [List.foldl_cons, chosen, ends]
    · rw [List.reverse_cons, List.append_assoc]
      exact best

/-- The fold finds the best candidate, if there is any. -/
theorem foldl_preferred (candidates : List Scored) :
    candidates = [] ∧ candidates.foldl preferred none = none ∨
      ∃ best, candidates.foldl preferred none = some best ∧ Best candidates best := by
  cases candidates with
  | nil => exact .inl ⟨rfl, rfl⟩
  | cons first rest =>
    have alone : Best [first] first := by
      refine ⟨List.mem_singleton_self _, ?_⟩
      intro candidate member
      rw [List.mem_singleton.mp member]
      exact noWorse_refl _
    obtain ⟨best, found, listed, no_worse⟩ := best_foldl alone rest
    have same : ∀ scored, scored ∈ rest.reverse ++ [first] ↔ scored ∈ first :: rest := by
      intro scored
      simp [or_comm]
    refine .inr ⟨best, found, (same best).mp listed, ?_⟩
    intro candidate member
    exact no_worse candidate ((same candidate).mpr member)

theorem foldl_preferred_same {candidates others : List Scored}
    (same : ∀ scored, scored ∈ candidates ↔ scored ∈ others) :
    candidates.foldl preferred none = others.foldl preferred none := by
  rcases foldl_preferred candidates with ⟨rfl, nothing⟩ | ⟨best, found, first⟩
  · have none_other : others = [] := by
      apply List.eq_nil_iff_forall_not_mem.mpr
      intro other member
      cases (same other).mpr member
    rw [none_other]
  · rcases foldl_preferred others with ⟨rfl, _⟩ | ⟨other, found', second⟩
    · cases (same best).mp first.listed
    · rw [found, found', best_unique same first second]

theorem closestMatch_same {first second : List String}
    (same : ∀ name, name ∈ first ↔ name ∈ second) (target : String) :
    closestMatch target first = closestMatch target second := by
  unfold closestMatch
  dsimp only
  rw [foldl_preferred_same]
  intro scored
  simp only [List.mem_map, same]

end ConsoleBatch.Lint
