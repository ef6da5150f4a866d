import ConsoleBatch.Lint.Timings

/-! Timing tables are told by what they have for each check, and a merge adds that up. -/

namespace ConsoleBatch.Lint

theorem merge_add_assoc (first second third : Option Nat) :
    Option.merge (· + ·) (Option.merge (· + ·) first second) third =
      Option.merge (· + ·) first (Option.merge (· + ·) second third) := by
  cases first <;> cases second <;> cases third <;> simp [Nat.add_assoc]

namespace Timings

theorem ext_get? {timings timings' : Timings}
    (same : ∀ check, timings.get? check = timings'.get? check) : timings = timings' := by
  have metaSyntax := same .metaSyntax
  have unknownMeta := same .unknownMeta
  have blacklist := same .blacklist
  have existence := same .existence
  cases timings
  cases timings'
  simp only [get?] at metaSyntax unknownMeta blacklist existence
  rw [metaSyntax, unknownMeta, blacklist, existence]

theorem get?_empty (check : Check) : empty.get? check = none := by
  cases check <;> rfl

theorem get?_merge (left right : Timings) (check : Check) :
    (left.merge right).get? check = Option.merge (· + ·) (left.get? check) (right.get? check) := by
  cases check <;> rfl

theorem get?_single (check other : Check) (nanos : Nat) :
    (single check nanos).get? other = if check = other then some nanos else none := by
  cases check <;> cases other <;> rfl

theorem merge_comm (left right : Timings) : left.merge right = right.merge left := by
  apply ext_get?
  intro check
  rw [get?_merge, get?_merge]
  exact Std.Commutative.comm _ _

theorem merge_assoc (first second third : Timings) :
    (first.merge second).merge third = first.merge (second.merge third) := by
  apply ext_get?
  intro check
  simp only [get?_merge, merge_add_assoc]

theorem empty_merge (timings : Timings) : Timings.empty.merge timings = timings := by
  apply ext_get?
  intro check
  rw [get?_merge, get?_empty, Option.merge_none_left]

theorem merge_empty (timings : Timings) : timings.merge .empty = timings := by
  rw [merge_comm, empty_merge]

end Timings

end ConsoleBatch.Lint
