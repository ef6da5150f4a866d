import ConsoleBatch.Proofs.Journal
import Mathlib.Algebra.BigOperators.Group.List.Basic
import Mathlib.Algebra.BigOperators.Group.Multiset.Basic
import Mathlib.Algebra.GroupWithZero.Nat
import Mathlib.Data.Multiset.Filter

/-! Tables of times that are added up.

Tables are put together in any order and as often as one likes; each of them has the time of the runs
that came into it, every run as often as there are ways for it through the tables. -/

namespace ConsoleBatch.Lint

namespace Timings

def timeOf (timings : Timings) (check : Check) : Nat :=
  (timings.get? check).getD 0

theorem timeOf_merge (left right : Timings) (check : Check) :
    (left.merge right).timeOf check = left.timeOf check + right.timeOf check := by
  unfold timeOf
  rw [get?_merge]
  cases left.get? check <;> cases right.get? check <;> simp

theorem timeOf_single (check other : Check) (nanos : Nat) :
    (single check nanos).timeOf other = if check = other then nanos else 0 := by
  unfold timeOf
  rw [get?_single]
  split <;> rfl

theorem total_eq_entries (timings : Timings) :
    timings.total = (timings.entries.map Prod.snd).sum := by
  rw [total, List.sum_eq_foldr, List.foldr_map]

theorem total_eq_times (timings : Timings) :
    timings.total = (Check.all.map timings.timeOf).sum := by
  have entry_times : ∀ checks : List Check,
      ((checks.filterMap fun check => (timings.get? check).map (check, ·)).map Prod.snd).sum =
        (checks.map timings.timeOf).sum := by
    intro checks
    induction checks with
    | nil => rfl
    | cons check rest ih =>
      cases time : timings.get? check <;> simp [timeOf, time, ih]
  rw [total_eq_entries]
  exact entry_times Check.all

theorem total_merge (left right : Timings) :
    (left.merge right).total = left.total + right.total := by
  simp only [total_eq_times, ← List.sum_map_add, ← timeOf_merge]

structure Holds (timings : Timings) (runs : Multiset CheckRun) : Prop where
  listed : ∀ check, (timings.get? check).isSome = true ↔ ∃ run ∈ runs, run.check = check
  time : ∀ check,
    timings.timeOf check = ((runs.filter fun run => run.check = check).map CheckRun.nanos).sum

theorem holds_empty : Holds .empty 0 where
  listed check := by simp [get?_empty]
  time check := by simp [timeOf, get?_empty]

theorem holds_single (run : CheckRun) : Holds (single run.check run.nanos) {run} where
  listed check := by
    rw [get?_single]
    split <;> simp [*]
  time check := by
    rw [timeOf_single, Multiset.filter_singleton]
    split <;> simp

section

variable {left right : Timings} {runs others : Multiset CheckRun}

theorem Holds.merge (here : left.Holds runs) (there : right.Holds others) :
    (left.merge right).Holds (runs + others) where
  listed check := by
    have either : ∀ one other : Option Nat, (Option.merge (· + ·) one other).isSome = true ↔
        one.isSome = true ∨ other.isSome = true := by
      intro one other
      cases one <;> cases other <;> simp
    rw [get?_merge, either, here.listed, there.listed]
    simp only [Multiset.mem_add, or_and_right, exists_or]
  time check := by
    rw [timeOf_merge, here.time, there.time, Multiset.filter_add, Multiset.map_add,
      Multiset.sum_add]

theorem Holds.record (here : left.Holds runs) (run : CheckRun) :
    (left.record run.check run.nanos).Holds (runs + {run}) :=
  here.merge (holds_single run)

end

theorem sum_by_check (runs : Multiset CheckRun) :
    (Check.all.map fun check =>
      ((runs.filter fun run => run.check = check).map CheckRun.nanos).sum).sum =
        (runs.map CheckRun.nanos).sum := by
  have own_check : ∀ run : CheckRun,
      (Check.all.map fun check => if run.check = check then run.nanos else 0).sum = run.nanos := by
    intro run
    cases run.check <;> simp [Check.all]
  induction runs using Multiset.induction_on with
  | empty => simp
  | cons run runs ih =>
    have with_run : ∀ check,
        (((run ::ₘ runs).filter fun run => run.check = check).map CheckRun.nanos).sum =
          (if run.check = check then run.nanos else 0) +
            ((runs.filter fun run => run.check = check).map CheckRun.nanos).sum := by
      intro check
      rw [Multiset.filter_cons, Multiset.map_add, Multiset.sum_add]
      split <;> simp
    simp only [with_run]
    rw [List.sum_map_add, own_check, ih, Multiset.map_cons, Multiset.sum_cons]

theorem Holds.total_eq {timings : Timings} {runs : Multiset CheckRun} (held : timings.Holds runs) :
    timings.total = (runs.map CheckRun.nanos).sum := by
  rw [total_eq_times, funext held.time, sum_by_check]

end Timings

inductive TableStep (Table : Type) where
  | record (table : Table) (run : CheckRun)
  | merge (into source : Table)

variable {Table : Type} [DecidableEq Table]

def TableStep.on (tables : Table → Timings) : TableStep Table → Table → Timings
  | record table run =>
    Function.update tables table ((tables table).record run.check run.nanos)
  | merge into source => Function.update tables into ((tables into).merge (tables source))

def tablesAfter (steps : List (TableStep Table)) : Table → Timings :=
  steps.foldl TableStep.on fun _ => .empty

/-- How many ways lead from one table into another by some steps. What a table takes in stays in its
source as well. -/
def ways (origin target : Table) : List (TableStep Table) → Nat
  | [] => if origin = target then 1 else 0
  | .record _ _ :: later => ways origin target later
  | .merge into source :: later =>
    ways origin target later + if origin = source then ways into target later else 0

/-- The runs that came into a table, each of them once for every way from where it was recorded. -/
def inflow (target : Table) : List (TableStep Table) → Multiset CheckRun
  | [] => 0
  | .record table run :: later => ways table target later • {run} + inflow target later
  | .merge _ _ :: later => inflow target later

theorem tablesAfter_concat (steps : List (TableStep Table)) (step : TableStep Table) :
    tablesAfter (steps ++ [step]) = step.on (tablesAfter steps) := by
  rw [tablesAfter, List.foldl_append]
  rfl

theorem ways_record (origin target table : Table) (run : CheckRun)
    (steps : List (TableStep Table)) :
    ways origin target (steps ++ [.record table run]) = ways origin target steps := by
  induction steps generalizing origin with
  | nil => rfl
  | cons step steps ih =>
    cases step with
    | record => exact ih origin
    | merge into source => simp only [List.cons_append, ways, ih]

theorem ways_merge (origin target into source : Table) (steps : List (TableStep Table)) :
    ways origin target (steps ++ [.merge into source]) =
      ways origin target steps + if into = target then ways origin source steps else 0 := by
  induction steps generalizing origin with
  | nil => by_cases here : origin = source <;> simp [ways, here]
  | cons step steps ih =>
    cases step with
    | record => exact ih origin
    | merge earlier other =>
      simp only [List.cons_append, ways, ih]
      split <;> split <;> omega

theorem inflow_record (target table : Table) (run : CheckRun) (steps : List (TableStep Table)) :
    inflow target (steps ++ [.record table run]) =
      inflow target steps + if table = target then {run} else 0 := by
  induction steps with
  | nil =>
    simp only [List.nil_append, inflow, ways, add_zero, zero_add]
    split
    · exact one_nsmul _
    · exact zero_nsmul _
  | cons step steps ih =>
    cases step with
    | record => simp only [List.cons_append, inflow, ways_record, ih, add_assoc]
    | merge => exact ih

theorem inflow_merge (target into source : Table) (steps : List (TableStep Table)) :
    inflow target (steps ++ [.merge into source]) =
      inflow target steps + if into = target then inflow source steps else 0 := by
  induction steps with
  | nil => simp [inflow]
  | cons step steps ih =>
    cases step with
    | record table run =>
      simp only [List.cons_append, inflow, ways_merge, ih]
      split
      · rw [add_nsmul]
        exact add_add_add_comm _ _ _ _
      · simp only [add_zero]
    | merge => exact ih

theorem holds_concat {steps : List (TableStep Table)}
    (held : ∀ table, (tablesAfter steps table).Holds (inflow table steps))
    (step : TableStep Table) (table : Table) :
    (tablesAfter (steps ++ [step]) table).Holds (inflow table (steps ++ [step])) := by
  rw [tablesAfter_concat]
  cases step with
  | record changed run =>
    rw [inflow_record, TableStep.on, Function.update_apply]
    by_cases here : table = changed
    · subst here
      rw [if_pos rfl, if_pos rfl]
      exact (held table).record run
    · rw [if_neg here, if_neg (Ne.symm here), add_zero]
      exact held table
  | merge into source =>
    rw [inflow_merge, TableStep.on, Function.update_apply]
    by_cases here : table = into
    · subst here
      rw [if_pos rfl, if_pos rfl]
      exact (held table).merge (held source)
    · rw [if_neg here, if_neg (Ne.symm here), add_zero]
      exact held table

theorem holds_inflow (steps : List (TableStep Table)) (table : Table) :
    (tablesAfter steps table).Holds (inflow table steps) := by
  -- From the back: a merge is of tables as all steps before it left them.
  induction steps using List.reverseRecOn generalizing table with
  | nil => exact Timings.holds_empty
  | append_singleton steps step ih => exact holds_concat ih step table

theorem merged_table (steps : List (TableStep Table)) (into source : Table) :
    tablesAfter (steps ++ [.merge into source]) into =
      (tablesAfter steps into).merge (tablesAfter steps source) := by
  rw [tablesAfter_concat, TableStep.on, Function.update_self]

theorem unmerged_table (steps : List (TableStep Table)) {into other : Table} (source : Table)
    (apart : other ≠ into) :
    tablesAfter (steps ++ [.merge into source]) other = tablesAfter steps other := by
  rw [tablesAfter_concat, TableStep.on, Function.update_of_ne apart]

/-- After any history, a table lists the checks of which a run came into it, with the exact time of
all runs that did, and its total is that of its entries and of its runs. A merge gives the same table
whichever of the two takes in the other, adds up the totals and leaves all other tables as they are.
Tables are a commutative monoid, and totals go with it. -/
theorem timing_tables_add_up (steps : List (TableStep Table)) :
    (∀ table, (tablesAfter steps table).Holds (inflow table steps) ∧
      (tablesAfter steps table).total = ((tablesAfter steps table).entries.map Prod.snd).sum ∧
      (tablesAfter steps table).total = ((inflow table steps).map CheckRun.nanos).sum) ∧
    (∀ into source,
      let merged := tablesAfter (steps ++ [.merge into source])
      merged into = tablesAfter (steps ++ [.merge source into]) source ∧
        (merged into).total = (tablesAfter steps into).total + (tablesAfter steps source).total ∧
        ∀ other, other ≠ into → merged other = tablesAfter steps other) ∧
    ∀ first second third : Timings,
      first.merge second = second.merge first ∧
        (first.merge second).merge third = first.merge (second.merge third) ∧
        Timings.empty.merge first = first ∧ first.merge .empty = first ∧
        (first.merge second).total = first.total + second.total := by
  refine ⟨?_, ?_, ?_⟩
  · intro table
    have held := holds_inflow steps table
    exact ⟨held, Timings.total_eq_entries _, held.total_eq⟩
  · intro into source
    refine ⟨?_, ?_, fun other => unmerged_table steps source⟩
    · rw [merged_table, merged_table, Timings.merge_comm]
    · rw [merged_table, Timings.total_merge]
  · intro first second third
    exact ⟨Timings.merge_comm first second, Timings.merge_assoc first second third,
      Timings.empty_merge first, Timings.merge_empty first, Timings.total_merge first second⟩

def entangled : List (TableStep Bool) :=
  [.record false ⟨.blacklist, 0⟩, .record true ⟨.existence, 5⟩, .merge false true,
    .merge true false, .record true ⟨.existence, 2⟩]

theorem timing_tables_add_up_entangled :
    inflow true entangled = {⟨.blacklist, 0⟩, ⟨.existence, 5⟩, ⟨.existence, 5⟩, ⟨.existence, 2⟩} ∧
      ((tablesAfter entangled true).get? .blacklist).isSome = true ∧
      (tablesAfter entangled true).total = 12 ∧
      (tablesAfter (entangled ++ [.merge false true]) false).total = 17 ∧ true ≠ false ∧
      tablesAfter (entangled ++ [.merge false true]) true = tablesAfter entangled true := by
  have came : inflow true entangled =
      {⟨.blacklist, 0⟩, ⟨.existence, 5⟩, ⟨.existence, 5⟩, ⟨.existence, 2⟩} := by decide
  obtain ⟨tables, merges, _⟩ := timing_tables_add_up entangled
  obtain ⟨held, _, total⟩ := tables true
  obtain ⟨_, totals, others⟩ := merges false true
  have listed := (held.listed .blacklist).mpr (by rw [came]; exact ⟨⟨.blacklist, 0⟩, by simp⟩)
  have before : (tablesAfter entangled false).total = 5 := by decide
  rw [came] at total
  have all : (tablesAfter entangled true).total = 12 := total
  exact ⟨came, listed, all, by rw [totals, before, all], by decide, others true (by decide)⟩

end ConsoleBatch.Lint
