import ConsoleBatch.Run.Progress

/-!
A host with any number of requests.

The jobs of all requests wait in one queue and can be run in any order. Files and the names that
the host knows may change in between. The log tells what happened, and on whose behalf.
-/

namespace ConsoleBatch.Run

open Files (Folder Tree)
open Lint (Clock)

structure Ticket where
  number : Nat
  requester : String
  deriving DecidableEq

structure Task where
  ticket : Ticket
  job : Job
  deriving DecidableEq

structure Entry where
  ticket : Ticket
  event : Event
  deriving DecidableEq

structure Session where
  config : Config
  folder : Folder
  files : Tree := {}
  registry : List String := []
  queue : List Task := []
  log : List Entry := []
  nextNumber : Nat := 0

namespace Session

def record (session : Session) (ticket : Ticket) (effect : Effect) : Session :=
  { session with
    queue := session.queue ++ effect.next.toList.map fun job => { ticket, job }
    log := session.log ++ effect.events.map fun event => { ticket, event } }

def enroll (session : Session) (requester : String) (effect : Effect) : Session :=
  let ticket : Ticket := { number := session.nextNumber, requester }
  { session.record ticket effect with nextNumber := session.nextNumber + 1 }

def request (session : Session) (requester name : String) : Session :=
  session.enroll requester
    (openRequest session.config session.folder session.files session.registry name)

def start (session : Session) (requester : String) (batch : InFlight) : Session :=
  session.enroll requester (drive session.config batch)

structure Ran where
  task : Task
  events : List Event

def effectOf (session : Session) (clock : Clock) (task : Task) : Effect :=
  runJob session.config session.folder session.files clock task.job

def afterTask (session : Session) (clock : Clock) (index : Nat) (task : Task) : Session :=
  { session with queue := session.queue.eraseIdx index }.record task.ticket
    (session.effectOf clock task)

def runAt? (session : Session) (clock : Clock) (index : Nat) : Option (Ran × Session) :=
  session.queue[index]?.map fun task =>
    ({ task, events := (session.effectOf clock task).events },
      session.afterTask clock index task)

def totalOf (size : Task → Nat) (queue : List Task) : Nat :=
  queue.foldr (fun task rest => size task + rest) 0

def reads (session : Session) : Nat :=
  totalOf (fun task => task.job.reads) session.queue

/-- The jobs that can follow those that wait, but for those that follow reading. -/
def weight (session : Session) : Nat :=
  totalOf (fun task => task.job.weight) session.queue

theorem totalOf_nil (size : Task → Nat) : totalOf size [] = 0 := rfl

theorem totalOf_cons (size : Task → Nat) (task : Task) (rest : List Task) :
    totalOf size (task :: rest) = size task + totalOf size rest := rfl

theorem totalOf_append (size : Task → Nat) (front back : List Task) :
    totalOf size (front ++ back) = totalOf size front + totalOf size back := by
  induction front with
  | nil => exact (Nat.zero_add _).symm
  | cons first rest hypothesis =>
    rw [List.cons_append, totalOf_cons, totalOf_cons, hypothesis, Nat.add_assoc]

theorem totalOf_eraseIdx (size : Task → Nat) {queue : List Task} {index : Nat} {task : Task}
    (found : queue[index]? = some task) :
    totalOf size queue = totalOf size (queue.eraseIdx index) + size task := by
  induction queue generalizing index with
  | nil => simp at found
  | cons first rest hypothesis =>
    cases index with
    | zero =>
      simp only [List.getElem?_cons_zero, Option.some.injEq] at found
      simp [found, totalOf_cons, Nat.add_comm]
    | succ index =>
      have smaller := hypothesis (by simpa using found)
      simp only [totalOf_cons, List.eraseIdx_cons_succ]
      omega

theorem afterTask_decreases (session : Session) (clock : Clock) {index : Nat} {task : Task}
    (found : session.queue[index]? = some task) :
    (session.afterTask clock index task).reads < session.reads ∨
      (session.afterTask clock index task).reads = session.reads ∧
        (session.afterTask clock index task).weight < session.weight := by
  have reads := totalOf_eraseIdx (fun task => task.job.reads) found
  have weight := totalOf_eraseIdx (fun task => task.job.weight) found
  have positive : 0 < task.job.reads ∨ task.job.reads = 0 ∧ 0 < task.job.weight := by
    cases task.job with
    | begin fileName parsed => cases parsed <;> simp [Job.reads, Job.weight]
    | _ => simp [Job.reads, Job.weight]
  unfold Session.reads Session.weight afterTask record
  cases next : (session.effectOf clock task).next with
  | none =>
    simp only [Option.toList_none, List.map_nil, List.append_nil]
    omega
  | some job =>
    have lighter := runJob_next next
    unfold Job.Precedes at lighter
    simp only [Option.toList_some, List.map_cons, List.map_nil, totalOf_append, totalOf_cons,
      totalOf_nil, Nat.add_zero]
    omega

def drain (session : Session) (clock : Clock) : List Ran × Session :=
  match _found : session.queue[0]? with
  | none => ([], session)
  | some task =>
    let (more, last) := (session.afterTask clock 0 task).drain clock
    ({ task, events := (session.effectOf clock task).events } :: more, last)
termination_by (session.reads, session.weight)
decreasing_by
  rcases afterTask_decreases session clock _found with fewer | ⟨same, lighter⟩
  · exact Prod.Lex.left _ _ fewer
  · rw [same]
    exact Prod.Lex.right _ lighter

def setRegistry (session : Session) (names : List String) : Session :=
  { session with registry := names }

def setFiles (session : Session) (files : Tree) : Session :=
  { session with files }

end Session

end ConsoleBatch.Run
