import TabularAudit.Run.Basic

/-!
Rules shared out among workers. A worker that is free takes the next waiting task, and workers may
finish in any order; each answer is kept under the place of its task.
-/

namespace TabularAudit

structure Pool (α β : Type) where
  waiting : List (Nat × α)
  busy : List (Nat × α) := []
  answers : List (Nat × β) := []

namespace Pool

section
variable {α β : Type}

def ofTasks (tasks : List α) : Pool α β := ⟨tasks.zipIdx.map Prod.swap, [], []⟩

def canStart (workers : Nat) (p : Pool α β) : Bool := p.busy.length < workers && !p.waiting.isEmpty

def start (p : Pool α β) : Pool α β :=
  match p.waiting with
  | [] => p
  | task :: rest => { p with waiting := rest, busy := p.busy ++ [task] }

def finish (f : α → β) (p : Pool α β) (i : Nat) : Pool α β :=
  match p.busy[i]? with
  | none => p
  | some task => { p with busy := p.busy.eraseIdx i, answers := p.answers ++ [(task.1, f task.2)] }

/-- How many things may happen next: one for each busy worker, and a start. -/
def moves (workers : Nat) (p : Pool α β) : Nat := p.busy.length + if p.canStart workers then 1 else 0

def move (f : α → β) (p : Pool α β) (i : Nat) : Pool α β :=
  if i < p.busy.length then p.finish f i else p.start

def remaining (p : Pool α β) : Nat := 2 * p.waiting.length + p.busy.length

theorem remaining_move (f : α → β) {workers i : Nat} {p : Pool α β} (possible : i < p.moves workers) :
    (p.move f i).remaining < p.remaining := by
  rw [move]
  split
  · next inside =>
    rw [finish, List.getElem?_eq_getElem inside]
    simp only [remaining, List.length_eraseIdx, if_pos inside]
    omega
  · next outside =>
    rw [moves] at possible
    split at possible
    · next can =>
      cases waiting : p.waiting with
      | nil => simp [canStart, waiting] at can
      | cons task rest =>
          simp only [start, waiting, remaining, List.length_cons, List.length_append, List.length_nil]
          omega
    · omega

/-- `order` chooses among the possible moves at each moment, as the speed of the workers would. -/
def run (workers : Nat) (order : Nat → Nat) (f : α → β) (clock : Nat) (p : Pool α β) : Pool α β :=
  if _possible : 0 < p.moves workers then
    run workers order f (clock + 1) (p.move f (order clock % p.moves workers))
  else p
termination_by p.remaining
decreasing_by exact remaining_move f (Nat.mod_lt _ _possible)

def collect (size : Nat) (p : Pool α β) : List β := (List.range size).filterMap fun i => p.answers.lookup i

def map (workers : Nat) (order : Nat → Nat) (f : α → β) (tasks : List α) : List β :=
  (run workers order f 0 (ofTasks tasks)).collect tasks.length

end

end Pool

/-- Without a second worker, or a second rule, the rules are evaluated one after another. -/
def Run.ofRulesWith (workers : Int) (order : Nat → Nat) (rules : List Rule) (objects : List ModelObject) : Run :=
  let attempt := Attempt.ofRule objects (Index.ofObjects objects)
  Run.ofAttempts (if 1 < workers ∧ 1 < rules.length then Pool.map workers.toNat order attempt rules
    else rules.map attempt)

end TabularAudit
