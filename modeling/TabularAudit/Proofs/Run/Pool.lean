import TabularAudit.Run.Pool

/-!
Workers do not change what is answered. Each task is waiting, being worked at, or answered, and this
stays so from move to move, whoever makes it.
-/

namespace TabularAudit.Pool

section
variable {α β : Type} {f : α → β} {tasks : List α} {p : Pool α β} {workers : Nat}

/-- No task is lost, and what stands in the pool belongs to the tasks. -/
structure Accounts (f : α → β) (tasks : List α) (p : Pool α β) : Prop where
  kept : ∀ i a, tasks[i]? = some a → (i, a) ∈ p.waiting ∨ (i, a) ∈ p.busy ∨ (i, f a) ∈ p.answers
  waits : ∀ i a, (i, a) ∈ p.waiting → tasks[i]? = some a
  works : ∀ i a, (i, a) ∈ p.busy → tasks[i]? = some a
  answered : ∀ i b, (i, b) ∈ p.answers → ∃ a, tasks[i]? = some a ∧ b = f a

namespace Accounts

theorem ofTasks (f : α → β) (tasks : List α) : Accounts f tasks (Pool.ofTasks tasks) := by
  have waiting : ∀ i a, (i, a) ∈ tasks.zipIdx.map Prod.swap ↔ tasks[i]? = some a := by
    intro i a
    rw [List.mem_map]
    constructor
    · rintro ⟨⟨_, _⟩, member, same⟩
      cases same
      exact List.mem_zipIdx_iff_getElem?.1 member
    · exact fun task => ⟨(a, i), List.mem_zipIdx_iff_getElem?.2 task, rfl⟩
  refine ⟨?_, ?_, nofun, nofun⟩
  · intro i a task
    exact .inl ((waiting i a).2 task)
  · intro i a member
    exact (waiting i a).1 member

theorem start (holds : Accounts f tasks p) : Accounts f tasks p.start := by
  rw [Pool.start]
  split
  · exact holds
  · next task rest waiting =>
    have first : task ∈ p.waiting := waiting ▸ List.mem_cons_self
    refine ⟨?_, ?_, ?_, holds.answered⟩
    · intro i a known
      rcases holds.kept i a known with here | here | here
      · rw [waiting] at here
        rcases List.mem_cons.1 here with rfl | here
        · exact .inr (.inl (List.mem_append_right _ (List.mem_singleton_self _)))
        · exact .inl here
      · exact .inr (.inl (List.mem_append_left _ here))
      · exact .inr (.inr here)
    · intro i a member
      exact holds.waits i a (waiting ▸ List.mem_cons_of_mem _ member)
    · intro i a member
      rcases List.mem_append.1 member with here | here
      · exact holds.works i a here
      · obtain rfl := List.mem_singleton.1 here
        exact holds.waits i a first

theorem finish (holds : Accounts f tasks p) (i : Nat) : Accounts f tasks (p.finish f i) := by
  rw [Pool.finish]
  split
  · exact holds
  · next task found =>
    have first : task ∈ p.busy := List.mem_of_getElem? found
    refine ⟨?_, holds.waits, ?_, ?_⟩
    · intro j a known
      rcases holds.kept j a known with here | here | here
      · exact .inl here
      · by_cases chosen : (j, a) = task
        · subst chosen
          exact .inr (.inr (List.mem_append_right _ (List.mem_singleton_self _)))
        · obtain ⟨k, there⟩ := List.getElem?_of_mem here
          have elsewhere : k ≠ i := by
            rintro rfl
            exact chosen (Option.some.inj (there.symm.trans found))
          exact .inr (.inl (List.mem_eraseIdx_iff_getElem?.2 ⟨k, elsewhere, there⟩))
      · exact .inr (.inr (List.mem_append_left _ here))
    · intro j a member
      exact holds.works j a (List.mem_of_mem_eraseIdx member)
    · intro j b member
      rcases List.mem_append.1 member with here | here
      · exact holds.answered j b here
      · obtain ⟨rfl, rfl⟩ := Prod.mk.inj (List.mem_singleton.1 here)
        exact ⟨task.2, holds.works _ _ first, rfl⟩

theorem move (holds : Accounts f tasks p) (i : Nat) : Accounts f tasks (p.move f i) := by
  rw [Pool.move]
  split
  · exact holds.finish i
  · exact holds.start

theorem run (workers : Nat) (order : Nat → Nat) (clock : Nat) {p : Pool α β} (holds : Accounts f tasks p) :
    Accounts f tasks (p.run workers order f clock) := by
  rw [Pool.run]
  split
  · next possible =>
    have fewer := remaining_move f (Nat.mod_lt (order clock) possible)
    exact run workers order (clock + 1) (holds.move _)
  · exact holds
termination_by p.remaining

end Accounts

theorem moves_run (order : Nat → Nat) (f : α → β) (clock : Nat) (p : Pool α β) :
    (p.run workers order f clock).moves workers = 0 := by
  rw [run]
  split
  · next possible =>
    have fewer := remaining_move f (Nat.mod_lt (order clock) possible)
    exact moves_run order f (clock + 1) _
  · next impossible => omega
termination_by p.remaining

theorem done_of_moves_eq_zero (some_worker : 0 < workers) (resting : p.moves workers = 0) :
    p.waiting = [] ∧ p.busy = [] := by
  rw [moves] at resting
  have idle : p.busy = [] := List.length_eq_zero_iff.1 (by omega)
  refine ⟨?_, idle⟩
  cases waiting : p.waiting with
  | nil => rfl
  | cons task rest =>
      have can : p.canStart workers = true := by simp [canStart, idle, waiting, some_worker]
      simp [can] at resting

theorem Accounts.lookup_eq (holds : Accounts f tasks p) (waiting : p.waiting = []) (busy : p.busy = []) (i : Nat) :
    p.answers.lookup i = tasks[i]?.map f := by
  cases found : p.answers.lookup i with
  | none =>
      cases task : tasks[i]? with
      | none => rfl
      | some a =>
          rcases holds.kept i a task with here | here | here
          · rw [waiting] at here; cases here
          · rw [busy] at here; cases here
          · have differ := List.lookup_eq_none_iff.1 found _ here
            simp at differ
  | some b =>
      obtain ⟨before, behind, split, -⟩ := List.lookup_eq_some_iff.1 found
      have here : (i, b) ∈ p.answers := split ▸ List.mem_append_right before List.mem_cons_self
      obtain ⟨a, task, rfl⟩ := holds.answered i b here
      rw [task]
      rfl

theorem filterMap_range_getElem? (tasks : List α) :
    (List.range tasks.length).filterMap (fun i => tasks[i]?.map f) = tasks.map f := by
  induction tasks with
  | nil => rfl
  | cons task tasks ih =>
      rw [List.length_cons, List.range_succ_eq_map, List.filterMap_cons, List.filterMap_map]
      exact congrArg (List.cons (f task)) ih

theorem map_eq_map (some_worker : 0 < workers) (order : Nat → Nat) (f : α → β) (tasks : List α) :
    map workers order f tasks = tasks.map f := by
  have holds := (Accounts.ofTasks f tasks).run workers order 0
  obtain ⟨waiting, busy⟩ := done_of_moves_eq_zero some_worker (moves_run order f 0 (Pool.ofTasks tasks))
  rw [map, collect]
  simp only [holds.lookup_eq waiting busy]
  exact filterMap_range_getElem? tasks

end

end TabularAudit.Pool

namespace TabularAudit.Run

/-- Neither the number of workers nor the order in which they finish matters. -/
theorem ofRulesWith_eq_ofRules (workers : Int) (order : Nat → Nat) (rules : List Rule) (objects : List ModelObject) :
    ofRulesWith workers order rules objects = ofRules rules objects := by
  rw [ofRulesWith, ofRules]
  split
  · next several =>
    have some_worker : 0 < workers.toNat := by omega
    rw [Pool.map_eq_map some_worker]
  · rfl

end TabularAudit.Run
