import Mathlib.Algebra.Ring.Int.Defs
import TabularAudit.Proofs.Run.Comparison
import TabularAudit.Run.Session

/-!
Findings are conserved over a session. One comparison accounts for the difference between two runs, as a whole
and for each key; over a session the differences add up, whatever comes, goes and comes back on the way.
-/

namespace TabularAudit.Session

variable {before last current : List Finding} {later : List (List Finding)} {cs : List Comparison} {k : String × String}

def presence (k : String × String) (fs : List Finding) : Int := if k ∈ fs.map Finding.key then 1 else 0

/-- The comparisons of a session account for what lies between two runs. -/
structure Accounts (before last : List Finding) (cs : List Comparison) : Prop where
  lengths : (last.length : Int) - before.length =
    (cs.map fun c => (c.fresh.length : Int) - c.resolved.length).sum
  keys : ∀ k, presence k last - presence k before = (timesFresh cs k : Int) - timesResolved cs k

theorem Accounts.refl (fs : List Finding) : Accounts fs fs [] := by
  constructor
  · simp
  · intro k
    simp [timesFresh, timesResolved]

theorem timesFresh_cons (c : Comparison) (cs : List Comparison) (k : String × String) :
    timesFresh (c :: cs) k = (c.fresh.map Finding.key).count k + timesFresh cs k := by
  simp [timesFresh]

theorem timesResolved_cons (c : Comparison) (cs : List Comparison) (k : String × String) :
    timesResolved (c :: cs) k = (c.resolved.map Finding.key).count k + timesResolved cs k := by
  simp [timesResolved]

theorem Accounts.cons (old : Finding.AreDistinct before) (now : Finding.AreDistinct current)
    (accounts : Accounts current last cs) : Accounts before last (Comparison.split current before :: cs) := by
  constructor
  · have fromNow := Comparison.length_fresh_add_length_recurring current before
    have fromBefore := Comparison.length_recurring_add_length_resolved now old
    have rest := accounts.lengths
    rw [List.map_cons, List.sum_cons, ← rest]
    omega
  · intro k
    have rest := accounts.keys k
    rw [timesFresh_cons, timesResolved_cons, Comparison.count_fresh now old, Comparison.count_resolved now old]
    simp only [presence] at rest ⊢
    by_cases here : k ∈ current.map Finding.key <;> by_cases there : k ∈ before.map Finding.key <;>
      simp only [here, there, not_true_eq_false, not_false_eq_true, and_true, and_false, if_true, if_false] at rest ⊢ <;>
      omega

def IsStep (previous current : List Finding) (c : Comparison) : Prop :=
  Comparison.ofRuns current previous = .ok c ∧
    (c.recurring.length : Int) = current.length - c.fresh.length ∧
    (c.recurring.length : Int) = previous.length - c.resolved.length

theorem isStep_split (old : Finding.AreDistinct before) (now : Finding.AreDistinct current) :
    IsStep before current (Comparison.split current before) := by
  have fromNow := Comparison.length_fresh_add_length_recurring current before
  have fromBefore := Comparison.length_recurring_add_length_resolved now old
  exact ⟨Comparison.ofRuns_eq now.named old.named, by omega, by omega⟩

theorem comparisons_accounts (distinct : ∀ fs ∈ before :: later, Finding.AreDistinct fs) :
    ∃ cs, comparisons (before :: later) = .ok cs ∧
      Accounts before ((before :: later).getLast (List.cons_ne_nil before later)) cs ∧
      List.Forall₂ (fun runs c => IsStep runs.1 runs.2 c) ((before :: later).zip later) cs := by
  induction later generalizing before with
  | nil => exact ⟨[], rfl, Accounts.refl before, .nil⟩
  | cons current later ih =>
      have old := distinct before List.mem_cons_self
      have others : ∀ fs ∈ current :: later, Finding.AreDistinct fs := by
        intro fs member
        exact distinct fs (List.mem_cons_of_mem before member)
      have now := others current List.mem_cons_self
      obtain ⟨cs, compared, accounts, steps⟩ := ih others
      refine ⟨Comparison.split current before :: cs, ?_, ?_, ?_⟩
      · rw [comparisons, Comparison.ofRuns_eq now.named old.named, compared]
        rfl
      · rw [List.getLast_cons (List.cons_ne_nil current later)]
        exact accounts.cons old now
      · exact .cons (isStep_split old now) steps

theorem areDistinct_of_findings {rules : List Rule} {snapshots : List Value} {runs : List (List Finding)}
    (ran : findings rules snapshots = .ok runs) : ∀ fs ∈ runs, Finding.AreDistinct fs := by
  intro fs member
  obtain ⟨snapshot, -, one⟩ := exists_of_mem_mapM ran fs member
  obtain ⟨objects, -, rfl⟩ := exists_of_map_eq_ok one
  exact Run.areDistinct_ofRules rules objects

/-- Over a session the number of findings changes by what is new less what is resolved, at each step the same
findings recur from either side, and a key is there at the end if it was there at first and has come as often
as it has gone, or was not there and has come once more than it has gone. -/
theorem findings_conserved {catalog : Catalog} {snapshots : List Value} {before : List Finding}
    {later : List (List Finding)} (ran : findings catalog.rules snapshots = .ok (before :: later)) :
    let last := (before :: later).getLast (List.cons_ne_nil before later)
    ∃ cs, comparisons (before :: later) = .ok cs ∧
      (last.length : Int) - before.length = (cs.map fun c => (c.fresh.length : Int) - c.resolved.length).sum ∧
      List.Forall₂ (fun runs c => IsStep runs.1 runs.2 c) ((before :: later).zip later) cs ∧
      ∀ k, k ∈ last.map Finding.key ↔
        (k ∈ before.map Finding.key ∧ timesFresh cs k = timesResolved cs k) ∨
          (k ∉ before.map Finding.key ∧ timesFresh cs k = timesResolved cs k + 1) := by
  intro last
  obtain ⟨cs, compared, accounts, steps⟩ := comparisons_accounts (areDistinct_of_findings ran)
  refine ⟨cs, compared, accounts.lengths, steps, ?_⟩
  intro k
  have balance := accounts.keys k
  simp only [presence] at balance
  by_cases atEnd : k ∈ last.map Finding.key <;> by_cases atFirst : k ∈ before.map Finding.key <;>
    simp only [last, atEnd, atFirst, if_true, if_false] at balance ⊢ <;> simp <;> omega

def tables (names : List String) : Value :=
  .map [("tables", .list (names.map fun name => .map [("Name", .text name)]))]

theorem findings_conserved_of_returning_table :
    ∃ before later cs, findings [.ofTables "R" 1] [tables ["Sales"], tables [], tables ["Sales", "Date"]] =
        .ok (before :: later) ∧ comparisons (before :: later) = .ok cs ∧
      (cs.map fun c => (c.fresh.length : Int) - c.resolved.length).sum = 1 ∧
      (timesFresh cs ("R", "'Sales'") = timesResolved cs ("R", "'Sales'")) ∧
      (timesFresh cs ("R", "'Date'") = timesResolved cs ("R", "'Date'") + 1) := by
  have shape : (findings [.ofTables "R" 1] [tables ["Sales"], tables [], tables ["Sales", "Date"]]).map
      (fun runs => runs.map fun fs => fs.map Finding.key) =
        .ok [[("R", "'Sales'")], [], [("R", "'Sales'"), ("R", "'Date'")]] := by decide +kernel
  obtain ⟨runs, ran, keys⟩ := exists_of_map_eq_ok shape
  obtain ⟨before, later, rfl, atFirst, keys⟩ := List.map_eq_cons_iff.1 keys
  obtain ⟨between, later, rfl, -, keys⟩ := List.map_eq_cons_iff.1 keys
  obtain ⟨last, rfl, atEnd⟩ := List.map_eq_singleton_iff.1 keys
  obtain ⟨cs, compared, lengths, -, members⟩ :=
    @findings_conserved ⟨[.ofTables "R" 1], by decide⟩ _ before [between, last] ran
  have one : before.length = 1 := by simpa using congrArg List.length atFirst
  have two : last.length = 2 := by simpa using congrArg List.length atEnd
  refine ⟨before, [between, last], cs, ran, compared, ?_, ?_, ?_⟩
  · rw [← lengths]
    simp [one, two]
  · have sales := members ("R", "'Sales'")
    simpa [atFirst, atEnd] using sales
  · have date := members ("R", "'Date'")
    simpa [atFirst, atEnd] using date

end TabularAudit.Session
