import TabularAudit.Proofs.Snapshot
import TabularAudit.Storage.Disk

/-!
What stays on a disk. A file is read as it was written, and what is made or written elsewhere leaves it alone;
two paths are of one file if they lead to one place.
-/

namespace TabularAudit

namespace Disk

variable {d e : Disk} {p q r : Path} {c : ByteArray} {text : String}

/-- The place that a path leads to, with its double points followed. -/
def leads (d : Disk) (p : Path) : Option Path := d.walk ⟨p.root, []⟩ p.parts

theorem entry?_eq (d : Disk) (p : Path) :
    d.entry? p = (d.spelled? p).orElse fun _ => (d.leads p).bind d.spelled? := rfl

/-! Places -/

theorem walk_eq_of_isDirectory_eq (same : ∀ q, e.isDirectory q = d.isDirectory q) (p : Path) (parts : List String) :
    e.walk p parts = d.walk p parts := by
  induction parts generalizing p with
  | nil => rfl
  | cons part parts ih =>
      rw [walk, walk, same, ih, ih]

theorem walk_eq_some_of_le (keeps : ∀ q, d.isDirectory q = true → e.isDirectory q = true) {parts : List String}
    (found : d.walk p parts = some r) : e.walk p parts = some r := by
  induction parts generalizing p with
  | nil => exact found
  | cons part parts ih =>
      rw [walk] at found ⊢
      by_cases up : part = ".."
      · rw [if_pos up] at found ⊢
        by_cases there : d.isDirectory p = true
        · rw [if_pos there] at found
          rw [if_pos (keeps p there)]
          exact ih found
        · rw [if_neg there] at found
          cases found
      · rw [if_neg up] at found ⊢
        exact ih found

def IsPlain (parts : List String) : Prop := ∀ part ∈ parts, part ≠ ".."

theorem plain_of_walk {parts : List String} (plain : IsPlain p.parts) (found : d.walk p parts = some r) :
    r.root = p.root ∧ IsPlain r.parts := by
  induction parts generalizing p with
  | nil =>
      cases found
      exact ⟨rfl, plain⟩
  | cons part parts ih =>
      rw [walk] at found
      split at found
      · split at found
        · refine @ih p.parent ?_ found
          intro part member
          exact plain part (List.dropLast_subset _ member)
        · cases found
      · next down =>
          refine @ih (p.child part) ?_ found
          intro other member
          rcases List.mem_append.1 member with member | member
          · exact plain other member
          · rw [List.mem_singleton.1 member]
            exact down

theorem walk_of_plain {parts : List String} (plain : IsPlain parts) (p : Path) :
    d.walk p parts = some ⟨p.root, p.parts ++ parts⟩ := by
  induction parts generalizing p with
  | nil => rw [walk, List.append_nil]
  | cons part parts ih =>
      have later : IsPlain parts := fun other member => plain other (List.mem_cons_of_mem part member)
      rw [walk, if_neg (plain part List.mem_cons_self), ih later, Path.child, List.append_assoc]
      rfl

theorem leads_of_plain (plain : IsPlain p.parts) : d.leads p = some p := walk_of_plain plain ⟨p.root, []⟩

theorem leads_of_leads_eq_some (found : d.leads q = some p) : d.leads p = some p := by
  obtain ⟨-, plain⟩ := plain_of_walk (fun _ member => by cases member) found
  exact leads_of_plain plain

/-! Entries -/

theorem lookup_filter_of_ne {entries : List (Path × Entry)} (differ : q ≠ p) :
    (entries.filter fun entry => entry.1 ≠ p).lookup q = entries.lookup q := by
  induction entries with
  | nil => rfl
  | cons entry entries ih =>
      obtain ⟨o, x⟩ := entry
      by_cases same : o = p
      · have other : (q == p) = false := beq_false_of_ne differ
        simpa [same, List.lookup_cons, other] using ih
      · cases here : q == o with
        | true => simp [same, here, List.lookup_cons]
        | false => simpa [same, here, List.lookup_cons] using ih

theorem spelled?_put_of_ne (differ : q ≠ p) (d : Disk) (x : Entry) : (d.put p x).spelled? q = d.spelled? q := by
  have other : (q == p) = false := beq_false_of_ne differ
  rw [spelled?, spelled?, put, List.lookup_cons, other, lookup_filter_of_ne differ]

theorem isDirectory_put_of_ne (differ : q ≠ p) (d : Disk) (x : Entry) :
    (d.put p x).isDirectory q = d.isDirectory q := by
  rw [isDirectory, isDirectory, spelled?_put_of_ne differ]

theorem spelled?_eq_of_read? (read : d.read? p = some c) :
    d.spelled? p = some (.file c) ∨
      d.spelled? p = none ∧ ∃ r, d.leads p = some r ∧ d.spelled? r = some (.file c) := by
  rw [read?] at read
  split at read
  · next content entry =>
      cases read
      rw [entry?_eq] at entry
      cases spelled : d.spelled? p with
      | some x =>
          rw [spelled] at entry
          exact .inl entry
      | none =>
          rw [spelled] at entry
          exact .inr ⟨rfl, Option.bind_eq_some_iff.1 entry⟩
  · cases read

theorem read?_of_file (entry : d.entry? p = some (.file c)) : d.read? p = some c := by
  rw [read?, entry]

/-! Directories that are made -/

theorem isDirectory_put_directory (kept : d.isDirectory q = true) : (d.put p .directory).isDirectory q = true := by
  by_cases same : q = p
  · subst same
    by_cases top : q.parts = []
    · simp [isDirectory, spelled?, top]
    · rw [isDirectory, spelled?_put d q .directory top]
  · rw [isDirectory_put_of_ne same, kept]

theorem read?_put_directory (free : d.entry? p = none) (read : d.read? q = some c) :
    (d.put p .directory).read? q = some c := by
  have unspelled : d.spelled? p = none := by
    cases spelled : d.spelled? p with
    | none => rfl
    | some x =>
        rw [entry?_eq, spelled] at free
        cases free
  apply read?_of_file
  rw [entry?_eq]
  rcases spelled?_eq_of_read? read with here | ⟨missing, r, leads, there⟩
  · have differ : q ≠ p := by
      rintro rfl
      rw [unspelled] at here
      cases here
    rw [spelled?_put_of_ne differ, here]
    rfl
  · have differ : q ≠ p := by
      rintro rfl
      rw [entry?_eq, missing, leads] at free
      rw [show (none : Option Entry).orElse (fun _ => (some r).bind d.spelled?) = d.spelled? r from rfl, there] at free
      cases free
    have apart : r ≠ p := by
      rintro rfl
      rw [unspelled] at there
      cases there
    have still : (d.put p .directory).leads q = some r :=
      walk_eq_some_of_le (fun _ kept => isDirectory_put_directory kept) leads
    rw [spelled?_put_of_ne differ, missing, still]
    change (d.put p .directory).spelled? r = _
    rw [spelled?_put_of_ne apart, there]

theorem read?_makeDirectories {ps : List Path} (made : d.makeDirectories ps = .ok e) (read : d.read? q = some c) :
    e.read? q = some c := by
  induction ps generalizing d with
  | nil =>
      cases made
      exact read
  | cons p ps ih =>
      rw [makeDirectories] at made
      split at made
      · exact ih made read
      · cases made
      · next free => exact ih made (read?_put_directory free read)

/-! Files that are written -/

theorem write_eq_ok (written : d.write p text = .ok e) :
    e = d.put p (.file text.toUTF8) ∧ d.isDirectory p = false := by
  rw [write] at written
  split at written
  · cases written
  · next free =>
      cases written
      refine ⟨rfl, ?_⟩
      rw [isDirectory]
      split
      · next spelled =>
          refine (free ?_).elim
          rw [entry?_eq, spelled]
          rfl
      · rfl
  · cases written
  · cases written

theorem write_child {name : String} (above : d.entry? p = some .directory)
    (free : d.entry? (p.child name) ≠ some .directory) (text : String) :
    d.write (p.child name) text = .ok (d.put (p.child name) (.file text.toUTF8)) := by
  rw [write, Path.parent_child, above]
  cases there : d.entry? (p.child name) with
  | none => rfl
  | some x =>
      cases x with
      | directory => exact absurd there free
      | file content => rfl

theorem isDirectory_write (written : d.write p text = .ok e) (q : Path) : e.isDirectory q = d.isDirectory q := by
  obtain ⟨rfl, free⟩ := write_eq_ok written
  by_cases same : q = p
  · subst same
    have below : q.parts ≠ [] := by
      intro top
      simp [isDirectory, spelled?, top] at free
    rw [free, isDirectory, spelled?_put d q _ below]
  · exact isDirectory_put_of_ne same d _

theorem leads_write (written : d.write p text = .ok e) (q : Path) : e.leads q = d.leads q :=
  walk_eq_of_isDirectory_eq (isDirectory_write written) _ _

theorem read?_write_self (written : d.write p text = .ok e) : e.read? p = some text.toUTF8 := by
  obtain ⟨rfl, free⟩ := write_eq_ok written
  have below : p.parts ≠ [] := by
    intro top
    simp [isDirectory, spelled?, top] at free
  apply read?_of_file
  rw [entry?_eq, spelled?_put d p _ below]
  rfl

theorem read?_write (written : d.write p text = .ok e) (differ : q ≠ p) (elsewhere : d.leads q ≠ some p) :
    e.read? q = d.read? q := by
  have leads := leads_write written q
  obtain ⟨rfl, -⟩ := write_eq_ok written
  have entry : Disk.entry? (d.put p (.file text.toUTF8)) q = d.entry? q := by
    rw [entry?_eq, entry?_eq, spelled?_put_of_ne differ, leads]
    cases place : d.leads q with
    | none => rfl
    | some r =>
        have apart : r ≠ p := fun same => elsewhere (same ▸ place)
        rw [Option.bind_some, Option.bind_some, spelled?_put_of_ne apart]
  rw [read?, read?, entry]

theorem read?_write_of_apart (written : d.write p text = .ok e) (apart : d.leads q ≠ d.leads p) :
    e.read? q = d.read? q := by
  apply read?_write written
  · rintro rfl
    exact apart rfl
  · intro place
    exact apart (place.trans (leads_of_leads_eq_some place).symm)

theorem walk_append (d : Disk) (p : Path) (parts others : List String) :
    d.walk p (parts ++ others) = (d.walk p parts).bind fun q => d.walk q others := by
  induction parts generalizing p with
  | nil => rfl
  | cons part parts ih =>
      rw [List.cons_append, walk, walk, ih, ih]
      split
      · split <;> rfl
      · rfl

theorem leads_child {name : String} (down : name ≠ "..") (d : Disk) (p : Path) :
    d.leads (p.child name) = (d.leads p).map fun q => q.child name := by
  change d.walk ⟨p.root, []⟩ (p.parts ++ [name]) = _
  rw [walk_append]
  cases place : d.walk ⟨p.root, []⟩ p.parts with
  | none => rw [leads, place]; rfl
  | some q =>
      rw [leads, place, Option.bind_some, walk, if_neg down]
      rfl

theorem read?_write_child {name other : String} (written : d.write (p.child other) text = .ok e)
    (down : name ≠ "..") (differ : name ≠ other) : e.read? (p.child name) = d.read? (p.child name) := by
  apply read?_write written
  · intro same
    have names := congrArg Path.name same
    rw [Path.name_child, Path.name_child] at names
    exact differ names
  · intro place
    rw [leads_child down] at place
    obtain ⟨q, -, same⟩ := Option.map_eq_some_iff.1 place
    have names := congrArg Path.name same
    rw [Path.name_child, Path.name_child] at names
    exact differ names

end Disk

namespace Effect

variable {α β : Type} {d e : Disk} {a : α} {b : β} {x : Effect α} {f : α → Effect β}

theorem run_bind (x : Effect α) (f : α → Effect β) (d : Disk) :
    (x >>= f).run.run d = match x.run.run d with
      | (.ok a, m) => (f a).run.run m
      | (.error fault, m) => (.error fault, m) := by
  change (match x.run.run d with | (r, m) => (ExceptT.bindCont f r).run m) = _
  rcases x.run.run d with ⟨_ | a, m⟩ <;> rfl

theorem run_bind_of_eq_ok (ok : x.run.run d = (.ok a, e)) : (x >>= f).run.run d = (f a).run.run e := by
  rw [run_bind, ok]

theorem run_look (g : Disk → Except Fault α) (d : Disk) : (look g).run.run d = (g d, d) := rfl

theorem run_ofResult (r : Except Fault α) (d : Disk) : (ofResult r).run.run d = (r, d) := rfl

theorem run_change (g : Disk → Except Fault Disk) (d : Disk) :
    (change g).run.run d = match g d with
      | .ok e => (.ok (), e)
      | .error fault => (.error fault, d) := by
  rw [change, run_bind, run_look]
  cases g d <;> rfl

theorem exists_of_run_look_bind_eq_ok {g : Disk → Except Fault α} (ok : (look g >>= f).run.run d = (.ok b, e)) :
    ∃ a, g d = .ok a ∧ (f a).run.run d = (.ok b, e) := by
  rw [run_bind, run_look] at ok
  split at ok
  · next looked =>
      obtain ⟨found, rfl⟩ := Prod.mk.inj looked
      exact ⟨_, found, ok⟩
  · cases ok

theorem exists_of_run_ofResult_bind_eq_ok {r : Except Fault α} (ok : (ofResult r >>= f).run.run d = (.ok b, e)) :
    ∃ a, r = .ok a ∧ (f a).run.run d = (.ok b, e) :=
  exists_of_run_look_bind_eq_ok ok

theorem exists_of_run_change_bind_eq_ok {g : Disk → Except Fault Disk} {f : Unit → Effect β}
    (ok : (change g >>= f).run.run d = (.ok b, e)) : ∃ m, g d = .ok m ∧ (f ()).run.run m = (.ok b, e) := by
  rw [run_bind, run_change] at ok
  cases made : g d with
  | error fault =>
      rw [made] at ok
      cases ok
  | ok m =>
      rw [made] at ok
      exact ⟨m, rfl, ok⟩

theorem run_look_bind {g : Disk → Except Fault α} (found : g d = .ok a) :
    (look g >>= f).run.run d = (f a).run.run d := by
  rw [run_bind, run_look, found]

theorem run_ofResult_bind {r : Except Fault α} (found : r = .ok a) :
    (ofResult r >>= f).run.run d = (f a).run.run d := by
  rw [run_bind, run_ofResult, found]

theorem run_change_bind {g : Disk → Except Fault Disk} {f : Unit → Effect β} (made : g d = .ok e) :
    (change g >>= f).run.run d = (f ()).run.run e := by
  rw [run_bind, run_change, made]

def Keeps (x : Effect α) (holds : Disk → Prop) : Prop := ∀ d, holds d → holds (x.run.run d).2

variable {holds : Disk → Prop}

theorem keeps_bind (first : x.Keeps holds) (later : ∀ a, (f a).Keeps holds) : (x >>= f).Keeps holds := by
  intro d before
  have between := first d before
  rw [run_bind]
  split
  · next a m ran =>
      rw [ran] at between
      exact later a m between
  · next fault m ran =>
      rw [ran] at between
      exact between

theorem keeps_ofResult (r : Except Fault α) : (ofResult r).Keeps holds := fun _ before => before

theorem keeps_look (g : Disk → Except Fault α) : (look g).Keeps holds := fun _ before => before

theorem keeps_change {g : Disk → Except Fault Disk} (step : ∀ d e, g d = .ok e → holds d → holds e) :
    (change g).Keeps holds := by
  intro d before
  rw [run_change]
  split
  · next made => exact step _ _ made before
  · exact before

end Effect

end TabularAudit
