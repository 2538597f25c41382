import Mathlib.Data.List.Perm.Basic
import TabularAudit.Model.Reordering
import TabularAudit.Proofs.Snapshot

/-!
Records in another order are read as the same objects in another order. Only the first fault may be another one, so
that nothing is said about a snapshot that is refused.
-/

namespace TabularAudit

def Follows {α β : Type} (R : α → β → Prop) (x : Except Fault α) (y : Except Fault β) : Prop :=
  ∀ a, x = .ok a → ∃ b, y = .ok b ∧ R a b

namespace Follows

variable {α β γ δ : Type} {R : α → β → Prop} {S : γ → δ → Prop} {x : Except Fault α} {y : Except Fault β}

theorem refl {R : α → α → Prop} (same : ∀ a, R a a) (x : Except Fault α) : Follows R x x :=
  fun a found => ⟨a, found, same a⟩

theorem bind {f : α → Except Fault γ} {g : β → Except Fault δ} (follows : Follows R x y)
    (next : ∀ a b, R a b → Follows S (f a) (g b)) : Follows S (x >>= f) (y >>= g) := by
  intro c found
  obtain ⟨a, first, found⟩ := exists_of_bind_eq_ok found
  obtain ⟨b, second, related⟩ := follows a first
  rw [second]
  exact next a b related c found

theorem map {f : α → γ} {g : β → δ} (follows : Follows R x y) (next : ∀ a b, R a b → S (f a) (g b)) :
    Follows S (x.map f) (y.map g) := by
  intro c found
  obtain ⟨a, first, rfl⟩ := exists_of_map_eq_ok found
  obtain ⟨b, second, related⟩ := follows a first
  exact ⟨g b, congrArg (Except.map g) second, next a b related⟩

/-- Items are read one by one, so in another order they are read as the same results in another order. -/
theorem mapM_perm (f : α → Except Fault β) {as as' : List α} (perm : as.Perm as') :
    Follows List.Perm (as.mapM f) (as'.mapM f) := by
  intro bs found
  obtain ⟨bs', related, moved⟩ := List.perm_comp_forall₂ perm.symm (mapM_eq_ok_iff.1 found)
  exact ⟨bs', mapM_eq_ok_iff.2 related, moved.symm⟩

end Follows

namespace Snapshot

variable {name : String} {v v' : Value} {b c : Bag}

theorem items_of_reordered (same : ReorderedSection name v v') :
    Follows List.Perm (v.orElse (.list [])).items (v'.orElse (.list [])).items := by
  cases same with
  | kept => exact .refl List.Perm.refl _
  | permuted _ perm =>
      have given : ∀ vs, (Value.list vs).orElse (.list []) = .list vs := by
        intro vs
        cases vs <;> rfl
      rw [given, given]
      rintro _ ⟨⟩
      exact ⟨_, rfl, perm⟩

theorem follows_records (related : Bag.Related ReorderedSection b c) (name : String) :
    Follows List.Perm (records b name) (records c name) :=
  items_of_reordered (related.get name (.kept _ _))

theorem get_eq_of_reordered (related : Bag.Related ReorderedSection b c) (name : String) (ordered : Bag.fold name ∉ unorderedSections) :
    b.get name = c.get name := by
  have same : ReorderedSection (Bag.fold name) (b.get name) (c.get name) := related.get name (.kept _ _)
  generalize b.get name = v at same ⊢
  generalize c.get name = w at same ⊢
  cases same with
  | kept => rfl
  | permuted named => exact absurd named ordered

theorem ofTables_eq_map (raw : List Value) : Nested.ofTables raw =
    (raw.mapM Nested.ofTable).map fun ns => ⟨ns.flatMap Nested.columns, ns.flatMap Nested.measures⟩ := by
  induction raw with
  | nil => rfl
  | cons table raw ih =>
      rw [Nested.ofTables, ih, List.mapM_cons]
      cases Nested.ofTable table with
      | error fault => rfl
      | ok one => cases raw.mapM Nested.ofTable <;> rfl

structure Nested.Rearranged (n n' : Nested) : Prop where
  columns : n.columns.Perm n'.columns
  measures : n.measures.Perm n'.measures

theorem follows_ofTables {raw raw' : List Value} (perm : raw.Perm raw') :
    Follows Nested.Rearranged (Nested.ofTables raw) (Nested.ofTables raw') := by
  rw [ofTables_eq_map, ofTables_eq_map]
  apply (Follows.mapM_perm Nested.ofTable perm).map
  intro ns ns' moved
  exact ⟨moved.flatMap_right _, moved.flatMap_right _⟩

theorem follows_readColumns {raw raw' : List Value} (perm : raw.Perm raw') :
    Follows List.Perm (readColumns raw) (readColumns raw') := by
  apply (Follows.mapM_perm readColumn perm).map
  intro cs cs' moved
  exact moved.filterMap id

theorem withCounts_eq {columns columns' measures measures' : List ModelObject} (columnsMoved : columns.Perm columns')
    (measuresMoved : measures.Perm measures') : withCounts columns measures = withCounts columns' measures' := by
  have counts : ∀ {os ps : List ModelObject}, os.Perm ps → membersOf os = membersOf ps := by
    intro os ps moved
    funext t
    rw [membersOf, membersOf, (moved.filter _).length_eq]
  funext t
  rw [withCounts, withCounts, counts columnsMoved, counts measuresMoved]

structure Sections.Rearranged (s s' : Sections) : Prop where
  model : s.model = s'.model
  tables : s.tables.Perm s'.tables
  columns : s.columns.Perm s'.columns
  measures : s.measures.Perm s'.measures
  relationships : s.relationships = s'.relationships

theorem follows_sections (reordered : Reordered v v') : Follows Sections.Rearranged (sections v) (sections v') := by
  cases reordered with
  | kept => exact .refl (fun s => ⟨rfl, .refl _, .refl _, .refl _, rfl⟩) _
  | @sections es es' same =>
      have related : Bag.Related ReorderedSection (Bag.ofEntries es) (Bag.ofEntries es') := by
        apply Bag.related_ofEntries
        apply same.imp
        rintro e e' ⟨key, value⟩
        exact ⟨congrArg Bag.fold key, value⟩
      have relationships := get_eq_of_reordered related "relationships" (by decide)
      have model := get_eq_of_reordered related "model" (by decide)
      change Follows _ (records (Bag.ofEntries es) "tables" >>= _) (records (Bag.ofEntries es') "tables" >>= _)
      apply (follows_records related "tables").bind
      intro rawTables rawTables' tablesMoved
      apply (follows_ofTables tablesMoved).bind
      intro nested nested' nestedMoved
      apply (Follows.mapM_perm readTable tablesMoved).bind
      intro tables tables' readMoved
      apply (follows_records related "columns").bind
      intro rawColumns rawColumns' columnsMoved
      apply (follows_readColumns (columnsMoved.append nestedMoved.columns)).bind
      intro columns columns' columnsMoved
      apply (follows_records related "measures").bind
      intro rawMeasures rawMeasures' measuresMoved
      apply (Follows.mapM_perm readMeasure (measuresMoved.append nestedMoved.measures)).bind
      intro measures measures' measuresMoved
      rw [records, records, relationships, model]
      apply (Follows.refl (fun _ => rfl) _).bind
      rintro rawRelationships _ rfl
      apply (Follows.refl (fun _ => rfl) _).bind
      rintro relationships _ rfl
      apply (Follows.refl (fun _ => rfl) _).bind
      rintro model _ rfl
      rw [withCounts_eq columnsMoved measuresMoved]
      rintro _ ⟨⟩
      exact ⟨_, rfl, rfl, readMoved.map _, columnsMoved, measuresMoved, rfl⟩

end Snapshot

end TabularAudit
