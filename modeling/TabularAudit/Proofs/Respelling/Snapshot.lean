import TabularAudit.Proofs.Respelling.Records
import TabularAudit.Proofs.Snapshot

/-! Snapshots under respelled keys are read alike: both fail, or both give objects that agree one by one. -/

namespace TabularAudit

namespace ModelObject

variable {o p : ModelObject} {os ps : List ModelObject}

theorem Agrees.refl (o : ModelObject) : o.Agrees o := ⟨rfl, rfl, rfl, rfl, .refl _⟩

theorem forall₂_filter {f g : ModelObject → Bool} (agree : List.Forall₂ Agrees os ps)
    (same : ∀ o p, o.Agrees p → f o = g p) : List.Forall₂ Agrees (os.filter f) (ps.filter g) := by
  apply List.rel_filter ?_ agree
  intro o p agrees
  simp only [same o p agrees]

theorem length_filter_eq {f g : ModelObject → Bool} (agree : List.Forall₂ Agrees os ps)
    (same : ∀ o p, o.Agrees p → f o = g p) : (os.filter f).length = (ps.filter g).length :=
  (forall₂_filter agree same).length_eq

theorem length_owned_eq (agree : List.Forall₂ Agrees os ps) (table : Option String) :
    (os.filter fun m => m.table = table).length = (ps.filter fun m => m.table = table).length := by
  apply length_filter_eq agree
  intro o p agrees
  rw [agrees.table]

end ModelObject

namespace Snapshot

variable {v v' : Value} {name : String}

theorem forall₂_kept (vs : List Value) : List.Forall₂ Record.Respelled vs vs :=
  List.forall₂_same.2 fun v _ => .kept v

theorem respelled_ofEntries {es es' : Entries} (same : List.Forall₂ (fun e e' =>
    Text.SameLetters e.1 e'.1 ∧ RespelledSection (Bag.fold e.1) e.2 e'.2) es es') :
    Bag.Related RespelledSection (Bag.ofEntries es) (Bag.ofEntries es') := by
  apply Bag.related_ofEntries
  apply same.imp
  rintro e e' ⟨letters, value⟩
  exact ⟨Text.lower_eq_of_sameLetters letters, value⟩

theorem items_of_section (named : name ∈ recordSections) (same : RespelledSection name v v') :
    Alike (List.Forall₂ Record.Respelled) (v.orElse (.list [])).items (v'.orElse (.list [])).items := by
  cases same with
  | kept => exact Alike.refl forall₂_kept _
  | model same => simp [recordSections] at named
  | records _ same =>
      cases same with
      | nil => exact .ok .nil
      | cons head tail => exact .ok (.cons head tail)

theorem alike_records {b c : Bag} (respelled : Bag.Related RespelledSection b c) (named : Bag.fold name ∈ recordSections) :
    Alike (List.Forall₂ Record.Respelled) (records b name) (records c name) :=
  items_of_section named (respelled.get name (.kept _ _))

theorem alike_readModel (same : RespelledSection "model" v v') :
    Alike ModelObject.Agrees (readModel v) (readModel v') := by
  apply Alike.map (R := Bag.Agrees)
  · apply Record.alike_ofValue
    cases same with
    | kept => exact .kept v
    | model same => exact same
    | records named => simp [recordSections] at named
  · intro b c
    exact Record.agrees_model

theorem ofTable_eq (same : Record.Respelled v v') : Nested.ofTable v = Nested.ofTable v' := by
  have read := Record.alike_ofValue same
  rw [Nested.ofTable, Nested.ofTable]
  generalize Record.ofValue v = x at read ⊢
  generalize Record.ofValue v' = y at read ⊢
  cases read with
  | error fault => rfl
  | ok agrees =>
      simp only [Bind.bind, Except.bind, records, agrees.get_eq, Record.firstGiven_eq agrees]

theorem ofTables_eq {vs vs' : List Value} (same : List.Forall₂ Record.Respelled vs vs') :
    Nested.ofTables vs = Nested.ofTables vs' := by
  induction same with
  | nil => rfl
  | cons head tail ih => rw [Nested.ofTables, Nested.ofTables, ofTable_eq head, ih]

theorem alike_readTable (same : Record.Respelled v v') : Alike ModelObject.Agrees (readTable v) (readTable v') :=
  (Record.alike_ofValue same).map fun _ _ => Record.agrees_table

theorem alike_readMeasure (same : Record.Respelled v v') :
    Alike ModelObject.Agrees (readMeasure v) (readMeasure v') :=
  (Record.alike_ofValue same).map fun _ _ => Record.agrees_measure

theorem alike_readRelationship (same : Record.Respelled v v') :
    Alike ModelObject.Agrees (readRelationship v) (readRelationship v') :=
  (Record.alike_ofValue same).bind fun _ _ => Record.alike_relationship

theorem alike_readColumns {vs vs' : List Value} (same : List.Forall₂ Record.Respelled vs vs') :
    Alike (List.Forall₂ ModelObject.Agrees) (readColumns vs) (readColumns vs') := by
  apply Alike.map (R := List.Forall₂ (Option.Rel ModelObject.Agrees))
  · apply Alike.mapM same
    intro v v' respelled
    exact (Record.alike_ofValue respelled).bind fun _ _ => Record.alike_column
  · intro os ps agree
    apply List.rel_filterMap ?_ agree
    intro o p agrees
    exact agrees

theorem membersOf_eq {os ps : List ModelObject} {t u : ModelObject} (agree : List.Forall₂ ModelObject.Agrees os ps)
    (tables : t.Agrees u) : membersOf os t = membersOf ps u := by
  rw [membersOf, membersOf, ModelObject.length_owned_eq agree, tables.table]

theorem agrees_withCounts {columns columns' measures measures' : List ModelObject} {t u : ModelObject}
    (columnsAgree : List.Forall₂ ModelObject.Agrees columns columns')
    (measuresAgree : List.Forall₂ ModelObject.Agrees measures measures') (agrees : t.Agrees u) :
    (withCounts columns measures t).Agrees (withCounts columns' measures' u) := by
  refine ⟨agrees.name, agrees.kind, agrees.expression, agrees.table, ?_⟩
  rw [withCounts, withCounts, membersOf_eq columnsAgree agrees, membersOf_eq measuresAgree agrees]
  exact (agrees.properties.putIfAbsent _ _).putIfAbsent _ _

theorem alike_objects (same : Respelled v v') : Alike (List.Forall₂ ModelObject.Agrees) (objects v) (objects v') := by
  cases same with
  | kept => exact Alike.refl (fun os => List.forall₂_same.2 fun o _ => .refl o) _
  | keys same =>
      have respelled := respelled_ofEntries same
      rw [objects, objects, Bag.ofValue, Bag.ofValue]
      change Alike _ (records (Bag.ofEntries _) "tables" >>= _) (records (Bag.ofEntries _) "tables" >>= _)
      apply (alike_records respelled (by decide)).bind
      intro tables tables' sameTables
      -- Nested records are values of table records, so they are the same on both sides.
      rw [ofTables_eq sameTables]
      apply Alike.bind (Alike.refl (fun _ => rfl) _)
      rintro nested _ rfl
      apply (Alike.mapM sameTables fun _ _ => alike_readTable).bind
      intro ts ts' tablesAgree
      apply (alike_records respelled (by decide)).bind
      intro rawColumns rawColumns' sameColumns
      apply (alike_readColumns (List.rel_append sameColumns (forall₂_kept nested.columns))).bind
      intro columns columns' columnsAgree
      apply (alike_records respelled (by decide)).bind
      intro rawMeasures rawMeasures' sameMeasures
      apply (Alike.mapM (List.rel_append sameMeasures (forall₂_kept nested.measures)) fun _ _ => alike_readMeasure).bind
      intro measures measures' measuresAgree
      apply (alike_records respelled (by decide)).bind
      intro rawRelationships rawRelationships' sameRelationships
      apply (Alike.mapM sameRelationships fun _ _ => alike_readRelationship).bind
      intro relationships relationships' relationshipsAgree
      apply (alike_readModel (respelled.get "model" (.kept _ _))).bind
      intro model model' modelAgrees
      have counted : List.Forall₂ ModelObject.Agrees (ts.map (withCounts columns measures))
          (ts'.map (withCounts columns' measures')) := by
        apply List.rel_map ?_ tablesAgree
        intro t u
        exact agrees_withCounts columnsAgree measuresAgree
      have before := List.rel_append (List.rel_append (List.Forall₂.cons modelAgrees counted) columnsAgree) measuresAgree
      exact .ok (List.rel_append before relationshipsAgree)

end Snapshot

end TabularAudit
