import Mathlib.Algebra.Ring.Nat
import Mathlib.Data.List.ProdSigma
import TabularAudit.Proofs.Census
import TabularAudit.Proofs.RelationshipUse
import TabularAudit.Proofs.Tally

/-!
The relationships of a table. A tally counts their ends, one by one, and a scan lists the relationships, each once:
a relationship of a table with itself is listed once and counted twice.
-/

namespace TabularAudit

section
variable {os rs : List ModelObject} {t r : ModelObject}

def ModelObject.touches (r : ModelObject) (t : ModelObject) (side : Side) : Bool :=
  (r.endpoint side).table == some t.shortName

def endsOnTable (rs : List ModelObject) (t : ModelObject) : List (ModelObject × Side) :=
  (rs ×ˢ Side.all).filter fun p => p.1.touches t p.2

def ownLoops (rs : List ModelObject) (t : ModelObject) : List ModelObject :=
  rs.filter fun r => Side.all.all (r.touches t)

/-- Of the ends of a relationship on a table, the first stands for its place in the list and the second for its going
back to the table. -/
theorem length_endsOnTable (rs : List ModelObject) (t : ModelObject) :
    (endsOnTable rs t).length = (rs.filter fun r => Side.all.any (r.touches t)).length + (ownLoops rs t).length := by
  simp only [endsOnTable, ownLoops, ← List.countP_eq_length_filter]
  induction rs with
  | nil => rfl
  | cons r rs ih =>
      have one : Side.all.countP (r.touches t) =
          (if Side.all.any (r.touches t) then 1 else 0) + (if Side.all.all (r.touches t) then 1 else 0) := by
        cases source : r.touches t .source <;> cases target : r.touches t .target <;>
          simp [Side.all, source, target]
      rw [List.product_cons, List.countP_append, List.countP_map, ih, List.countP_cons, List.countP_cons]
      change Side.all.countP (r.touches t) + _ = _
      omega

theorem length_ownLoops_le (rs : List ModelObject) (t : ModelObject) :
    (ownLoops rs t).length ≤ (rs.filter fun r => Side.all.any (r.touches t)).length := by
  apply List.Sublist.length_le
  apply List.monotone_filter_right
  intro r both
  exact List.any_eq_true.2 ⟨.source, by decide, List.all_eq_true.1 both .source (by decide)⟩

theorem ModelObject.shortName_ne_empty {o : ModelObject} (named : o.name ≠ "") : o.shortName ≠ "" := by
  rw [ModelObject.shortName, Value.orElse]
  split
  · rwa [Value.display_text]
  · next filled =>
    intro nothing
    rw [Value.display_eq_empty_iff.1 nothing] at filled
    exact filled rfl

theorem endsOn_eq_touches (named : r.HasNamedEnds) (table : t.kind.isTable = true) (side : Side) :
    r.endsOn side t = r.touches t side := by
  rw [Bool.eq_iff_iff, ModelObject.endsOn, if_pos table, (named side).1.names_iff, ModelObject.touches, beq_iff_eq]
  rfl

theorem relationshipsOf_table (named : ∀ r ∈ Index.ofKind os .relationship, r.HasNamedEnds)
    (table : t.kind.isTable = true) :
    (Index.ofObjects os).relationshipsOf t =
      (Index.ofKind os .relationship).filter fun r => Side.all.any (r.touches t) := by
  refine List.filter_congr fun r member => ?_
  have same : (fun side => r.endsOn side t) = r.touches t := funext (endsOn_eq_touches (named r member) table)
  rw [same]

theorem tableEnds_ofObjects (named : ∀ r ∈ Index.ofKind os .relationship, r.HasNamedEnds) :
    (Index.ofObjects os).tableEnds =
      Tally.ofList (((endpoints os).filter Endpoint.namesTable).map fun e => e.names.1) := by
  change Tally.ofList ((Index.namedEnds (Index.ofKind os .relationship)).map Prod.fst) = _
  rw [namedEnds_ofObjects named, List.map_map]
  rfl

theorem count_tableEnds (named : ∀ r ∈ Index.ofKind os .relationship, r.HasNamedEnds) (given : t.shortName ≠ "") :
    (Index.ofObjects os).tableEnds.count t.shortName = (endsOnTable (Index.ofKind os .relationship) t).length := by
  have same : ∀ e : Endpoint, (e.names.1 == t.shortName && e.namesTable) = (e.table == some t.shortName) := by
    rintro ⟨_ | s, column⟩
    · simp [Endpoint.namesTable]
    · by_cases equal : s = t.shortName
      · simp [Endpoint.names, Endpoint.namesTable, equal, given]
      · simp [Endpoint.names, Endpoint.namesTable, equal]
  rw [tableEnds_ofObjects named, Tally.count_ofList, List.count, List.countP_map, List.countP_filter, endpoints,
    endsOnTable, ← List.countP_eq_length_filter]
  simp only [Function.comp_apply, same]
  clear named
  generalize Index.ofKind os .relationship = rs
  induction rs with
  | nil => rfl
  | cons r rs ih =>
      rw [List.flatMap_cons, List.countP_append, List.product_cons, List.countP_append, ih, List.countP_map,
        List.countP_map]
      rfl

end

namespace Expr

def useCount : String := "UsedInRelationships.Count()"

theorem parse_useCount : parse useCount = .ok (uses "Count" []) := by
  refine (parse_ofList _).trans ?_
  with_unfolding_all rfl

theorem eval_useCount (o : ModelObject) (c : Index) :
    (eval (uses "Count" []) ⟨c, none⟩ (some o)).result = .ok (.int (usageCount c o)) := by
  have call : invocation (.name "UsedInRelationships" []) "Count" 0 = .size ["UsedInRelationships"] := by
    decide
  simp only [uses, eval, List.length_nil, call]
  rfl

end Expr

section
variable {os : List ModelObject}

theorem Snapshot.exists_relationship_records {snapshot : Value} (accepted : Snapshot.objects snapshot = .ok os) :
    ∃ records, Records.ofValue snapshot = .ok records ∧
      List.Forall₂ (fun record r => readRelationship record = .ok r) records.relationships
        (Index.ofKind os .relationship) := by
  rw [objects_eq] at accepted
  obtain ⟨s, found, rfl⟩ := exists_of_map_eq_ok accepted
  obtain ⟨records, recorded, areOf⟩ := areOf_records found
  have selected : Index.ofKind s.objects .relationship = s.relationships := by
    simpa [Index.ofKind] using filter_objects (areRead_of_sections found) (fun k => k = .relationship) rfl rfl
  exact ⟨records, recorded, selected ▸ areOf.relationships⟩

/-- The counter of a table, the count and the list in expressions, and the ends in the records of the snapshot agree. -/
theorem relationship_use_of_table {snapshot : Value} (accepted : Snapshot.objects snapshot = .ok os) :
    ∃ records rs, Snapshot.Records.ofValue snapshot = .ok records ∧
      List.Forall₂ (fun record r => Snapshot.readRelationship record = .ok r) records.relationships rs ∧
      (∀ t ∈ os, t.kind.isTable = true →
        (Index.ofObjects os).tableEnds.count t.shortName = (endsOnTable rs t).length ∧
        (Index.ofObjects os).relationshipsOf t = rs.filter (fun r => Side.all.any (r.touches t)) ∧
        (∃ node, Expr.parse Expr.useCount = .ok node ∧
          (Expr.eval node ⟨Index.ofObjects os, none⟩ (some t)).result =
            .ok (.int (((Index.ofObjects os).relationshipsOf t).length + (ownLoops rs t).length))) ∧
        (Expr.holds (.text Expr.anyUse) t (Index.ofObjects os) = true ↔ 0 < (endsOnTable rs t).length) ∧
        (Expr.holds (.text Expr.anyUseAtAll) t (Index.ofObjects os) = true ↔ 0 < (endsOnTable rs t).length)) ∧
      ((Index.ofObjects os).tableEnds.map Prod.fst).Nodup ∧
      (((Index.ofObjects os).tableEnds.map Prod.fst).map (Index.ofObjects os).tableEnds.count).sum =
        ((endpoints os).filter Endpoint.namesTable).length := by
  have named := hasNamedEnds_of_accepted accepted
  have counted : ∀ t ∈ os,
      (Index.ofObjects os).tableEnds.count t.shortName = (endsOnTable (Index.ofKind os .relationship) t).length := by
    intro t member
    have labelled := Snapshot.isLabelled_of_accepted accepted member
    exact count_tableEnds named (ModelObject.shortName_ne_empty labelled.named)
  obtain ⟨records, recorded, inOrder⟩ := Snapshot.exists_relationship_records accepted
  refine ⟨records, _, recorded, inOrder, ?_, ?_⟩
  · intro t member table
    have listed := relationshipsOf_table named table
    have balance := length_endsOnTable (Index.ofKind os .relationship) t
    have used : Expr.usageCount (Index.ofObjects os) t = (endsOnTable (Index.ofKind os .relationship) t).length := by
      rw [Expr.usageCount, if_pos table, counted t member]
    refine ⟨counted t member, listed, ⟨_, Expr.parse_useCount, ?_⟩, ?_, ?_⟩
    · rw [Expr.eval_useCount, used, balance, listed]
      rfl
    · rw [Expr.holds_anyUse, Expr.isUsed, if_pos table, counted t member, decide_eq_true_iff]
    · have loops := length_ownLoops_le (Index.ofKind os .relationship) t
      rw [Expr.holds_anyUseAtAll, Bool.not_eq_true', ← Bool.not_eq_true, List.isEmpty_iff, ← List.length_eq_zero_iff,
        listed]
      omega
  · rw [tableEnds_ofObjects named]
    exact ⟨Tally.nodup_keys_ofList _, (Tally.sum_counts _).trans (List.length_map _)⟩

def selfReferring : Value :=
  .map [("tables", .list [.map [("Name", .text "Staff")]]),
    ("relationships", .list [
      .map [("FromTable", .text "Staff"), ("FromColumn", .text "Manager"), ("ToTable", .text "Staff"),
        ("ToColumn", .text "Id")],
      .map [("FromTable", .text "Gone"), ("ToTable", .text "Staff")], .map [("FromTable", .text "Gone")]])]

theorem relationship_use_of_staff :
    ∃ os t, Snapshot.objects selfReferring = .ok os ∧ t ∈ os ∧ t.kind.isTable = true ∧
      (Index.ofObjects os).tableEnds.count t.shortName = 3 ∧ ((Index.ofObjects os).relationshipsOf t).length = 2 ∧
      (∃ node, Expr.parse Expr.useCount = .ok node ∧
        (Expr.eval node ⟨Index.ofObjects os, none⟩ (some t)).result = .ok (.int 3)) ∧
      Expr.holds (.text Expr.anyUse) t (Index.ofObjects os) = true ∧
      Expr.holds (.text Expr.anyUseAtAll) t (Index.ofObjects os) = true ∧
      (((Index.ofObjects os).tableEnds.map Prod.fst).map (Index.ofObjects os).tableEnds.count).sum = 5 := by
  obtain ⟨os, accepted, t, member, checked⟩ :=
    exists_of_accepted selfReferring
      (fun os t => t.kind.isTable && (Index.ofObjects os).tableEnds.count t.shortName == 3 &&
        ((Index.ofObjects os).relationshipsOf t).length == 2 && ((endpoints os).filter Endpoint.namesTable).length == 5)
      (by decide +kernel)
  simp only [Bool.and_eq_true, beq_iff_eq] at checked
  obtain ⟨⟨⟨table, three⟩, two⟩, five⟩ := checked
  obtain ⟨records, rs, -, -, tables, -, total⟩ := relationship_use_of_table accepted
  obtain ⟨counted, listed, ⟨node, parsed, value⟩, any, anyAtAll⟩ := tables t member table
  have ends : (endsOnTable rs t).length = 3 := counted.symm.trans three
  have loops : ((Index.ofObjects os).relationshipsOf t).length + (ownLoops rs t).length = 3 := by
    rw [listed, ← length_endsOnTable, ends]
  refine ⟨os, t, accepted, member, table, three, two, ⟨node, parsed, ?_⟩, any.2 (by omega), anyAtAll.2 (by omega),
    total.trans five⟩
  rw [value, ← Int.natCast_add, loops]
  rfl

end

end TabularAudit
