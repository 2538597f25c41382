import TabularAudit.Model.Extension
import TabularAudit.Proofs.Expr.Lookup

/-! What a model does not mention changes no verdict about its objects. -/

namespace TabularAudit

section
variable {name : String} {os ps : List ModelObject} {o : ModelObject}

namespace ModelObject.IsPartOf

theorem kind_ne_relationship (part : o.IsPartOf name) : o.kind ≠ .relationship := by
  intro kind
  simp [IsPartOf, kind, Kind.isTable, Kind.isColumn] at part

theorem shortName (part : o.IsPartOf name) (table : o.kind.isTable = true) : o.shortName = name := by
  rcases part with ⟨-, named⟩ | ⟨column | kind, -⟩
  · exact named
  · cases kind : o.kind <;> simp [Kind.isTable, Kind.isColumn, kind] at table column
  · simp [Kind.isTable, kind] at table

theorem table (part : o.IsPartOf name) (below : o.kind.isTable = false) : o.table = some name := by
  rcases part with ⟨table, -⟩ | ⟨-, owner⟩
  · rw [below] at table
    cases table
  · exact owner

end ModelObject.IsPartOf

theorem Extends.filter_eq (grown : Extends name os ps) {p : ModelObject → Bool}
    (unseen : ∀ o, o.IsPartOf name → p o = false) : os.filter p = ps.filter p := by
  induction grown with
  | nil => rfl
  | kept o grown ih => rw [List.filter_cons, List.filter_cons, ih]
  | added part grown ih => rw [List.filter_cons_of_neg (by simp [unseen _ part]), ih]

theorem Extends.agreeOn (grown : Extends name os ps) :
    Index.AgreeOn (· ≠ name) (Index.ofObjects os) (Index.ofObjects ps) := by
  have relationships : Index.ofKind os .relationship = Index.ofKind ps .relationship := by
    apply grown.filter_eq
    intro o part
    simpa using part.kind_ne_relationship
  have notTable : ∀ o : ModelObject, (o.kind.isColumn = true ∨ o.kind = .measure) → o.kind.isTable = false := by
    rintro o below
    cases kind : o.kind <;> simp [Kind.isTable, Kind.isColumn, kind] at below ⊢
  have unowned : ∀ (kinds : Kind → Bool) {other : String}, (∀ k, kinds k = true → k.isColumn = true ∨ k = .measure) →
      other ≠ name → ((os.filter fun o => kinds o.kind).filter fun m => m.table = some other) =
        (ps.filter fun o => kinds o.kind).filter fun m => m.table = some other := by
    intro kinds other below differ
    rw [List.filter_filter, List.filter_filter]
    apply grown.filter_eq
    intro o part
    by_cases kind : kinds o.kind = true
    · simp [part.table (notTable o (below _ kind)), Ne.symm differ]
    · simp [kind]
  exact {
    relationships
    tableEnds := by simp only [Index.ofObjects, relationships]
    columnEnds := by simp only [Index.ofObjects, relationships]
    table? := by
      intro other differ
      rw [Index.table?_ofObjects, Index.table?_ofObjects]
      refine congrArg List.getLast? (grown.filter_eq ?_)
      intro o part
      by_cases table : o.kind.isTable = true
      · simp [table, part.shortName table, Ne.symm differ]
      · simp [table]
    column? := by
      intro table differ column
      rw [Index.column?_ofObjects, Index.column?_ofObjects]
      refine congrArg List.head? (grown.filter_eq ?_)
      intro o part
      by_cases kind : o.kind.isColumn = true
      · have elsewhere : table.names (some name) = false := by
          rw [Bool.eq_false_iff]
          intro names
          apply differ
          rw [Value.eq_text_of_names names, Value.display_orElse_text]
        rw [part.table (notTable o (.inl kind)), elsewhere]
        simp
      · simp [kind]
    columns := by
      intro other differ
      refine congrArg List.length (unowned Kind.isColumn ?_ differ)
      exact fun k column => .inl column
    measures := by
      intro other differ
      refine congrArg List.length (unowned (· = .measure) ?_ differ)
      exact fun k measure => .inr (of_decide_eq_true measure) }

theorem Unmentioned.mentions (unmentioned : Unmentioned name os) (given : name ≠ "") : Index.Mentions (· ≠ name) os where
  table := unmentioned.table
  owner o member := by
    cases owner : o.table with
    | none => exact Ne.symm given
    | some table =>
        intro same
        exact unmentioned.owner o member (owner.trans (congrArg some same))
  ends := unmentioned.ends

/-- Tables that a model does not mention, with their columns and measures, change no verdict about its objects. -/
theorem Expr.judge_eq_of_extends (given : name ≠ "") (unmentioned : Unmentioned name os) (grown : Extends name os ps)
    (member : o ∈ os) (expression : Value) :
    judge expression (some o) ⟨Index.ofObjects ps, none⟩ = judge expression (some o) ⟨Index.ofObjects os, none⟩ := by
  have similar := grown.agreeOn.similar (unmentioned.mentions given)
  exact (judge_eq similar ⟨rfl, member⟩ expression).symm

theorem Expr.judge_eq_of_calendar :
    let sales : ModelObject := ⟨"Sales", .table, {}, none, none⟩
    let calendar : ModelObject := ⟨"Date", .calculatedTable, {}, none, none⟩
    let day : ModelObject := ⟨"Day", .dataColumn, {}, none, some "Date"⟩
    Unmentioned "Date" [sales] ∧ Extends "Date" [sales] [calendar, sales, day] ∧
      judge (.text "Columns.Count() = 0") (some sales) ⟨Index.ofObjects [calendar, sales, day], none⟩ =
        judge (.text "Columns.Count() = 0") (some sales) ⟨Index.ofObjects [sales], none⟩ := by
  intro sales calendar day
  have unmentioned : Unmentioned "Date" [sales] := by
    constructor <;> intro o member <;> obtain rfl := List.mem_singleton.1 member
    · intro table
      decide
    · nofun
    · nofun
  have grown : Extends "Date" [sales] [calendar, sales, day] :=
    .added (.inl ⟨rfl, by decide⟩) (.kept sales (.added (.inr ⟨.inl rfl, rfl⟩) .nil))
  exact ⟨unmentioned, grown, judge_eq_of_extends (by decide) unmentioned grown (by simp) _⟩

end

end TabularAudit
