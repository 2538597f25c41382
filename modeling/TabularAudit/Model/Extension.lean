import TabularAudit.Model.Index

/-! Models that grow by tables of a name that nothing in them mentions. -/

namespace TabularAudit

def ModelObject.IsPartOf (o : ModelObject) (name : String) : Prop :=
  o.kind.isTable = true ∧ o.shortName = name ∨
    (o.kind.isColumn = true ∨ o.kind = .measure) ∧ o.table = some name

/-- The second list is the first, in its order, with parts of tables of that name put in. -/
inductive Extends (name : String) : List ModelObject → List ModelObject → Prop
  | nil : Extends name [] []
  | kept {os ps : List ModelObject} (o : ModelObject) (grown : Extends name os ps) : Extends name (o :: os) (o :: ps)
  | added {os ps : List ModelObject} {o : ModelObject} (part : o.IsPartOf name) (grown : Extends name os ps) :
      Extends name os (o :: ps)

/-- No object is a table of that name, lies in one or leads to one. -/
structure Unmentioned (name : String) (objects : List ModelObject) : Prop where
  table : ∀ o ∈ objects, o.kind.isTable = true → o.shortName ≠ name
  owner : ∀ o ∈ objects, o.table ≠ some name
  ends : ∀ r ∈ objects, r.kind = .relationship → ∀ side, ((r.endTable side).orElse (.text "")).display ≠ name

end TabularAudit
