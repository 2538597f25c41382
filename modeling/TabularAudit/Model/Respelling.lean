import Mathlib.Data.List.Forall2
import TabularAudit.Model.Snapshot

/-!
Snapshots that differ in the spelling of their keys, and objects that no look-up tells apart.
-/

namespace TabularAudit

def Text.SameLetters (s t : String) : Prop := s.toList.map Char.toLower = t.toList.map Char.toLower

namespace Record

/-- A key in other letters; one without margin and brackets may also be put in brackets. -/
inductive RespelledKey : String → String → Prop
  | letters {k j : String} (same : Text.SameLetters k j) : RespelledKey k j
  | bracketed {k j : String} (plain : fieldName k = k) (same : Text.SameLetters k j) :
      RespelledKey k ("[" ++ j ++ "]")

inductive Respelled : Value → Value → Prop
  | kept (v : Value) : Respelled v v
  | keys {es es' : Entries} (same : List.Forall₂ (fun e e' => RespelledKey e.1 e'.1 ∧ e.2 = e'.2) es es') :
      Respelled (.map es) (.map es')

end Record

namespace Snapshot

def recordSections : List String := ["tables", "columns", "measures", "relationships"]

inductive RespelledSection : String → Value → Value → Prop
  | kept (name : String) (v : Value) : RespelledSection name v v
  | model {v v' : Value} (same : Record.Respelled v v') : RespelledSection "model" v v'
  | records {name : String} {vs vs' : List Value} (named : name ∈ recordSections)
      (same : List.Forall₂ Record.Respelled vs vs') : RespelledSection name (.list vs) (.list vs')

/-- Snapshots with the same values in the same order, down to the values of their records. -/
inductive Respelled : Value → Value → Prop
  | kept (v : Value) : Respelled v v
  | keys {es es' : Entries} (same : List.Forall₂ (fun e e' =>
      Text.SameLetters e.1 e'.1 ∧ RespelledSection (Bag.fold e.1) e.2 e'.2) es es') : Respelled (.map es) (.map es')

end Snapshot

inductive Alike {α β : Type} (R : α → β → Prop) : Except Fault α → Except Fault β → Prop
  | ok {a : α} {b : β} (related : R a b) : Alike R (.ok a) (.ok b)
  | error (fault : Fault) : Alike R (.error fault) (.error fault)

def Bag.Agrees (b c : Bag) : Prop := ∀ name, b.find? name = c.find? name

structure ModelObject.Agrees (o p : ModelObject) : Prop where
  name : o.name = p.name
  kind : o.kind = p.kind
  expression : o.expression = p.expression
  table : o.table = p.table
  properties : o.properties.Agrees p.properties

end TabularAudit
