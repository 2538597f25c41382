import TabularAudit.Proofs.Respelling.Letters

/-!
Records under respelled keys give objects that agree. Every step of reading a record looks properties up by name,
so each keeps the agreement of two bags.
-/

namespace TabularAudit

namespace Alike

variable {α β γ δ : Type} {R : α → β → Prop} {S : γ → δ → Prop} {x : Except Fault α} {y : Except Fault β}

theorem refl {R : α → α → Prop} (same : ∀ a, R a a) (x : Except Fault α) : Alike R x x := by
  cases x with
  | error fault => exact .error fault
  | ok a => exact .ok (same a)

theorem bind {f : α → Except Fault γ} {g : β → Except Fault δ} (alike : Alike R x y)
    (next : ∀ a b, R a b → Alike S (f a) (g b)) : Alike S (x >>= f) (y >>= g) := by
  cases alike with
  | error fault => exact .error fault
  | ok related => exact next _ _ related

theorem map {f : α → γ} {g : β → δ} (alike : Alike R x y) (next : ∀ a b, R a b → S (f a) (g b)) :
    Alike S (x.map f) (y.map g) := by
  cases alike with
  | error fault => exact .error fault
  | ok related => exact .ok (next _ _ related)

theorem mapM {f : α → Except Fault γ} {g : β → Except Fault δ} {as : List α} {bs : List β}
    (related : List.Forall₂ R as bs) (next : ∀ a b, R a b → Alike S (f a) (g b)) :
    Alike (List.Forall₂ S) (as.mapM f) (bs.mapM g) := by
  induction related with
  | nil => exact .ok .nil
  | cons head tail ih =>
      rw [List.mapM_cons, List.mapM_cons]
      apply bind (next _ _ head)
      intro c d first
      apply bind ih
      intro cs ds rest
      exact .ok (.cons first rest)

end Alike

namespace Bag

variable {b c b' c' : Bag}

theorem Agrees.refl (b : Bag) : b.Agrees b := fun _ => rfl

theorem Agrees.find?_eq (same : b.Agrees c) : b.find? = c.find? := funext same

theorem Agrees.get_eq (same : b.Agrees c) : b.get = c.get := by
  funext name
  rw [get, get, same]

theorem Agrees.put {k j : String} (same : b.Agrees c) (names : fold k = fold j) (v : Value) :
    (b.put k v).Agrees (c.put j v) := by
  intro name
  rw [find?_put, find?_put, names, same]

theorem Agrees.putIfAbsent (same : b.Agrees c) (name : String) (v : Value) :
    (b.putIfAbsent name v).Agrees (c.putIfAbsent name v) := by
  rw [Bag.putIfAbsent, Bag.putIfAbsent, contains, contains, same]
  split
  · exact same
  · exact same.put rfl v

end Bag

namespace Record

variable {b c b' c' : Bag}

theorem agrees_ofEntries {es es' : Entries} (same : List.Forall₂ (fun e e' => RespelledKey e.1 e'.1 ∧ e.2 = e'.2) es es') :
    (ofEntries es).Agrees (ofEntries es') := by
  suffices general : ∀ b c : Bag, b.Agrees c →
      (es.foldl (fun b e => b.put (fieldName e.1) e.2) b).Agrees (es'.foldl (fun b e => b.put (fieldName e.1) e.2) c) from
    general _ _ (Bag.Agrees.refl Bag.empty)
  induction same with
  | nil => exact fun b c agrees => agrees
  | cons head tail ih =>
      intro b c agrees
      rw [List.foldl_cons, List.foldl_cons, head.2]
      exact ih _ _ (agrees.put (fold_fieldName_of_respelledKey head.1) _)

theorem alike_ofValue {v v' : Value} (same : Respelled v v') : Alike Bag.Agrees (ofValue v) (ofValue v') := by
  cases same with
  | kept => exact Alike.refl Bag.Agrees.refl _
  | keys same => exact .ok (agrees_ofEntries same)

theorem firstGiven_eq (same : b.Agrees c) : firstGiven b = firstGiven c := by
  funext names
  induction names with
  | nil => rfl
  | cons name names ih => rw [firstGiven, firstGiven, same.get_eq, ih]

theorem firstText_eq (same : b.Agrees c) : firstText b = firstText c := by
  funext names
  rw [firstText, firstText, firstGiven_eq same]

theorem agrees_identified (same : b.Agrees c) (name : String) (kind : Kind) :
    (identified b name kind).Agrees (identified c name kind) :=
  (same.put rfl _).put rfl _

theorem agrees_owned (same : b.Agrees c) (table : Option String) : (owned b table).Agrees (owned c table) := by
  cases table with
  | none => exact same
  | some name => exact same.put rfl _

theorem agrees_shown (same : b.Agrees c) : (shown b).Agrees (shown c) := same.putIfAbsent _ _

theorem alike_decoded (same : b.Agrees c) (codes : Codes) (name : String) (v : Option Value) :
    Alike Bag.Agrees (decoded b codes name v) (decoded c codes name v) := by
  cases v with
  | none => exact .ok same
  | some v =>
      apply Alike.map (Alike.refl (fun _ => rfl) (decode codes v))
      rintro w _ rfl
      exact same.put rfl w

theorem agrees_named {kind : Kind} (same : b.Agrees c) (name : String) (expression table : Option String) :
    (ModelObject.named name kind b expression table).Agrees (ModelObject.named name kind c expression table) :=
  ⟨rfl, rfl, rfl, rfl, same⟩

theorem agrees_model (same : b.Agrees c) : (model b).Agrees (model c) := by
  rw [model, model, firstGiven_eq same]
  exact agrees_named (agrees_identified same _ _) _ _ _

theorem isCalculated_eq (same : b.Agrees c) : isCalculated b = isCalculated c := by
  have source : sourceType b = sourceType c := by rw [sourceType, sourceType, firstGiven_eq same]
  funext name
  rw [isCalculated, isCalculated, source, same.get_eq, firstGiven_eq same]

theorem agrees_table (same : b.Agrees c) : (table b).Agrees (table c) := by
  rw [table, table, firstText_eq same, isCalculated_eq same]
  exact agrees_named (agrees_shown (agrees_identified same _ _)) _ _ _

theorem agrees_measure (same : b.Agrees c) : (measure b).Agrees (measure c) := by
  rw [measure, measure, firstText_eq same]
  exact agrees_named (agrees_shown (agrees_owned (agrees_identified same _ _) _)) _ _ _

theorem alike_column (same : b.Agrees c) : Alike (Option.Rel ModelObject.Agrees) (column b) (column c) := by
  have type : columnType b = columnType c := by rw [columnType, columnType, firstGiven_eq same]
  rw [column, column, type, firstText_eq same, firstGiven_eq same]
  apply Alike.bind (Alike.refl (fun _ => rfl) (columnType c))
  rintro type _ rfl
  split
  · exact .ok .none
  · apply Alike.bind (alike_decoded same _ _ _)
    intro typed typed' agrees
    have stored := agrees.put (k := "Type") rfl
    exact .ok (.some (agrees_named (agrees_shown (agrees_owned (agrees_identified (stored _) _ _) _)) _ _ _))

theorem agrees_withEnds (given : b'.Agrees c') (properties : List String) (same : b.Agrees c) :
    (properties.foldl (withEnd b') b).Agrees (properties.foldl (withEnd c') c) := by
  induction properties generalizing b c with
  | nil => exact same
  | cons property properties ih =>
      have value : endValue b' property = endValue c' property := by
        rw [endValue, endValue, firstGiven_eq given]
      apply ih
      rw [withEnd, withEnd, value]
      split
      · exact same.put rfl _
      · exact same

theorem relationshipName_eq (same : b.Agrees c) : relationshipName b = relationshipName c := by
  have ends : endNames b = endNames c := by
    funext side
    simp only [endNames, endValue, firstGiven_eq same]
  rw [relationshipName, relationshipName, ends, firstText_eq same]

theorem alike_relationship (same : b.Agrees c) : Alike ModelObject.Agrees (relationship b) (relationship c) := by
  rw [relationship, relationship, firstGiven_eq (agrees_withEnds same endProperties same), relationshipName_eq same]
  apply Alike.bind (alike_decoded (agrees_withEnds same endProperties same) _ _ _)
  intro directed directed' agrees
  rw [agrees]
  apply Alike.bind (alike_decoded agrees _ _ _)
  intro half half' agrees
  rw [agrees]
  apply Alike.bind (alike_decoded agrees _ _ _)
  intro whole whole' agrees
  exact .ok (agrees_named (agrees_identified (agrees.putIfAbsent _ _) _ _) _ _ _)

end Record

end TabularAudit
