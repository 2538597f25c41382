import Mathlib.Data.List.Perm.Basic
import TabularAudit.Model.Reordering
import TabularAudit.Proofs.Expr.Lookup
import TabularAudit.Proofs.Expr.Truth
import TabularAudit.Proofs.RelationshipUse

/-!
Relationships in another order. Look-ups and counts do not see it. A scan stops at the first relationship that the
predicate holds on, and a fault ends the whole expression, so that only a fault can tell two orders apart.
-/

namespace TabularAudit

section
variable {os ps : List ModelObject}

namespace Relinked

theorem exists_of_perm {rs : List ModelObject} (moved : (Index.ofKind os .relationship).Perm rs) :
    ∃ ps, Relinked os ps ∧ Index.ofKind ps .relationship = rs := by
  have links : ∀ r ∈ rs, r.kind = .relationship := fun r member => by
    simpa using (List.mem_filter.1 (moved.mem_iff.2 member)).2
  have kept : rs.filter (fun o => o.kind ≠ .relationship) = [] :=
    List.filter_eq_nil_iff.2 fun r member => by simp [links r member]
  have others : (os.filter fun o => o.kind ≠ .relationship).filter (fun o => o.kind = .relationship) = [] := by
    rw [List.filter_filter]
    exact List.filter_eq_nil_iff.2 fun o _ => by simp
  have last : Index.ofKind (os.filter (fun o => o.kind ≠ .relationship) ++ rs) .relationship = rs := by
    rw [Index.ofKind, List.filter_append, others, List.nil_append]
    exact List.filter_eq_self.2 fun r member => decide_eq_true (links r member)
  refine ⟨_, ⟨?_, ?_⟩, last⟩
  · rw [List.filter_append, kept, List.append_nil, List.filter_filter]
    simp only [Bool.and_self]
  · rw [last]
    exact moved

theorem exists_first {o r : ModelObject} (member : r ∈ (Index.ofObjects os).relationshipsOf o) :
    ∃ ps after, Relinked os ps ∧ (Index.ofObjects ps).relationshipsOf o = r :: after := by
  obtain ⟨inside, touching⟩ := List.mem_filter.1 member
  obtain ⟨before, after, split⟩ := List.append_of_mem inside
  have moved : (Index.ofKind os .relationship).Perm (r :: (before ++ after)) :=
    (List.Perm.of_eq split).trans List.perm_middle
  obtain ⟨ps, relinked, ordered⟩ := exists_of_perm moved
  refine ⟨ps, (before ++ after).filter fun q => Side.all.any fun side => q.endsOn side o, relinked, ?_⟩
  change (Index.ofKind ps .relationship).filter _ = _
  rw [ordered, List.filter_cons, if_pos touching]

theorem filter_eq (relinked : Relinked os ps) {p : ModelObject → Bool}
    (other : ∀ o, p o = true → o.kind ≠ .relationship) : os.filter p = ps.filter p := by
  have same : ∀ qs : List ModelObject, (qs.filter fun o => o.kind ≠ .relationship).filter p = qs.filter p := by
    intro qs
    rw [List.filter_filter]
    refine List.filter_congr fun o _ => ?_
    cases chosen : p o with
    | false => rfl
    | true => simpa using other o chosen
  rw [← same os, ← same ps, relinked.others]

theorem namedEnds (relinked : Relinked os ps) :
    (Index.namedEnds (Index.ofKind os .relationship)).Perm (Index.namedEnds (Index.ofKind ps .relationship)) :=
  relinked.relationships.flatMap_right _

theorem tables (relinked : Relinked os ps) : (Index.ofObjects os).tables = (Index.ofObjects ps).tables :=
  relinked.filter_eq fun o table relationship => by simp [relationship, Kind.isTable] at table

theorem columns (relinked : Relinked os ps) : (Index.ofObjects os).columns = (Index.ofObjects ps).columns :=
  relinked.filter_eq fun o column relationship => by simp [relationship, Kind.isColumn] at column

theorem measures (relinked : Relinked os ps) : (Index.ofObjects os).measures = (Index.ofObjects ps).measures :=
  relinked.filter_eq fun o measure relationship => by simp [relationship] at measure

theorem table?_eq (relinked : Relinked os ps) : (Index.ofObjects os).table? = (Index.ofObjects ps).table? := by
  have named : (Index.ofObjects os).tablesByName = (Index.ofObjects ps).tablesByName :=
    congrArg (List.foldl indexTable []) relinked.tables
  funext name
  rw [Index.table?, Index.table?, named]

theorem column?_eq (relinked : Relinked os ps) : (Index.ofObjects os).column? = (Index.ofObjects ps).column? := by
  funext table name
  rw [Index.column?, Index.column?, relinked.columns]

theorem relationshipsOf (relinked : Relinked os ps) (o : ModelObject) :
    ((Index.ofObjects os).relationshipsOf o).Perm ((Index.ofObjects ps).relationshipsOf o) :=
  relinked.relationships.filter _

end Relinked

end

namespace Tally

variable {xs ys : List String}

theorem count_eq_of_perm (moved : xs.Perm ys) : (ofList xs).count = (ofList ys).count := by
  funext k
  rw [count_ofList, count_ofList, moved.count_eq]

theorem any_eq_of_perm (moved : xs.Perm ys) (k : String) :
    (ofList xs).any (fun e => e.1 == k) = (ofList ys).any fun e => e.1 == k := by
  rw [any_ofList, any_ofList, moved.any_eq]

end Tally

namespace Relinked

variable {os ps : List ModelObject}

theorem tableEnds (relinked : Relinked os ps) :
    (Index.ofObjects os).tableEnds.count = (Index.ofObjects ps).tableEnds.count :=
  Tally.count_eq_of_perm (relinked.namedEnds.map _)

theorem columnEnds (relinked : Relinked os ps) :
    (Index.ofObjects os).columnEnds.count = (Index.ofObjects ps).columnEnds.count :=
  Tally.count_eq_of_perm (relinked.namedEnds.map _)

theorem columnInRelationships (relinked : Relinked os ps) :
    (Index.ofObjects os).columnInRelationships = (Index.ofObjects ps).columnInRelationships :=
  funext (Tally.any_eq_of_perm (relinked.namedEnds.map _))

theorem rel_self (x : Option ModelObject) : Option.Rel Eq x x := by
  cases x with
  | none => exact .none
  | some o => exact .some rfl

/-- Look-ups do not see the order of the relationships, and counts are those of a multiset. -/
theorem matches_index (relinked : Relinked os ps) : (Index.ofObjects os).Matches Eq (Index.ofObjects ps) where
  agrees := by
    rintro o _ rfl
    exact ⟨rfl, rfl, rfl, rfl, fun name => rfl⟩
  usageCount := by
    rintro o _ rfl
    rw [Expr.usageCount, Expr.usageCount, relinked.tableEnds, relinked.columnEnds]
  isUsed := by
    rintro o _ rfl
    rw [Expr.isUsed, Expr.isUsed, relinked.tableEnds, relinked.columnInRelationships]
  owner := by
    rintro o _ rfl
    rw [relinked.table?_eq]
    exact rel_self _
  ends := by
    rintro r _ rfl - name
    have same : Expr.endObject? (Index.ofObjects os) r name = Expr.endObject? (Index.ofObjects ps) r name := by
      rw [Expr.endObject?.eq_def, Expr.endObject?.eq_def, relinked.table?_eq, relinked.column?_eq]
    rw [same]
    exact rel_self _
  members := by
    rintro o _ rfl name
    rw [Expr.members?, Expr.members?, relinked.columns, relinked.measures]

end Relinked

namespace Expr

/-- Whether a fault has ended the expression. A construct without a meaning does not end it. -/
def endsInFault {α : Type} : Except Fault α → Bool
  | .ok _ | .error (.unsupported _) => false
  | .error _ => true

/-- Two results that are equal unless a fault has ended one of them. -/
def Concordant {α : Type} (x y : Except Fault α) : Prop :=
  endsInFault x = false → endsInFault y = false → x = y

namespace Concordant

variable {α β : Type}

theorem refl (x : Except Fault α) : Concordant x x := fun _ _ => rfl

theorem eq_of_ok {x y : Except Fault α} {a b : α} (concordant : Concordant x y) (first : x = .ok a)
    (second : y = .ok b) : a = b := by
  subst first second
  exact Except.ok.inj (concordant rfl rfl)

theorem of_bind {x : Except Fault α} {f : α → Except Fault β} (settled : endsInFault (x >>= f) = false) :
    endsInFault x = false := by
  cases x with
  | ok a => rfl
  | error fault =>
      cases fault with
      | unsupported reason => rfl
      | _ => cases settled

theorem bind {x y : Traced α} {f g : α → Traced β} (first : Concordant x.result y.result)
    (next : ∀ a, Concordant (f a).result (g a).result) : Concordant (x >>= f).result (y >>= g).result := by
  rw [Traced.result_bind, Traced.result_bind]
  intro settled settled'
  have same := first (of_bind settled) (of_bind settled')
  rw [same] at settled ⊢
  cases found : y.result with
  | error fault => rfl
  | ok a =>
      rw [found] at settled settled'
      exact next a settled settled'

theorem verdict {x y : Traced Value} (values : Concordant x.result y.result) (obj : Option ModelObject) :
    Concordant (verdict obj x).result (verdict obj y).result := by
  have first : ∀ z : Traced Value, endsInFault (Expr.verdict obj z).result = false → endsInFault z.result = false := by
    rintro ⟨result, log⟩ settled
    cases result with
    | ok v => rfl
    | error fault =>
        cases fault with
        | unsupported reason => rfl
        | _ => cases obj <;> cases settled
  intro settled settled'
  have same := values (first x settled) (first y settled')
  obtain ⟨result, log⟩ := x
  obtain ⟨result', log'⟩ := y
  cases same
  cases result with
  | ok v => rfl
  | error fault => cases fault <;> cases obj <;> rfl

end Concordant

section
variable {test : ModelObject → Traced Bool} {rs : List ModelObject}

theorem result_any_eq_true_iff : (Traced.any test rs).result = .ok true ↔
    ∃ before r after, rs = before ++ r :: after ∧ (test r).result = .ok true ∧
      ∀ q ∈ before, (test q).result = .ok false := by
  induction rs with
  | nil =>
      constructor
      · intro found
        cases found
      · rintro ⟨before, r, after, split, -⟩
        simp at split
  | cons head rs ih =>
      rw [Traced.any, Traced.result_bind]
      cases first : (test head).result with
      | error fault =>
          constructor
          · intro found
            cases found
          · rintro ⟨_ | ⟨q, before⟩, r, after, split, found, passed⟩
            · cases split
              cases first.symm.trans found
            · cases split
              cases first.symm.trans (passed head List.mem_cons_self)
      | ok b =>
          cases b with
          | true => exact ⟨fun _ => ⟨[], head, rs, rfl, first, List.forall_mem_nil _⟩, fun _ => rfl⟩
          | false =>
              refine ih.trans ⟨?_, ?_⟩
              · rintro ⟨before, r, after, rfl, found, passed⟩
                exact ⟨head :: before, r, after, rfl, found, List.forall_mem_cons.2 ⟨first, passed⟩⟩
              · rintro ⟨_ | ⟨q, before⟩, r, after, split, found, passed⟩
                · cases split
                  cases first.symm.trans found
                · cases split
                  exact ⟨before, r, after, rfl, found, (List.forall_mem_cons.1 passed).2⟩

theorem result_any_eq_false_iff :
    (Traced.any test rs).result = .ok false ↔ ∀ r ∈ rs, (test r).result = .ok false := by
  induction rs with
  | nil => exact iff_of_true rfl (List.forall_mem_nil _)
  | cons head rs ih =>
      rw [Traced.any, Traced.result_bind, List.forall_mem_cons]
      cases (test head).result with
      | error fault => exact iff_of_false (by simp [Bind.bind, Except.bind]) (by simp)
      | ok b =>
          cases b with
          | true => exact iff_of_false (by simp [Bind.bind, Except.bind, Traced.result_pure]) (by simp)
          | false => exact ih.trans ⟨fun passed => ⟨rfl, passed⟩, And.right⟩

theorem eq_ok_of_settled {x : Except Fault Bool} (supported : ∀ reason, x ≠ .error (.unsupported reason))
    (settled : endsInFault x = false) : ∃ b, x = .ok b := by
  cases x with
  | ok b => exact ⟨b, rfl⟩
  | error fault =>
      cases fault with
      | unsupported reason => exact absurd rfl (supported reason)
      | _ => cases settled

theorem Concordant.any {test' : ModelObject → Traced Bool} {rs' : List ModelObject} (moved : rs.Perm rs')
    (same : ∀ r, Concordant (test r).result (test' r).result)
    (supported : ∀ r reason, (test r).result ≠ .error (.unsupported reason))
    (supported' : ∀ r reason, (test' r).result ≠ .error (.unsupported reason)) :
    Concordant (Traced.any test rs).result (Traced.any test' rs').result := by
  intro settled settled'
  obtain ⟨b, scanned⟩ := eq_ok_of_settled (any_supported supported rs) settled
  obtain ⟨b', scanned'⟩ := eq_ok_of_settled (any_supported supported' rs') settled'
  rw [scanned, scanned']
  match b, b' with
  | true, true | false, false => rfl
  | true, false =>
      obtain ⟨before, r, after, rfl, found, -⟩ := result_any_eq_true_iff.1 scanned
      have member : r ∈ rs' := moved.mem_iff.1 (List.mem_append_right _ List.mem_cons_self)
      exact congrArg Except.ok ((same r).eq_of_ok found (result_any_eq_false_iff.1 scanned' r member))
  | false, true =>
      obtain ⟨before, r, after, rfl, found, -⟩ := result_any_eq_true_iff.1 scanned'
      have member : r ∈ rs := moved.mem_iff.2 (List.mem_append_right _ List.mem_cons_self)
      exact congrArg Except.ok ((same r).eq_of_ok (result_any_eq_false_iff.1 scanned r member) found)

end

structure Env.Relinked (env env' : Env) : Prop extends env.Matches Eq env' where
  relationships : env.index.relationships.Perm env'.index.relationships

theorem Env.Relinked.withCurrent {env env' : Env} (relinked : env.Relinked env') (o : ModelObject) :
    Env.Relinked { env with current := some ⟨currentName o, some o⟩ }
      { env' with current := some ⟨currentName o, some o⟩ } :=
  ⟨relinked.toMatches.withCurrent rfl, relinked.relationships⟩

section
variable {env env' : Env} {obj : Option ModelObject}

theorem denote_relinked (relinked : env.Relinked env') (obj : Option ModelObject) :
    denote env obj = denote env' obj := by
  funext head rest
  exact denote_eq relinked.toMatches (Relinked.rel_self obj) head rest

theorem sizeAt_relinked (relinked : env.Relinked env') (obj : Option ModelObject) :
    sizeAt env.index obj = sizeAt env'.index obj :=
  funext (sizeAt_eq relinked.index (Relinked.rel_self obj))

theorem hasMembers_relinked (relinked : env.Relinked env') (obj : Option ModelObject) :
    hasMembers env.index obj = hasMembers env'.index obj :=
  funext (hasMembers_eq relinked.index (Relinked.rel_self obj))

end

mutual

/-- An expression has one value in every order of the relationships, unless a fault ends it. -/
theorem eval_concordant : ∀ (node : Node) {env env' : Env} (obj : Option ModelObject), env.Relinked env' →
    Concordant (eval node env obj).result (eval node env' obj).result
  | .literal v, _, _, _, _ => by
      rw [eval, eval]
      exact .refl _
  | .name head rest, _, _, obj, relinked => by
      rw [eval, eval, denote_relinked relinked]
      exact .refl _
  | .member target name, _, _, obj, relinked => by
      rw [eval, eval]
      exact .bind (eval_concordant target obj relinked) fun v => .refl _
  | .function name args, _, _, obj, relinked => by
      rw [eval, eval]
      split
      · exact .bind (evalAll_concordant args obj relinked) fun vs => .refl _
      · exact .refl _
  | .method target name args, _, _, obj, relinked => by
      rw [eval, eval]
      cases invocation target name args.length with
      | pattern => exact .bind (evalAll_concordant args obj relinked) fun vs => .refl _
      | blank onlyEmpty => exact .bind (evalAll_concordant args obj relinked) fun vs => .refl _
      | size path =>
          simp only [sizeAt_relinked relinked]
          exact .refl _
      | inhabited path =>
          simp only [hasMembers_relinked relinked]
          exact .refl _
      | relationships =>
          refine .bind (.refl _) fun o => .bind ?_ fun found => .refl _
          exact holdsForAny_concordant args (relinked.relationships.filter _) (relinked.withCurrent o)
      | refused reason => exact .refl _
      | text =>
          refine .bind (eval_concordant target obj relinked) fun v => ?_
          exact .bind (evalAll_concordant args obj relinked) fun vs => .refl _
  | .comparison symbol left right, _, _, obj, relinked => by
      rw [eval, eval]
      refine .bind (eval_concordant left obj relinked) fun v => ?_
      exact .bind (eval_concordant right obj relinked) fun w => .refl _
  | .all operands, _, _, obj, relinked => by
      rw [eval, eval]
      exact .bind (allHold_concordant operands obj relinked) fun b => .refl _
  | .any operands, _, _, obj, relinked => by
      rw [eval, eval]
      exact .bind (anyHolds_concordant operands obj relinked) fun b => .refl _
  | .not operand, _, _, obj, relinked => by
      rw [eval, eval]
      exact .bind (.verdict (eval_concordant operand obj relinked) obj) fun b => .refl _
  | .unreadable text, _, _, _, _ => by
      rw [eval, eval]
      exact .refl _

theorem evalAll_concordant : ∀ (nodes : List Node) {env env' : Env} (obj : Option ModelObject), env.Relinked env' →
    Concordant (evalAll nodes env obj).result (evalAll nodes env' obj).result
  | [], _, _, _, _ => by
      rw [evalAll, evalAll]
      exact .refl _
  | node :: rest, _, _, obj, relinked => by
      rw [evalAll, evalAll]
      refine .bind (eval_concordant node obj relinked) fun v => ?_
      exact .bind (evalAll_concordant rest obj relinked) fun vs => .refl _

theorem allHold_concordant : ∀ (nodes : List Node) {env env' : Env} (obj : Option ModelObject), env.Relinked env' →
    Concordant (allHold nodes env obj).result (allHold nodes env' obj).result
  | [], _, _, _, _ => by
      rw [allHold, allHold]
      exact .refl _
  | node :: rest, _, _, obj, relinked => by
      rw [allHold, allHold]
      refine .bind (.verdict (eval_concordant node obj relinked) obj) fun b => ?_
      cases b with
      | true => exact allHold_concordant rest obj relinked
      | false => exact .refl _

theorem anyHolds_concordant : ∀ (nodes : List Node) {env env' : Env} (obj : Option ModelObject), env.Relinked env' →
    Concordant (anyHolds nodes env obj).result (anyHolds nodes env' obj).result
  | [], _, _, _, _ => by
      rw [anyHolds, anyHolds]
      exact .refl _
  | node :: rest, _, _, obj, relinked => by
      rw [anyHolds, anyHolds]
      refine .bind (.verdict (eval_concordant node obj relinked) obj) fun b => ?_
      cases b with
      | true => exact .refl _
      | false => exact anyHolds_concordant rest obj relinked

theorem holdsForAny_concordant : ∀ (nodes : List Node) {env env' : Env} {rs rs' : List ModelObject}, rs.Perm rs' →
    env.Relinked env' → Concordant (holdsForAny nodes env rs).result (holdsForAny nodes env' rs').result
  | [], _, _, _, _, _, _ => by
      rw [holdsForAny, holdsForAny]
      exact .refl _
  | predicate :: _, env, env', _, _, moved, relinked => by
      rw [holdsForAny, holdsForAny]
      refine .any moved (fun r => ?_) (fun r => verdict_supported _ _) (fun r => verdict_supported _ _)
      exact .verdict (eval_concordant predicate (some r) relinked) (some r)

end

def anyUseOf (predicate : String) : String := "UsedInRelationships.Any(" ++ predicate ++ ")"

def Node.answer (n : Node) (c : Index) (o r : ModelObject) : Except Fault Bool :=
  (truth n ⟨c, some ⟨currentName o, some o⟩⟩ (some r)).result

/-- A predicate that says the same of a relationship of an object in every order of the relationships. -/
def Node.IsSteady (n : Node) (os : List ModelObject) (o : ModelObject) : Prop :=
  ∀ ps, Relinked os ps → ∀ r ∈ (Index.ofObjects os).relationshipsOf o,
    n.answer (.ofObjects ps) o r = n.answer (.ofObjects os) o r

section
variable {os ps : List ModelObject} {o : ModelObject} {c : Index} {p : String} {n : Node}

theorem settled_of_log {s : String} {obj : Option ModelObject} {env : Env} (parsed : parse s = .ok n)
    (settled : Event.fault ∉ (judge (.text s) obj env).log) : ∃ b, (truth n env obj).result = .ok b := by
  simp only [judge, parsed, Outcome.ofTraced] at settled
  cases found : (truth n env obj).result with
  | ok b => exact ⟨b, rfl⟩
  | error fault =>
      rw [found] at settled
      exact absurd (List.mem_append_right _ List.mem_cons_self) settled

theorem Env.relinked_ofObjects (relinked : TabularAudit.Relinked os ps) :
    Env.Relinked ⟨.ofObjects os, none⟩ ⟨.ofObjects ps, none⟩ :=
  ⟨⟨relinked.matches_index, .none⟩, relinked.relationships⟩

theorem holds_eq_of_settled (relinked : Relinked os ps) (expression : Value)
    (settled : Event.fault ∉ (judge expression (some o) ⟨.ofObjects os, none⟩).log)
    (settled' : Event.fault ∉ (judge expression (some o) ⟨.ofObjects ps, none⟩).log) :
    holds expression o (.ofObjects os) = holds expression o (.ofObjects ps) := by
  cases expression with
  | text s =>
      cases parsed : parse s with
      | error fault =>
          simp only [holds, judge, parsed]
          cases fault <;> rfl
      | ok n =>
          obtain ⟨b, first⟩ := settled_of_log parsed settled
          obtain ⟨b', second⟩ := settled_of_log parsed settled'
          have same : Concordant (truth n ⟨.ofObjects os, none⟩ (some o)).result
              (truth n ⟨.ofObjects ps, none⟩ (some o)).result :=
            .verdict (eval_concordant n (some o) (Env.relinked_ofObjects relinked)) _
          rw [holds_of_truth parsed first, holds_of_truth parsed second]
          exact same.eq_of_ok first second
  | _ => rfl

theorem holds_eq_true_iff {s : String} (parsed : parse s = .ok n) :
    holds (.text s) o c = true ↔ (truth n ⟨c, none⟩ (some o)).result = .ok true := by
  simp only [holds, judge, parsed, Outcome.ofTraced]
  cases (truth n ⟨c, none⟩ (some o)).result with
  | error fault => exact iff_of_false Bool.false_ne_true (by simp)
  | ok b => exact ⟨congrArg _, Except.ok.inj⟩

/-- A scan says yes at a relationship that comes behind no other than those the predicate does not hold on. -/
theorem holds_anyUseOf_iff (parsed : parse (anyUseOf p) = .ok (uses "Any" [n])) :
    holds (.text (anyUseOf p)) o c = true ↔ ∃ before r after, c.relationshipsOf o = before ++ r :: after ∧
      n.answer c o r = .ok true ∧ ∀ q ∈ before, n.answer c o q = .ok false := by
  rw [holds_eq_true_iff parsed, uses, truth_scan]
  exact result_any_eq_true_iff

theorem holds_anyUseOf_of_first {r : ModelObject} {after : List ModelObject}
    (parsed : parse (anyUseOf p) = .ok (uses "Any" [n])) (first : c.relationshipsOf o = r :: after) :
    (n.answer c o r = .ok true → holds (.text (anyUseOf p)) o c = true) ∧
      ∀ fault, n.answer c o r = .error fault → holds (.text (anyUseOf p)) o c = false := by
  constructor
  · intro found
    exact (holds_anyUseOf_iff parsed).2 ⟨[], r, after, first, found, List.forall_mem_nil _⟩
  · intro fault failed
    refine Bool.eq_false_iff.2 fun scanned => ?_
    obtain ⟨before, q, others, split, found, passed⟩ := (holds_anyUseOf_iff parsed).1 scanned
    rw [first] at split
    cases before with
    | nil =>
        cases split
        cases failed.symm.trans found
    | cons q before =>
        cases split
        cases failed.symm.trans (passed r List.mem_cons_self)

theorem holds_anyUseOf_iff_exists (parsed : parse (anyUseOf p) = .ok (uses "Any" [n]))
    (apart : ¬((∃ r ∈ c.relationshipsOf o, n.answer c o r = .ok true) ∧
      ∃ fault, ∃ r ∈ c.relationshipsOf o, n.answer c o r = .error fault)) :
    holds (.text (anyUseOf p)) o c = true ↔ ∃ r ∈ c.relationshipsOf o, n.answer c o r = .ok true := by
  constructor
  · intro scanned
    obtain ⟨before, r, after, split, found, -⟩ := (holds_anyUseOf_iff parsed).1 scanned
    exact ⟨r, split ▸ List.mem_append_right _ List.mem_cons_self, found⟩
  · rintro ⟨r, member, found⟩
    let meaning : ModelObject → Bool := fun r => (n.answer c o r).toOption.getD false
    have tested : ∀ r ∈ c.relationshipsOf o, n.answer c o r = .ok (meaning r) := by
      intro q among
      cases answered : n.answer c o q with
      | ok b => simp only [meaning, answered, Except.toOption, Option.getD_some]
      | error fault => exact absurd ⟨⟨r, member, found⟩, fault, q, among, answered⟩ apart
    rw [holds_of_truth parsed (truth_relationships tested), List.any_eq_true]
    exact ⟨r, member, Except.ok.inj ((tested r member).symm.trans found)⟩

theorem holds_anyUseOf_eq_iff (parsed : parse (anyUseOf p) = .ok (uses "Any" [n])) (steady : n.IsSteady os o) :
    (∀ ps, Relinked os ps → holds (.text (anyUseOf p)) o (.ofObjects ps) = holds (.text (anyUseOf p)) o (.ofObjects os)) ↔
      ¬((∃ r ∈ (Index.ofObjects os).relationshipsOf o, n.answer (.ofObjects os) o r = .ok true) ∧
        ∃ fault, ∃ r ∈ (Index.ofObjects os).relationshipsOf o, n.answer (.ofObjects os) o r = .error fault) := by
  constructor
  · rintro same ⟨⟨r, member, found⟩, fault, q, member', failed⟩
    obtain ⟨ps, after, relinked, first⟩ := Relinked.exists_first member
    obtain ⟨qs, after', relinked', first'⟩ := Relinked.exists_first member'
    have yes : holds (.text (anyUseOf p)) o (.ofObjects ps) = true :=
      (holds_anyUseOf_of_first parsed first).1 ((steady ps relinked r member).trans found)
    have no : holds (.text (anyUseOf p)) o (.ofObjects qs) = false :=
      (holds_anyUseOf_of_first parsed first').2 fault ((steady qs relinked' q member').trans failed)
    rw [same ps relinked, ← same qs relinked', no] at yes
    cases yes
  · intro apart ps relinked
    have moved := relinked.relationshipsOf o
    have answers : ∀ x, (∃ r ∈ (Index.ofObjects ps).relationshipsOf o, n.answer (.ofObjects ps) o r = x) ↔
        ∃ r ∈ (Index.ofObjects os).relationshipsOf o, n.answer (.ofObjects os) o r = x := by
      intro x
      refine exists_congr fun r => ?_
      rw [← moved.mem_iff]
      exact and_congr_right fun member => by rw [steady ps relinked r member]
    rw [Bool.eq_iff_iff, holds_anyUseOf_iff_exists parsed apart, holds_anyUseOf_iff_exists parsed, answers]
    simpa only [answers] using apart

/-- No expression tells two orders of the relationships apart without a fault. A scan says yes exactly if the predicate
holds on a relationship and is false on all before it, so that a steady predicate has one answer in all orders exactly
if it does not hold on one relationship and fail on another. -/
theorem relationships_in_any_order (relinked : Relinked os ps) (o : ModelObject) :
    (∀ expression, Event.fault ∉ (judge expression (some o) ⟨.ofObjects os, none⟩).log →
      Event.fault ∉ (judge expression (some o) ⟨.ofObjects ps, none⟩).log →
      holds expression o (.ofObjects os) = holds expression o (.ofObjects ps)) ∧
    ∀ p n, parse (anyUseOf p) = .ok (uses "Any" [n]) →
      (∀ c, holds (.text (anyUseOf p)) o c = true ↔ ∃ before r after, c.relationshipsOf o = before ++ r :: after ∧
        n.answer c o r = .ok true ∧ ∀ q ∈ before, n.answer c o q = .ok false) ∧
      (n.IsSteady os o →
        ((∀ qs, Relinked os qs →
            holds (.text (anyUseOf p)) o (.ofObjects qs) = holds (.text (anyUseOf p)) o (.ofObjects os)) ↔
          ¬((∃ r ∈ (Index.ofObjects os).relationshipsOf o, n.answer (.ofObjects os) o r = .ok true) ∧
            ∃ fault, ∃ r ∈ (Index.ofObjects os).relationshipsOf o, n.answer (.ofObjects os) o r = .error fault))) :=
  ⟨holds_eq_of_settled relinked, fun _ _ parsed =>
    ⟨fun _ => holds_anyUseOf_iff parsed, holds_anyUseOf_eq_iff parsed⟩⟩

def keyed (key : Int) : ModelObject :=
  { name := "R", kind := .relationship, properties := .ofEntries [("FromTable", .text "Sales"), ("K", .int key)] }

def keyIsA : Node := .comparison "=" (.function "char" [.name "K" []]) (.literal (.text "A"))

theorem parse_keyIsA : parse (anyUseOf "char(K) = \"A\"") = .ok (uses "Any" [keyIsA]) := by with_unfolding_all rfl

theorem eval_charOfKey (env : Env) (key : Int) :
    (eval (.function "char" [.name "K" []]) env (some (keyed key))).result = charOf (.int key) := by
  have found : (keyed key).properties.find? "K" = some (.int key) := by
    rw [keyed, Bag.ofEntries, Bag.putAll, List.foldl_cons, List.foldl_cons, List.foldl_nil, Bag.find?_put, if_pos rfl]
  have read : readProperty (keyed key) "K" = .int key := by
    rw [readProperty, if_neg (by decide), storedProperty, found]
  have value : (eval (.name "K" []) env (some (keyed key))).result = .ok (readProperty (keyed key) "K") :=
    eval_property (by decide)
  rw [read] at value
  rw [eval, if_pos (by decide), evalAll, evalAll, Traced.result_bind, Traced.result_bind, value]
  rfl

theorem answer_keyIsA (c : Index) (o : ModelObject) : keyIsA.answer c o (keyed 65) = .ok true ∧
    keyIsA.answer c o (keyed 66) = .ok false ∧ keyIsA.answer c o (keyed (-1)) = .error .badNumeral := by
  have ofCode : ∀ {key v b}, charOf (.int key) = .ok v → compare "=" v (.text "A") = .ok b →
      keyIsA.answer c o (keyed key) = .ok b := by
    intro key v b code compared
    exact truth_comparison ((eval_charOfKey _ key).trans code) (eval_literal _) compared
  have noCode : charOf (.int (-1)) = .error .badNumeral := by decide +kernel
  refine ⟨ofCode (v := .text "A") (by decide +kernel) (by decide),
    ofCode (v := .text "B") (by decide +kernel) (by decide), ?_⟩
  have failed := (eval_charOfKey ⟨c, some ⟨currentName o, some o⟩⟩ (-1)).trans noCode
  rw [Node.answer, truth, keyIsA, eval]
  generalize eval (.function "char" [.name "K" []]) _ _ = x at failed ⊢
  obtain ⟨result, log⟩ := x
  subst failed
  rfl

theorem relationships_in_any_order_of_two_keys :
    let sales : ModelObject := { name := "Sales", kind := .table }
    let os := [keyed 66, keyed 65]
    Relinked os [keyed 65, keyed 66] ∧ keyIsA.IsSteady os sales ∧
      parse (anyUseOf "char(K) = \"A\"") = .ok (uses "Any" [keyIsA]) ∧
      ∀ ps, Relinked os ps → holds (.text (anyUseOf "char(K) = \"A\"")) sales (.ofObjects ps) = true := by
  intro sales os
  have swapped : Relinked os [keyed 65, keyed 66] := ⟨rfl, .swap _ _ _⟩
  obtain ⟨yes, no, -⟩ := answer_keyIsA (.ofObjects os) sales
  have listed : (Index.ofObjects os).relationshipsOf sales = os := by decide
  have steady : keyIsA.IsSteady os sales := by
    intro ps relinked r member
    obtain ⟨yes', no', -⟩ := answer_keyIsA (.ofObjects ps) sales
    rw [listed] at member
    rcases List.mem_pair.1 member with rfl | rfl
    · rw [no, no']
    · rw [yes, yes']
  obtain ⟨-, scans⟩ := relationships_in_any_order swapped sales
  obtain ⟨found, same⟩ := scans _ _ parse_keyIsA
  refine ⟨swapped, steady, parse_keyIsA, fun ps relinked => ?_⟩
  have first : holds (.text (anyUseOf "char(K) = \"A\"")) sales (.ofObjects os) = true :=
    (found _).2 ⟨[keyed 66], keyed 65, [], listed, yes, List.forall_mem_singleton.2 no⟩
  refine ((same steady).2 ?_ ps relinked).trans first
  rintro ⟨-, fault, r, member, failed⟩
  rw [listed] at member
  rcases List.mem_pair.1 member with rfl | rfl
  · cases no.symm.trans failed
  · cases yes.symm.trans failed

theorem relationships_in_two_orders_of_fault :
    let sales : ModelObject := { name := "Sales", kind := .table }
    let os := [keyed 65, keyed (-1)]
    let ps := [keyed (-1), keyed 65]
    Relinked os ps ∧ holds (.text (anyUseOf "char(K) = \"A\"")) sales (.ofObjects os) = true ∧
      holds (.text (anyUseOf "char(K) = \"A\"")) sales (.ofObjects ps) = false := by
  intro sales os ps
  obtain ⟨yes, -, -⟩ := answer_keyIsA (.ofObjects os) sales
  obtain ⟨-, -, fails⟩ := answer_keyIsA (.ofObjects ps) sales
  have listed : (Index.ofObjects os).relationshipsOf sales = os := by decide
  have listed' : (Index.ofObjects ps).relationshipsOf sales = ps := by decide
  exact ⟨⟨rfl, .swap _ _ _⟩, (holds_anyUseOf_of_first parse_keyIsA listed).1 yes,
    (holds_anyUseOf_of_first parse_keyIsA listed').2 _ fails⟩

end

end Expr

end TabularAudit
