import Mathlib.Data.List.Nodup
import TabularAudit.Model.History

/-!
A bag is what its history leaves: whatever is done to it, it holds for each property that was stored and not removed since
the last value, in the order and under the spelling in which the properties came in.
-/

namespace TabularAudit.Bag

section
variable {es : Entries} {name folded other : String} {v : Value} {e : String × Value}

theorem findFolded_eq_none_iff : findFolded es folded = none ↔ folded ∉ es.map fun e => fold e.1 := by
  induction es with
  | nil => exact iff_of_true rfl List.not_mem_nil
  | cons e es ih =>
      rw [findFolded, List.map_cons, List.mem_cons, not_or, ← ih]
      split
      · next same => exact iff_of_false (Option.some_ne_none _) fun absent => absent.1 same.symm
      · next differ => exact (and_iff_right (Ne.symm differ)).symm

theorem putFolded_of_absent (absent : folded ∉ es.map fun e => fold e.1) :
    putFolded es folded name v = es ++ [(name, v)] := by
  induction es with
  | nil => rfl
  | cons e es ih =>
      simp only [List.map_cons, List.mem_cons, not_or] at absent
      rw [putFolded, if_neg (Ne.symm absent.1), ih absent.2, List.cons_append]

theorem putAll_of_distinct (b : Bag) (es : Entries) (distinct : ((b.entries ++ es).map fun e => fold e.1).Nodup) :
    b.putAll es = ⟨b.entries ++ es⟩ := by
  induction es generalizing b with
  | nil => simp [putAll]
  | cons e es ih =>
      have absent : fold e.1 ∉ b.entries.map fun e => fold e.1 := by
        intro member
        rw [List.map_append, List.nodup_append] at distinct
        exact distinct.2.2 _ member (fold e.1) (by simp) rfl
      have stored : b.put e.1 e.2 = ⟨b.entries ++ [e]⟩ := by rw [put, putFolded_of_absent absent]
      have others := ih (b.put e.1 e.2) (by rw [stored]; simpa using distinct)
      rw [stored] at others
      rw [putAll, List.foldl_cons, stored]
      simpa [putAll] using others

theorem ofEntries_of_distinct (distinct : (es.map fun e => fold e.1).Nodup) : ofEntries es = ⟨es⟩ :=
  putAll_of_distinct empty es distinct

theorem findFolded_append (es fs : Entries) (folded : String) :
    findFolded (es ++ fs) folded = (findFolded es folded).or (findFolded fs folded) := by
  induction es with
  | nil => rfl
  | cons e es ih =>
      rw [List.cons_append, findFolded, findFolded]
      split
      · rfl
      · exact ih

theorem map_fst_putFolded : (putFolded es folded name v).map Prod.fst =
    if (findFolded es folded).isSome then es.map Prod.fst else es.map Prod.fst ++ [name] := by
  induction es with
  | nil => rfl
  | cons e es ih =>
      rw [putFolded, findFolded]
      split
      · rfl
      · rw [List.map_cons, ih, List.map_cons]
        split <;> rfl

theorem putFolded_of_findFolded (found : findFolded es folded = some v) : putFolded es folded name v = es := by
  induction es with
  | nil => cases found
  | cons e es ih =>
      rw [findFolded] at found
      rw [putFolded]
      split
      · next same =>
        rw [if_pos same] at found
        cases found
        rfl
      · next differ =>
        rw [if_neg differ] at found
        rw [ih found]

theorem nodup_putFolded (distinct : (es.map fun e => fold e.1).Nodup) :
    ((putFolded es (fold name) name v).map fun e => fold e.1).Nodup := by
  change ((putFolded es (fold name) name v).map (fold ∘ Prod.fst)).Nodup
  rw [← List.map_map, map_fst_putFolded]
  split
  · rwa [List.map_map]
  · next absent =>
    rw [Bool.not_eq_true, Option.isSome_eq_false_iff, Option.isNone_iff_eq_none, findFolded_eq_none_iff] at absent
    rw [List.map_append, List.map_map, List.map_singleton]
    exact distinct.append (List.nodup_singleton _) (List.disjoint_singleton.2 absent)

theorem eraseFolded_eq_filter (distinct : (es.map fun e => fold e.1).Nodup) :
    eraseFolded es folded = es.filter fun e => fold e.1 ≠ folded := by
  induction es with
  | nil => rfl
  | cons e es ih =>
      rw [List.map_cons, List.nodup_cons] at distinct
      rw [eraseFolded]
      split
      · next same =>
        have others : ∀ e ∈ es, decide (fold e.1 ≠ folded) = true := by
          intro other member
          refine decide_eq_true fun equal => distinct.1 ?_
          rw [same, ← equal]
          exact List.mem_map_of_mem member
        rw [List.filter_cons_of_neg (by simpa using same), List.filter_eq_self.2 others]
      · next differ => rw [List.filter_cons_of_pos (by simpa using differ), ih distinct.2]

theorem findFolded_filter_ne : findFolded (es.filter fun e => fold e.1 ≠ folded) other =
    if folded = other then none else findFolded es other := by
  induction es with
  | nil => simp [findFolded]
  | cons e es ih =>
      rw [List.filter_cons]
      split
      · next kept =>
        have differ : fold e.1 ≠ folded := of_decide_eq_true kept
        rw [findFolded, findFolded, ih]
        by_cases here : fold e.1 = other
        · rw [if_pos here, if_pos here, if_neg (here ▸ Ne.symm differ)]
        · rw [if_neg here, if_neg here]
      · next dropped =>
        have same : fold e.1 = folded := by simpa using dropped
        rw [ih]
        split
        · rfl
        · next apart => rw [findFolded, if_neg (same ▸ apart)]

theorem findFolded_of_mem (distinct : (es.map fun e => fold e.1).Nodup) (member : e ∈ es) :
    findFolded es (fold e.1) = some e.2 := by
  induction es with
  | nil => cases member
  | cons head es ih =>
      rw [List.map_cons, List.nodup_cons] at distinct
      rw [findFolded]
      rcases List.mem_cons.1 member with rfl | inside
      · rw [if_pos rfl]
      · rw [if_neg, ih distinct.2 inside]
        intro same
        exact distinct.1 (same ▸ List.mem_map_of_mem inside)

end

section
variable {b : Bag} {name : String} {v : Value}

theorem put_of_find? (found : b.find? name = some v) : b.put name v = b :=
  congrArg mk (putFolded_of_findFolded found)

theorem putIfAbsent_of_contains (there : b.contains name = true) : b.putIfAbsent name v = b := if_pos there

theorem find?_putAll (b : Bag) (es : Entries) (name : String) :
    (b.putAll es).find? name = ((es.filter fun e => fold e.1 = fold name).map Prod.snd).getLast?.or (b.find? name) := by
  induction es generalizing b with
  | nil => rfl
  | cons e es ih =>
      calc (b.putAll (e :: es)).find? name
        _ = ((es.filter fun e => fold e.1 = fold name).map Prod.snd).getLast?.or ((b.put e.1 e.2).find? name) := ih _
        _ = _ := by
            rw [find?_put]
            by_cases under : fold e.1 = fold name
            · rw [if_pos under, List.filter_cons, if_pos (decide_eq_true under), List.map_cons, List.getLast?_cons]
              cases ((es.filter fun e => fold e.1 = fold name).map Prod.snd).getLast? <;> rfl
            · rw [if_neg under, List.filter_cons, if_neg (by simpa using under)]

theorem find?_ofEntries (es : Entries) (name : String) :
    (ofEntries es).find? name = ((es.filter fun e => fold e.1 = fold name).map Prod.snd).getLast? := by
  rw [ofEntries, find?_putAll]
  exact Option.or_none

theorem contains_putIfAbsent (b : Bag) (name : String) (v : Value) : (b.putIfAbsent name v).contains name = true := by
  rw [putIfAbsent]
  split
  · assumption
  · rw [contains, find?_put, if_pos rfl]
    rfl

theorem get_of_find? (found : b.find? name = some v) : b.get name = v := by
  rw [get, found]
  rfl

end

namespace History

variable {h : History} {name other : String} {v : Value}

theorem value?_cons (h : History) (e : Event) (other : String) :
    value? (e :: h) other = if fold e.name = fold other then e.value? else h.value? other := by
  rw [value?, List.find?_cons]
  by_cases same : fold e.name = fold other
  · rw [Event.concerns, decide_eq_true same, if_pos same]
    rfl
  · rw [Event.concerns, decide_eq_false same, if_neg same]
    rfl

theorem namesUpTo_stored (later : List Event) (name : String) (v : Value) (h : History) :
    namesUpTo (later ++ [.stored name v]) h = namesUpTo later h := by
  induction h generalizing later with
  | nil => rfl
  | cons e h ih =>
      rw [namesUpTo, namesUpTo, ← List.cons_append, ih, List.all_append]
      simp [Event.removes, Event.value?]

theorem namesUpTo_removed (later : List Event) (name : String) (h : History) :
    namesUpTo (later ++ [.removed name]) h = (namesUpTo later h).filter fun other => fold other ≠ fold name := by
  induction h generalizing later with
  | nil => rfl
  | cons e h ih =>
      have removes : (Event.removed name).removes e.name = decide (fold name = fold e.name) := rfl
      rw [namesUpTo, namesUpTo, ← List.cons_append, ih, List.all_append, List.filter_append, ← Bool.and_assoc,
        List.all_cons, removes, List.all_nil, Bool.and_true]
      congr 1
      cases enters h e && later.all fun l => !l.removes e.name with
      | false => rfl
      | true =>
          by_cases same : fold name = fold e.name
          · simp [same]
          · simp [same, Ne.symm same]

theorem names_stored (h : History) (name : String) (v : Value) :
    names (.stored name v :: h) = if (h.value? name).isSome then h.names else h.names ++ [name] := by
  have first : enters h (.stored name v) = (h.value? name).isNone := rfl
  rw [names, namesUpTo, ← List.nil_append [Event.stored name v], namesUpTo_stored, List.all_nil, Bool.and_true, first,
    names]
  cases h.value? name with
  | none => rfl
  | some w => exact List.append_nil _

theorem names_removed (h : History) (name : String) :
    names (.removed name :: h) = h.names.filter fun other => fold other ≠ fold name := by
  rw [names, namesUpTo, ← List.nil_append [Event.removed name], namesUpTo_removed, names]
  exact List.append_nil _

end History

/-- A bag is what a history leaves. -/
structure IsLeftBy (b : Bag) (h : History) : Prop where
  distinct : (b.entries.map fun e => fold e.1).Nodup
  find? : ∀ name, b.find? name = h.value? name
  names : b.names = h.names

namespace IsLeftBy

variable {b : Bag} {h : History} {name : String}

theorem empty : IsLeftBy empty [] where
  distinct := List.nodup_nil
  find? _ := rfl
  names := rfl

theorem put (left : b.IsLeftBy h) (name : String) (v : Value) : (b.put name v).IsLeftBy (.stored name v :: h) where
  distinct := nodup_putFolded left.distinct
  find? other := by
    rw [find?_put, left.find?, History.value?_cons]
    rfl
  names := by
    rw [History.names_stored, ← left.names, ← left.find?]
    exact map_fst_putFolded

theorem erase (left : b.IsLeftBy h) (name : String) :
    IsLeftBy ⟨eraseFolded b.entries (fold name)⟩ (.removed name :: h) where
  distinct := by
    rw [eraseFolded_eq_filter left.distinct]
    exact left.distinct.sublist (List.filter_sublist.map _)
  find? other := by
    rw [Bag.find?, eraseFolded_eq_filter left.distinct, findFolded_filter_ne, History.value?_cons, ← left.find?]
    rfl
  names := by
    rw [History.names_removed, ← left.names, Bag.names, eraseFolded_eq_filter left.distinct, Bag.names, List.filter_map]
    rfl

theorem putAll (left : b.IsLeftBy h) (es : Entries) :
    (b.putAll es).IsLeftBy (es.foldl (fun h e => .stored e.1 e.2 :: h) h) := by
  induction es generalizing b h with
  | nil => exact left
  | cons e es ih => exact ih (left.put e.1 e.2)

theorem clear {es : Entries} (left : IsLeftBy ⟨es⟩ h) :
    Bag.empty.IsLeftBy ((es.map Prod.fst).foldl (fun h name => .removed name :: h) h) := by
  induction es generalizing h with
  | nil => exact left
  | cons e es ih =>
      have rest := left.erase e.1
      rw [eraseFolded, if_pos rfl] at rest
      exact ih rest

theorem entries_eq (left : b.IsLeftBy h) :
    b.entries = h.names.map fun name => (name, (h.value? name).getD .null) := by
  rw [← left.names, Bag.names, List.map_map]
  conv_lhs => rw [← List.map_id b.entries]
  refine List.map_congr_left fun e member => ?_
  have found : b.find? e.1 = some e.2 := findFolded_of_mem left.distinct member
  rw [Function.comp, ← left.find?, found]
  rfl

end IsLeftBy

namespace Step

variable {α β : Type} {b c : Bag} {x : Step α} {f : α → Step β} {a : α} {fault : Fault}

theorem bind_of_ok (first : x b = .ok a c) : (x >>= f) b = f a c := by
  simp only [bind, EStateM.bind, first]

theorem bind_of_error (first : x b = .error fault c) : (x >>= f) b = .error fault c := by
  simp only [bind, EStateM.bind, first]

theorem ifPresent_item (b : Bag) (name : String) : ifPresent (item name) b = .ok (b.find? name) b := by
  rw [ifPresent, item, read]
  cases b.find? name <;> rfl

theorem erase_of_find? {name : String} {v : Value} (found : b.find? name = some v) :
    erase name b = .ok () ⟨eraseFolded b.entries (fold name)⟩ := by
  rw [erase, Bag.erase, contains, found]
  rfl

theorem storeAll_eq (es : Entries) (b : Bag) : storeAll es b = .ok () (b.putAll es) := by
  induction es generalizing b with
  | nil => rfl
  | cons e es ih => exact ih (b.put e.1 e.2)

theorem clear_eq (b : Bag) : clear b = .ok () Bag.empty := by
  obtain ⟨es⟩ := b
  induction es with
  | nil =>
      rw [clear]
      rfl
  | cons e es ih =>
      rw [clear]
      split
      · next taken =>
        rw [popFirst_cons] at taken
        cases taken
        exact ih
      · next taken =>
        rw [popFirst_cons] at taken
        cases taken
      · next taken =>
        rw [popFirst_cons] at taken
        cases taken

end Step

/-- What is made of reading, storing and erasing does the whole change, or nothing. -/
theorem Change.run_eq (change : Change) (b : Bag) : change.run b =
    match b.apply change with
    | .ok (v, c) => .ok v c
    | .error fault => .error fault b := by
  cases change with
  | put name v => rfl
  | putIfAbsent name v =>
      rw [run, Step.storeIfAbsent, Step.bind_of_ok (Step.ifPresent_item b name), apply, Bag.putIfAbsent, contains]
      cases b.find? name <;> rfl
  | putAll es =>
      rw [run, Step.bind_of_ok (Step.storeAll_eq es b)]
      rfl
  | erase name =>
      rw [run, apply, Bag.erase]
      cases found : b.find? name with
      | none =>
          have missing : Step.erase name b = .error .missingKey b := by
            rw [Step.erase, Bag.erase, contains, found]
            rfl
          rw [Step.bind_of_error missing, contains, found]
          rfl
      | some v =>
          rw [Step.bind_of_ok (Step.erase_of_find? found), contains, found]
          rfl
  | pop name fallback =>
      rw [run, Step.pop, Step.bind_of_ok (Step.ifPresent_item b name), apply, Bag.pop.eq_def]
      cases found : b.find? name with
      | none => cases fallback <;> rfl
      | some v => exact Step.bind_of_ok (Step.erase_of_find? found)
  | popFirst =>
      obtain ⟨es⟩ := b
      cases es with
      | nil => rfl
      | cons e es =>
          rw [run, Step.bind_of_ok (Step.popFirst_cons e es)]
          rfl
  | clear =>
      rw [run, Step.bind_of_ok (Step.clear_eq b)]
      rfl

theorem Change.eq_of_run_eq_error {change : Change} {b c : Bag} {fault : Fault} (failed : change.run b = .error fault c) :
    c = b ∧ fault = .missingKey := by
  rw [run_eq] at failed
  cases answer : b.apply change with
  | ok found =>
      rw [answer] at failed
      cases failed
  | error fault =>
      rw [answer] at failed
      cases failed
      refine ⟨rfl, ?_⟩
      cases change with
      | erase name =>
          rw [apply, Bag.erase] at answer
          split at answer <;> cases answer
          rfl
      | pop name fallback =>
          rw [apply, Bag.pop.eq_def] at answer
          split at answer <;> cases answer
          rfl
      | popFirst =>
          rw [apply, Bag.popFirst.eq_def] at answer
          split at answer <;> cases answer
          rfl
      | _ => cases answer

section
variable {b : Bag} {h : History}

theorem IsLeftBy.run (left : b.IsLeftBy h) (change : Change) :
    ∃ c : Bag, c.IsLeftBy (h.answer change).2 ∧ change.run b =
      match (h.answer change).1 with
      | .ok v => .ok v c
      | .error fault => .error fault c := by
  rw [Change.run_eq]
  cases change with
  | put name v => exact ⟨_, left.put name v, rfl⟩
  | putIfAbsent name v =>
      rw [apply, putIfAbsent, contains, left.find?, History.answer]
      cases h.value? name with
      | none => exact ⟨_, left.put name v, rfl⟩
      | some w => exact ⟨_, left, rfl⟩
  | putAll es => exact ⟨_, left.putAll es, rfl⟩
  | erase name =>
      rw [apply, Bag.erase, contains, left.find?, History.answer]
      cases h.value? name with
      | none => exact ⟨_, left, rfl⟩
      | some w => exact ⟨_, left.erase name, rfl⟩
  | pop name fallback =>
      simp only [apply, Bag.pop.eq_def, left.find?, History.answer]
      cases h.value? name with
      | none => cases fallback <;> exact ⟨b, left, rfl⟩
      | some w => exact ⟨_, left.erase name, rfl⟩
  | popFirst =>
      obtain ⟨es⟩ := b
      rw [History.answer, ← left.names]
      cases es with
      | nil => exact ⟨_, left, rfl⟩
      | cons e es =>
          have first : h.value? e.1 = some e.2 := by
            rw [← left.find?, Bag.find?, findFolded, if_pos rfl]
          have rest := left.erase e.1
          rw [eraseFolded, if_pos rfl] at rest
          refine ⟨⟨es⟩, rest, ?_⟩
          rw [Bag.names, List.map_cons]
          simp only [first]
          rfl
  | clear =>
      refine ⟨Bag.empty, ?_, rfl⟩
      rw [History.answer, ← left.names]
      exact left.clear

theorem IsLeftBy.perform (left : b.IsLeftBy h) (changes : List Change) :
    (Bag.perform changes b).1 = (h.answers changes).1 ∧ (Bag.perform changes b).2.IsLeftBy (h.answers changes).2 := by
  induction changes generalizing b h with
  | nil => exact ⟨rfl, left⟩
  | cons change changes ih =>
      obtain ⟨c, next, made⟩ := left.run change
      obtain ⟨answers, last⟩ := ih next
      rw [Bag.perform, History.answers, made]
      cases (h.answer change).1 with
      | ok v => exact ⟨congrArg _ answers, last⟩
      | error fault => exact ⟨congrArg _ answers, last⟩

end

/-- Whatever row of changes is made to an empty bag, it answers as its history does. What it then holds is what the history
leaves: one entry for each name in small letters that was stored and not removed since, in the order and the spelling in
which the names came in, with the value that was stored last. The first entry is the first one taken. -/
theorem changes_follow_history (changes : List Change) :
    let b := (perform changes empty).2
    let h := (History.answers [] changes).2
    (perform changes empty).1 = (History.answers [] changes).1 ∧
    (b.names.map fold).Nodup ∧
    (∀ name, b.read name = (h.value? name).elim (.error .missingKey) .ok ∧
      b.contains name = (h.value? name).isSome ∧
      ∀ fallback, Step.find name fallback b = .ok ((h.value? name).getD fallback) b) ∧
    b.names = h.names ∧ b.entries = h.names.map (fun name => (name, (h.value? name).getD .null)) ∧
    b.size = h.names.length ∧
    (∀ e es, b.entries = e :: es → Change.popFirst.run b = .ok (.list [.text e.1, e.2]) ⟨es⟩) ∧
    ∀ change fault c, Change.run change b = .error fault c → c = b ∧ fault = .missingKey := by
  intro b h
  obtain ⟨answers, left⟩ := IsLeftBy.empty.perform changes
  refine ⟨answers, ?_, fun name => ⟨?_, ?_, fun fallback => ?_⟩, left.names, left.entries_eq, ?_, ?_, ?_⟩
  · rw [names, List.map_map]
    exact left.distinct
  · rw [read, left.find?]
    cases History.value? h name <;> rfl
  · rw [contains, left.find?]
  · rw [Step.find, Step.bind_of_ok (Step.ifPresent_item b name), left.find?]
    rfl
  · rw [← left.names, names, List.length_map, size]
  · intro e es first
    have whole : b = ⟨e :: es⟩ := congrArg Bag.mk first
    rw [whole, Change.run, Step.bind_of_ok (Step.popFirst_cons e es)]
    rfl
  · exact fun change fault c failed => Change.eq_of_run_eq_error failed

example : (perform [.put "Name" (.int 1), .put "Type" (.int 2), .put "NAME" (.int 3), .erase "type", .put "TYPE" (.int 4)]
    empty).2 = ⟨[("Name", .int 3), ("TYPE", .int 4)]⟩ := by decide

end TabularAudit.Bag
