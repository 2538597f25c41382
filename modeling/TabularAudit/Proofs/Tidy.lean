import TabularAudit.Model.RecordKind
import TabularAudit.Proofs.Bag
import TabularAudit.Proofs.Snapshot

/-!
Bags that are their own records: cleaning and storing their entries once more gives the same bag. What is stored in such a
bag under a plain name leaves it one.
-/

namespace TabularAudit

namespace Text

theorem strip_eq_self {cs : List Char} (first : ∀ c ∈ cs.head?, isBlank c = false) (last : EndsInked cs) : strip cs = cs := by
  have start : stripStart cs = cs := by
    cases cs with
    | nil => rfl
    | cons c rest =>
        rw [stripStart, List.dropWhile_cons_of_neg]
        rw [first c rfl]
        exact Bool.false_ne_true
  rw [strip, start, last.stripEnd]

end Text

namespace Record

theorem unbracketed_eq_self {cs : List Char} (apart : ¬(cs.head? = some '[' ∧ cs.getLast? = some ']')) :
    unbracketed cs = cs := by
  rw [unbracketed.eq_def]
  split
  · next rest =>
    rw [if_neg]
    intro closed
    refine apart ⟨rfl, ?_⟩
    rw [List.getLast?_cons, closed]
    rfl
  · rfl

theorem fieldName_of_isBare {name : String} (bare : IsBare name) : fieldName name = name := by
  obtain ⟨first, last, apart⟩ := bare
  have inked : ∀ o : Option Char, (o.all (!Text.isBlank ·)) = true → ∀ c ∈ o, Text.isBlank c = false := by
    rintro _ ink c rfl
    exact Bool.not_eq_true' _ ▸ ink
  rw [fieldName, Text.strip_eq_self (inked _ first) (inked _ last), unbracketed_eq_self apart, String.ofList_toList]

/-- A bag that is its own record: no two names differ in letter case alone, and no name has anything to lose. -/
structure IsTidy (b : Bag) : Prop where
  distinct : (b.entries.map fun e => Bag.fold e.1).Nodup
  plain : ∀ name ∈ b.names, fieldName name = name

namespace IsTidy

variable {b : Bag} {name : String}

theorem put (tidy : IsTidy b) (plain : fieldName name = name) (v : Value) : IsTidy (b.put name v) where
  distinct := Bag.nodup_putFolded tidy.distinct
  plain := by
    have names : (b.put name v).names = if (b.find? name).isSome then b.names else b.names ++ [name] :=
      Bag.map_fst_putFolded
    rw [names]
    split
    · exact tidy.plain
    · intro other member
      rcases List.mem_append.1 member with before | new
      · exact tidy.plain other before
      · rw [List.mem_singleton.1 new, plain]

theorem putIfAbsent (tidy : IsTidy b) (plain : fieldName name = name) (v : Value) : IsTidy (b.putIfAbsent name v) := by
  rw [Bag.putIfAbsent]
  split
  · exact tidy
  · exact tidy.put plain v

theorem ofEntries {es : Entries} (plain : ∀ e ∈ es, fieldName (fieldName e.1) = fieldName e.1) :
    IsTidy (ofEntries es) := by
  suffices general : ∀ b, IsTidy b → IsTidy (es.foldl (fun b e => b.put (fieldName e.1) e.2) b) from
    general .empty ⟨List.nodup_nil, List.forall_mem_nil _⟩
  induction es with
  | nil => exact fun b tidy => tidy
  | cons e es ih =>
      obtain ⟨first, rest⟩ := List.forall_mem_cons.1 plain
      exact fun b tidy => ih rest _ (tidy.put first e.2)

theorem ofValue_entries (tidy : IsTidy b) : ofValue (.map b.entries) = .ok b := by
  have plain : Record.ofEntries b.entries = Bag.ofEntries b.entries := by
    refine List.foldl_ext _ _ _ fun c e member => ?_
    rw [tidy.plain e.1 (List.mem_map_of_mem member)]
  rw [ofValue, plain, Bag.ofEntries_of_distinct tidy.distinct]

end IsTidy

section
variable {b c : Bag} {name : String}

theorem isTidy_identified (tidy : IsTidy b) (name : String) (kind : Kind) : IsTidy (identified b name kind) :=
  (tidy.put (by decide) _).put (by decide) _

theorem isTidy_shown (tidy : IsTidy b) (name : String) (kind : Kind) (table : Option String) :
    IsTidy (shown (owned (identified b name kind) table)) := by
  refine IsTidy.putIfAbsent ?_ (by decide) _
  cases table with
  | none => exact isTidy_identified tidy name kind
  | some table => exact (isTidy_identified tidy name kind).put (by decide) _

theorem isTidy_decoded {codes : Codes} {v : Option Value} (tidy : IsTidy b) (plain : fieldName name = name)
    (stored : decoded b codes name v = .ok c) : IsTidy c := by
  cases v with
  | none =>
      cases stored
      exact tidy
  | some v =>
      obtain ⟨w, -, rfl⟩ := exists_of_map_eq_ok stored
      exact tidy.put plain w

theorem isTidy_withEnds {given : Bag} {properties : List String}
    (plain : ∀ property ∈ properties, fieldName property = property) (tidy : IsTidy b) : IsTidy (properties.foldl (withEnd given) b) := by
  induction properties generalizing b with
  | nil => exact tidy
  | cons property properties ih =>
      obtain ⟨first, rest⟩ := List.forall_mem_cons.1 plain
      refine ih rest ?_
      rw [withEnd]
      split
      · exact tidy.put first _
      · exact tidy

end

end Record

end TabularAudit
