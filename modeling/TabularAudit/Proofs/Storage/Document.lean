import TabularAudit.Json.Writer
import TabularAudit.Proofs.Storage.Disk
import TabularAudit.Run.Summary
import TabularAudit.Storage.Document
import TabularAudit.Storage.Findings

/-!
Texts that were written are read back. Findings in a file keep the fields of their keys; a severity of zero is
read as the least one.
-/

namespace TabularAudit

namespace Document

variable {content : ByteArray} {byte : UInt8} {bytes : List UInt8}

theorem toList_loop (content : ByteArray) (i : Nat) (before : List UInt8) :
    ByteArray.toList.loop content i before = before.reverse ++ content.data.toList.drop i := by
  induction i, before using ByteArray.toList.loop.induct content with
  | case1 i before inside ih =>
      have there : i < content.data.toList.length := inside
      have byte : content.get! i = content.data.toList[i] := by
        rw [Array.getElem_toList]
        exact getElem!_pos content.data i inside
      rw [ByteArray.toList.loop, if_pos inside, ih, List.reverse_cons, List.append_assoc,
        List.drop_eq_getElem_cons there, byte]
      rfl
  | case2 i before outside =>
      have past : content.data.toList.length ≤ i := Nat.le_of_not_lt outside
      rw [ByteArray.toList.loop, if_neg outside, List.drop_eq_nil_of_le past, List.append_nil]

theorem toList_eq (content : ByteArray) : content.toList = content.data.toList := toList_loop content 0 []

theorem decode_of_first_ne (begins : content.data.toList = byte :: bytes) (differ : byte ≠ 0xEF) :
    decode content = match String.fromUTF8? content with
      | some s => .ok s
      | none => .error .badEncoding := by
  have head : (content.extract 0 3).toList = byte :: bytes.take 2 := by
    rw [toList_eq]
    simp [ByteArray.extract, ByteArray.copySlice, begins]
  have unmarked : (byte :: bytes.take 2).isPrefixOf mark = false := by
    simp [mark, List.isPrefixOf, differ]
  have other : byte :: bytes.take 2 ≠ mark := by
    intro same
    exact differ (List.cons.inj same).1
  cases read : String.fromUTF8? content <;> simp [decode, head, unmarked, other, read]

theorem fromUTF8?_toUTF8 (s : String) : String.fromUTF8? s.toUTF8 = some s := by
  rw [String.fromUTF8?, String.toUTF8_eq_toByteArray, dif_pos s.isValidUTF8]
  rfl

/-- No mark stands before a text that begins with an ASCII character. -/
theorem decode_toUTF8 {c : Char} (ascii : c.toNat < 128) (cs : List Char) :
    decode (String.ofList (c :: cs)).toUTF8 = .ok (String.ofList (c :: cs)) := by
  have single : String.utf8EncodeChar c = [UInt8.ofNat c.toNat] := by
    rw [String.utf8EncodeChar]
    exact if_pos (Nat.le_of_lt_succ ascii)
  have begins : (String.ofList (c :: cs)).toUTF8.data.toList = UInt8.ofNat c.toNat :: cs.utf8Encode.data.toList := by
    rw [String.toUTF8_eq_toByteArray, String.toByteArray_ofList, List.utf8Encode_cons, List.utf8Encode_singleton, single]
    simp
  have differ : UInt8.ofNat c.toNat ≠ 0xEF := by
    intro same
    have values := congrArg UInt8.toNat same
    rw [UInt8.toNat_ofNat'] at values
    change c.toNat % 256 = 239 at values
    omega
  rw [decode_of_first_ne begins differ, fromUTF8?_toUTF8]

theorem parse_toUTF8 {c : Char} (ascii : c.toNat < 128) (cs : List Char) :
    parse (String.ofList (c :: cs)).toUTF8 = Json.readAll (c :: cs) := by
  rw [parse, decode_toUTF8 ascii]
  exact congrArg Json.readAll String.toList_ofList

theorem read_text (v : Value) : Json.read (Json.text v) = Json.readAll (Json.write 0 v) := by
  rw [Json.read, Json.text, String.toList_ofList]

theorem exists_text_map (entries : Entries) :
    ∃ cs, Json.text (.map entries) = String.ofList (Json.openBrace :: cs) := by
  rw [Json.text, Json.write, Json.block]
  split
  · exact ⟨_, rfl⟩
  · exact ⟨_, rfl⟩

theorem decode_text_map (entries : Entries) :
    decode (Json.text (.map entries)).toUTF8 = .ok (Json.text (.map entries)) := by
  obtain ⟨cs, text⟩ := exists_text_map entries
  rw [text]
  exact decode_toUTF8 (by decide) cs

end Document

namespace Finding

variable {f : Finding} {fs : List Finding}

def restored (f : Finding) : Finding :=
  { f with
    severity := if f.severity = 0 then 1 else f.severity
    objectType := f.objectType.orElse (.text "Unknown") }

theorem ofValue_entries (named : f.affectedObject.isEmpty = false) : ofValue (.map f.entries) = .ok f.restored := by
  have severity : (field f.entries "severity" (.int 1)).toInt = .ok f.restored.severity := by
    change ((Value.int f.severity).orElse (.int 1)).toInt = .ok (if f.severity = 0 then 1 else f.severity)
    by_cases zero : f.severity = 0 <;> simp [Value.orElse, Value.isEmpty, Value.toInt, zero]
  have description : (field f.entries "description" (.text "")).display = f.description := by
    change ((Value.text f.description).orElse (.text "")).display = f.description
    by_cases empty : f.description = "" <;> simp [Value.orElse, Value.isEmpty, Value.display_text, empty]
  have object : ∀ fallback, field f.entries "affectedObject" fallback = f.affectedObject := by
    intro fallback
    change f.affectedObject.orElse fallback = f.affectedObject
    rw [Value.orElse, named]
    rfl
  have fixable : (!(field f.entries "hasAutoFix" (.bool false)).isEmpty) = f.hasAutoFix := by
    change (!((Value.bool f.hasAutoFix).orElse (.bool false)).isEmpty) = f.hasAutoFix
    cases f.hasAutoFix <;> rfl
  rw [ofValue, ofEntries, severity]
  simp only [Bind.bind, Except.bind, Pure.pure, Except.pure, description, object, fixable]
  rfl

theorem mapM_ofValue_entries (named : ∀ f ∈ fs, f.affectedObject.isEmpty = false) :
    (fs.map fun f => Value.map f.entries).mapM ofValue = .ok (fs.map restored) := by
  rw [List.mapM_map]
  exact mapM_eq_ok_map fun f member => ofValue_entries (named f member)

end Finding

namespace Disk

variable {d : Disk} {p : Path} {v : Value} {entries : Entries} {fs : List Finding}

theorem document_of_holds (holds : d.Holds p v) (unreadable unparsable : Fault) :
    d.document p unreadable unparsable = .ok v := by
  obtain ⟨content, file, parsed⟩ := holds
  rw [document, file]
  simp only [parsed]

theorem catalog_of_holds (holds : d.Holds p v) (builtin : Bool) : d.catalog p builtin = Catalog.ofDocument v builtin := by
  rw [catalog, document_of_holds holds]
  rfl

theorem holds_of_text (read : d.read? p = some (Json.text (.map entries)).toUTF8)
    (readBack : Json.read (Json.text (.map entries)) = .ok (.map entries)) : d.Holds p (.map entries) := by
  refine ⟨_, read, ?_⟩
  rw [Document.parse, Document.decode_text_map]
  exact readBack

theorem findings_of_text (read : d.read? p = some (Json.text (.map entries)).toUTF8)
    (readBack : Json.read (Json.text (.map entries)) = .ok (.map entries))
    (found : Entries.find? entries "findings" = some (.list (fs.map fun f => .map f.entries)))
    (named : ∀ f ∈ fs, f.affectedObject.isEmpty = false) :
    d.findings p = .ok (fs.map Finding.restored) := by
  rw [findings, snapshotDocument, document_of_holds (holds_of_text read readBack)]
  simp only [Bind.bind, Except.bind, found, Option.getD_some]
  exact Finding.mapM_ofValue_entries named

theorem snapshot_of_text (entry : d.entry? p = some (.file (Json.text (.map entries)).toUTF8))
    (readBack : Json.read (Json.text (.map entries)) = .ok (.map entries)) : d.snapshot p = .ok (.map entries) := by
  rw [snapshot, entry]
  simp only [snapshotDocument, document_of_holds (holds_of_text (read?_of_file entry) readBack)]
  rfl

theorem catalog_of_text (builtin : Bool) (entry : d.entry? p = some (.file (Json.text (.map entries)).toUTF8))
    (readBack : Json.read (Json.text (.map entries)) = .ok (.map entries)) :
    d.catalog p builtin = Catalog.ofDocument (.map entries) builtin :=
  catalog_of_holds (holds_of_text (read?_of_file entry) readBack) builtin

end Disk

end TabularAudit
