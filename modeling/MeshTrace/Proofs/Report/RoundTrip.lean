import MeshTrace.Proofs.Json.RoundTrip
import MeshTrace.Report.Json

/-!
# Reports are read as they were written

Each part of a report is a document, and what that document spells is read as the part
again (`Report.ofValue?_toDocument`).  A record is looked into by the names of its fields,
which differ (`parts?_record`).  So the text of a report spells that report, in both
layouts.
-/

namespace MeshTrace

namespace Json

/-! Looking into what a document spells -/

/-- Where every item can be read, so can the list. -/
theorem mapM_eq_some_map {α β : Type} {f : α → Option β} {g : α → β} {xs : List α}
    (h : ∀ x ∈ xs, f x = some (g x)) : xs.mapM f = some (xs.map g) := by
  induction xs with
  | nil => rfl
  | cons x xs ih =>
      obtain ⟨hx, hxs⟩ := List.forall_mem_cons.mp h
      simp [List.mapM_cons, hx, ih hxs]

/-- Under a name that no field has there is nothing. -/
theorem under_fieldValues_of_notMem {fields : List (String × Document)} {name : String}
    (h : name ∉ fields.map (·.1)) : Value.under (fieldValues fields) name = [] := by
  induction fields with
  | nil => rfl
  | cons field rest ih =>
      obtain ⟨hfield, hrest⟩ := not_or.mp (mt List.mem_cons.mpr h)
      have hskip : (some field.1 == some name) = false := by simpa using Ne.symm hfield
      rw [fieldValues, Value.under, List.filter_cons_of_neg (by simp [hskip])]
      exact ih hrest

/-- The value of a field stands under its name alone. -/
theorem under_fieldValues {fields : List (String × Document)}
    (hnames : (fields.map (·.1)).Nodup) {field : String × Document} (h : field ∈ fields) :
    Value.under (fieldValues fields) field.1 = [field.2.toValue] := by
  induction fields with
  | nil => cases h
  | cons other rest ih =>
      obtain ⟨hother, hrest⟩ := List.nodup_cons.mp hnames
      rcases List.mem_cons.mp h with rfl | hmem
      · have hnone := under_fieldValues_of_notMem hother
        rw [fieldValues, Value.under, List.filter_cons_of_pos (by simp), List.map_cons]
        exact congrArg _ hnone
      · have hne : other.1 ≠ field.1 := by
          intro heq
          exact hother (List.mem_map.mpr ⟨field, hmem, heq.symm⟩)
        rw [fieldValues, Value.under, List.filter_cons_of_neg (by simp [hne])]
        exact ih hrest hmem

/-- **The parts of a record are the values of its fields.** -/
theorem parts?_record {fields : List (String × Document)} {names : List String}
    (hnames : fields.map (·.1) = names) (hdistinct : names.Nodup) :
    (Document.record fields).toValue.parts? names =
      some (fields.map fun field => some field.2.toValue) := by
  subst hnames
  have hnamed : (fieldValues fields).all fun field => field.1.isSome := by
    simp [fieldValues_eq_map]
  have hsingle (field) (h : field ∈ fields) :
      (Value.single? (fieldValues fields) ∘ Prod.fst) field = some (some field.2.toValue) := by
    rw [Function.comp_apply, Value.single?, under_fieldValues hdistinct h]
  have hparts : (fields.map (·.1)).mapM (Value.single? (fieldValues fields)) =
      some (fields.map fun field => some field.2.toValue) := by
    rw [List.mapM_map]
    exact mapM_eq_some_map hsingle
  rw [Document.toValue, Value.parts?, hnamed, hparts]
  rfl

/-- A number within the limit is read back. -/
theorem integer?_integer {n limit : Nat} (h : n ≤ limit) :
    Value.integer? limit (Document.integer n).toValue = some n := by
  simp [Document.toValue, Value.integer?, h]

theorem u64?_integer (n : UInt64) : Value.u64? (Document.integer n.toNat).toValue = some n := by
  rw [Value.u64?, integer?_integer (Nat.le_sub_one_of_lt n.toNat_lt_size), Option.map_some,
    UInt64.ofNat_toNat]

theorem u32?_integer (n : UInt32) : Value.u32? (Document.integer n.toNat).toValue = some n := by
  rw [Value.u32?, integer?_integer (Nat.le_sub_one_of_lt n.toNat_lt_size), Option.map_some,
    UInt32.ofNat_toNat]

theorem u8?_integer (n : UInt8) : Value.u8? (Document.integer n.toNat).toValue = some n := by
  rw [Value.u8?, integer?_integer (Nat.le_sub_one_of_lt n.toNat_lt_size), Option.map_some,
    UInt8.ofNat_toNat]

variable {α : Type} {read : Value → Option α} {write : α → Document}

/-- A list is read if its items are. -/
theorem list?_list (h : ∀ a, read (write a).toValue = some a) (items : List α) :
    Value.list? read (Document.list (items.map write)).toValue = some items := by
  have hitems : (items.map fun a => (write a).toValue).mapM read = some items := by
    rw [List.mapM_map]
    have hmap := mapM_eq_some_map fun a (_ : a ∈ items) => h a
    rwa [List.map_id'] at hmap
  rw [Document.toValue, itemValues_eq_map, List.map_map]
  exact hitems

/-- A part that can be absent is read if nothing else can be taken for an absent one. -/
theorem optional?_optional (h : ∀ a, read (write a).toValue = some a)
    (hnull : read .null = none) (part : Option α) :
    Value.optional? read (some (Document.optional write part).toValue) = some part := by
  cases part with
  | none => rfl
  | some a =>
      have hpresent : (write a).toValue ≠ .null := by
        intro heq
        have hread := h a
        rw [heq, hnull] at hread
        cases hread
      rw [Document.optional, Value.optional?.eq_3 _ _ hpresent, h]
      rfl

end Json

open Json

/-! The parts of a report -/

/-- A correlation is read back. -/
theorem Correlation.ofValue?_toDocument (c : Correlation) :
    Correlation.ofValue? c.toDocument.toValue = some c := by
  rw [Correlation.ofValue?, Correlation.toDocument, parts?_record]
  · simp [u64?_integer]
  · rfl
  · decide

/-- The section for correlations is read back. -/
theorem CorrelationStats.ofValue?_toDocument (s : CorrelationStats) :
    CorrelationStats.ofValue? s.toDocument.toValue = some s := by
  rw [CorrelationStats.ofValue?, CorrelationStats.toDocument, parts?_record]
  · simp [u64?_integer, optional?_optional u64?_integer rfl,
      list?_list Correlation.ofValue?_toDocument]
  · rfl
  · decide

/-- A cached path is read back. -/
theorem CachedPath.ofValue?_toDocument (p : CachedPath) :
    CachedPath.ofValue? p.toDocument.toValue = some p := by
  have htext : Value.text? (Document.text p.traceId).toValue = some p.traceId := rfl
  rw [CachedPath.ofValue?, CachedPath.toDocument, parts?_record]
  · simp [htext, list?_list u8?_integer]
  · rfl
  · decide

/-- The section for the path cache is read back. -/
theorem PathCacheStats.ofValue?_toDocument (s : PathCacheStats) :
    PathCacheStats.ofValue? s.toDocument.toValue = some s := by
  rw [PathCacheStats.ofValue?, PathCacheStats.toDocument, parts?_record]
  · simp [u64?_integer, u32?_integer, u8?_integer, list?_list CachedPath.ofValue?_toDocument]
  · rfl
  · decide

/-- A protocol is known by its name. -/
theorem Protocol.ofName?_name (protocol : Protocol) :
    Protocol.ofName? protocol.name = some protocol := by
  cases protocol <;> rfl

/-- **A report is read back from its document**, with the sections that can be absent or without
them. -/
theorem Report.ofValue?_toDocument (r : Report) :
    Report.ofValue? r.toDocument.toValue = some r := by
  have htext (s : String) : Value.text? (Document.text s).toValue = some s := rfl
  have hprotocol : Value.protocol? (Document.text r.protocol.name).toValue = some r.protocol :=
    r.protocol.ofName?_name
  rw [Report.ofValue?, Report.toDocument, parts?_record]
  · simp [htext, hprotocol, u64?_integer, CorrelationStats.ofValue?_toDocument,
      optional?_optional u8?_integer rfl,
      optional?_optional PathCacheStats.ofValue?_toDocument rfl]
  · rfl
  · decide

/-- **A report is read back from its text**, in both layouts. -/
theorem reports_read_back (layout : Layout) (r : Report) :
    Report.ofText? (r.render layout) = some r := by
  rw [Report.ofText?, Report.render, Json.ofText?_render, Option.bind_some,
    Report.ofValue?_toDocument]

end MeshTrace
