import MeshTrace.Proofs.Json.Scalar

/-!
# Documents are read as they were written

A document spells a value (`Document.toValue`).  Whatever the layout, the text of a document
is read as that value (`ofText?_render`).  The proof follows the reader's recursion, by how
deep brackets nest: what stands between brackets is a first item and others behind commas,
and is read item by item (`readBracketed_items`).
-/

namespace MeshTrace.Json

/-! What a document spells -/

mutual

/-- The value that a document spells. -/
def Document.toValue : Document → Value
  | .null => .null
  | .integer n => .number (some n)
  | .text s => .text (some s)
  | .list items => .list (itemValues items)
  | .record fields => .record (fieldValues fields)

/-- The values that the items of a list spell. -/
def itemValues : List Document → List Value
  | [] => []
  | item :: rest => item.toValue :: itemValues rest

/-- What the fields of a record spell. -/
def fieldValues : List (String × Document) → List (Option String × Value)
  | [] => []
  | (name, value) :: rest => (some name, value.toValue) :: fieldValues rest

end

/-- A list spells the values of its items, in order. -/
theorem itemValues_eq_map (items : List Document) : itemValues items = items.map (·.toValue) := by
  induction items with
  | nil => rfl
  | cons item rest ih => rw [itemValues, ih, List.map_cons]

/-- A record spells its names with the values of its fields, in order. -/
theorem fieldValues_eq_map (fields : List (String × Document)) :
    fieldValues fields = fields.map fun field => (some field.1, field.2.toValue) := by
  induction fields with
  | nil => rfl
  | cons field rest ih => rw [fieldValues, ih, List.map_cons]

mutual

/-- How deep the brackets of a document nest. -/
def Document.nesting : Document → Nat
  | .null | .integer _ | .text _ => 0
  | .list items => itemNesting items + 1
  | .record fields => fieldNesting fields + 1

/-- How deep the brackets in the items of a list nest. -/
def itemNesting : List Document → Nat
  | [] => 0
  | item :: rest => max item.nesting (itemNesting rest)

/-- How deep the brackets in the fields of a record nest. -/
def fieldNesting : List (String × Document) → Nat
  | [] => 0
  | (_, value) :: rest => max value.nesting (fieldNesting rest)

end

/-- No item is nested deeper than the items together. -/
theorem nesting_le_itemNesting {item : Document} {items : List Document} (h : item ∈ items) :
    item.nesting ≤ itemNesting items := by
  induction items with
  | nil => cases h
  | cons other rest ih =>
      rw [itemNesting]
      rcases List.mem_cons.mp h with rfl | hrest
      · exact Nat.le_max_left _ _
      · exact Nat.le_trans (ih hrest) (Nat.le_max_right _ _)

theorem nesting_le_fieldNesting {field : String × Document} {fields : List (String × Document)}
    (h : field ∈ fields) : field.2.nesting ≤ fieldNesting fields := by
  induction fields with
  | nil => cases h
  | cons other rest ih =>
      rw [fieldNesting]
      rcases List.mem_cons.mp h with rfl | hrest
      · exact Nat.le_max_left _ _
      · exact Nat.le_trans (ih hrest) (Nat.le_max_right _ _)

/-! Blanks -/

/-- Blanks in front are skipped, whatever follows them. -/
theorem skipBlanks_append {blanks : List Char} (h : ∀ c ∈ blanks, isBlank c = true)
    (input : List Char) : skipBlanks (blanks ++ input) = skipBlanks input :=
  List.dropWhile_append_of_pos h

theorem skipBlanks_cons {c : Char} (h : isBlank c = false) (rest : List Char) :
    skipBlanks (c :: rest) = c :: rest := by
  simp [skipBlanks, h]

theorem isBlank_of_isDigit {c : Char} (h : c.isDigit = true) : isBlank c = false := by
  simp [isBlank, ne_of_isDigit h]

/-- The gaps of a layout are blanks. -/
theorem isBlank_of_mem_gap {layout : Layout} {depth : Nat} {c : Char}
    (h : c ∈ layout.gap depth) : isBlank c = true := by
  cases layout with
  | compact => cases h
  | pretty =>
      rcases List.mem_cons.mp h with rfl | hblank
      · rfl
      · rw [(List.mem_replicate.mp hblank).2]
        rfl

/-! Reading -/

variable {α : Type}

/-- The text is read as `a`, whatever blanks stand in front of it and whatever stands behind
it that goes on with no number. -/
def ReadAs (read : List Char → Option (α × List Char)) (text : List Char) (a : α) : Prop :=
  ∀ blanks rest, (∀ c ∈ blanks, isBlank c = true) → EndsNumber rest →
    read (blanks ++ (text ++ rest)) = some (a, rest)

/-- The text starts with a character that is neither blank nor a closing bracket. -/
def Opens (text : List Char) : Prop :=
  ∃ c more, text = c :: more ∧ isBlank c = false ∧ c ≠ ']' ∧ c ≠ '\x7d'

/-- The character is a closing bracket. -/
def Closes (c : Char) : Prop := c = ']' ∨ c = '\x7d'

theorem Closes.isBlank_eq_false {c : Char} (h : Closes c) : isBlank c = false := by
  rcases h with rfl | rfl <;> rfl

theorem Closes.endsNumber {c : Char} (h : Closes c) (rest : List Char) :
    EndsNumber (c :: rest) := by
  rcases h with rfl | rfl <;> exact endsNumber_cons rest rfl (by decide) (by decide) (by decide)

/-! Brackets -/

variable {read : List Char → Option (α × List Char)} (layout : Layout) (depth : Nat) {close : Char}

/-- What stands behind the last item between brackets. -/
theorem endsNumber_gap (hclose : Closes close) (rest : List Char) :
    EndsNumber (layout.gap depth ++ close :: rest) := by
  cases layout with
  | compact => exact hclose.endsNumber rest
  | pretty => exact endsNumber_cons _ rfl (by decide) (by decide) (by decide)

/-- What follows the first item between brackets: other items behind commas. -/
def behindCommas (others : List (List Char × α)) : List Char :=
  others.flatMap fun other => ',' :: layout.gap depth ++ other.1

/-- Every other item brings a comma at least, so the text has room for as many steps. -/
theorem length_le_length_behindCommas (others : List (List Char × α)) :
    others.length ≤ (behindCommas layout depth others).length := by
  induction others with
  | nil => exact Nat.le_refl _
  | cons other others ih =>
      simp only [behindCommas, List.flatMap_cons, List.length_append, List.length_cons] at ih ⊢
      omega

/-- An item, and others behind commas, are read up to the closing bracket. -/
theorem readItems_items (hclose : Closes close) {text : List Char} {a : α}
    (hfirst : ReadAs read text a) {others : List (List Char × α)}
    (hothers : ∀ other ∈ others, ReadAs read other.1 other.2) {fuel : Nat}
    (hfuel : others.length < fuel) (blanks : List Char) (hblanks : ∀ c ∈ blanks, isBlank c = true)
    (rest : List Char) :
    readItems close read fuel (blanks ++ (text ++
      (behindCommas layout (depth + 1) others ++ (layout.gap depth ++ close :: rest)))) =
        some (a :: others.map (·.2), rest) := by
  induction others generalizing text a fuel blanks with
  | nil =>
      obtain ⟨fuel, rfl⟩ := Nat.exists_eq_succ_of_ne_zero (Nat.ne_of_gt hfuel)
      have hend : EndsNumber (layout.gap depth ++ close :: rest) := endsNumber_gap _ _ hclose rest
      rw [readItems, behindCommas, List.flatMap_nil, List.nil_append, hfirst blanks _ hblanks hend]
      simp [skipBlanks_append fun _ => isBlank_of_mem_gap, skipBlanks_cons hclose.isBlank_eq_false]
  | cons other others ih =>
      obtain ⟨fuel, rfl⟩ := Nat.exists_eq_succ_of_ne_zero (Nat.ne_of_gt (Nat.zero_lt_of_lt hfuel))
      obtain ⟨hother, hothers⟩ := List.forall_mem_cons.mp hothers
      have hmore := ih hother hothers (Nat.lt_of_succ_lt_succ hfuel) (layout.gap (depth + 1))
        fun _ => isBlank_of_mem_gap
      have hend (input : List Char) : EndsNumber (',' :: input) :=
        endsNumber_cons input rfl (by decide) (by decide) (by decide)
      have hcomma : ',' ≠ close := by rcases hclose with rfl | rfl <;> decide
      have hinput : behindCommas layout (depth + 1) (other :: others) ++
          (layout.gap depth ++ close :: rest) = ',' :: (layout.gap (depth + 1) ++ (other.1 ++
            (behindCommas layout (depth + 1) others ++ (layout.gap depth ++ close :: rest)))) := by
        simp [behindCommas]
      rw [hinput, readItems, hfirst blanks _ hblanks (hend _)]
      simp [skipBlanks_cons, isBlank, hcomma, hmore]

/-- **What stands between brackets is read item by item.** -/
theorem readBracketed_items (hclose : Closes close) {text : List Char} (hopens : Opens text)
    {a : α} (hfirst : ReadAs read text a) {others : List (List Char × α)}
    (hothers : ∀ other ∈ others, ReadAs read other.1 other.2) (rest : List Char) :
    readBracketed close read (layout.gap (depth + 1) ++ (text ++
      (behindCommas layout (depth + 1) others ++ (layout.gap depth ++ close :: rest)))) =
        some (a :: others.map (·.2), rest) := by
  obtain ⟨c, more, rfl, hblank, hlist, hrecord⟩ := hopens
  have hc : c ≠ close := by rcases hclose with rfl | rfl <;> assumption
  have hfuel : others.length < (c :: (more ++
      (behindCommas layout (depth + 1) others ++ (layout.gap depth ++ close :: rest)))).length := by
    have := length_le_length_behindCommas layout (depth + 1) others
    simp only [List.length_append, List.length_cons]
    omega
  rw [readBracketed, skipBlanks_append fun _ => isBlank_of_mem_gap, List.cons_append,
    skipBlanks_cons hblank]
  dsimp only
  rw [if_neg hc]
  exact readItems_items layout depth hclose hfirst hothers hfuel [] (by simp) rest

/-! Documents -/

/-- Blanks in front of a value do not matter. -/
theorem readValue_append {blanks : List Char} (h : ∀ c ∈ blanks, isBlank c = true)
    (input : List Char) : readValue depth (blanks ++ input) = readValue depth input := by
  rw [readValue.eq_1, readValue.eq_1 depth input, skipBlanks_append h]

/-- A digit is nothing else that a value could start with. -/
theorem readValue_of_isDigit {c : Char} (h : c.isDigit = true) (rest : List Char) :
    readValue depth (c :: rest) =
      (readNumber (c :: rest)).map fun (n, rest) => (.number n, rest) := by
  rw [readValue, skipBlanks_cons (isBlank_of_isDigit h)]
  split
  case h_7 => rfl
  all_goals
    next hinput => exact absurd (List.cons.inj hinput).1 (ne_of_isDigit h rfl)

/-- A quote starts a text. -/
theorem readValue_quote (rest : List Char) :
    readValue depth ('"' :: rest) = (readText rest).map fun (s, rest) => (.text s, rest) := by
  rw [readValue, skipBlanks_cons rfl]
  rfl

/-- A square bracket starts a list, one level down. -/
theorem readValue_list (rest : List Char) :
    readValue (depth + 1) ('[' :: rest) =
      (readBracketed ']' (readValue depth) rest).map fun (items, rest) => (.list items, rest) := by
  rw [readValue, skipBlanks_cons rfl]
  rfl

/-- A curly bracket starts a record, one level down. -/
theorem readValue_record (rest : List Char) :
    readValue (depth + 1) ('\x7b' :: rest) =
      (readBracketed '\x7d' (readField (readValue depth)) rest).map
        fun (fields, rest) => (.record fields, rest) := by
  rw [readValue, skipBlanks_cons rfl]
  rfl

theorem readAs_null : ReadAs (readValue depth) ['n', 'u', 'l', 'l'] .null := by
  intro blanks rest hblanks _
  rw [readValue_append depth hblanks, readValue, List.cons_append, skipBlanks_cons rfl]
  rfl

/-- The digits of a number are read as that number. -/
theorem readAs_digits (n : Nat) : ReadAs (readValue depth) (digits n) (.number (some n)) := by
  intro blanks rest hblanks hrest
  obtain ⟨c, more, hdigits, hc⟩ := exists_digits_eq_cons n
  have hnumber := readNumber_digits n hrest
  rw [readValue_append depth hblanks]
  rw [hdigits, List.cons_append] at hnumber ⊢
  rw [readValue_of_isDigit depth hc, hnumber]
  rfl

theorem quote_append (s : String) (rest : List Char) :
    quote s ++ rest = '"' :: (s.toList.flatMap escape ++ '"' :: rest) := by
  simp [quote]

/-- A quoted text is read as the text. -/
theorem readAs_quote (s : String) : ReadAs (readValue depth) (quote s) (.text (some s)) := by
  intro blanks rest hblanks _
  rw [readValue_append depth hblanks, quote_append, readValue_quote, readText_quote]
  rfl

/-! Lists and records -/

/-- The items of a list are written behind commas. -/
theorem writeItems_eq_behindCommas (items : List Document) :
    writeItems layout depth items = behindCommas layout depth
      (items.map fun item => (item.write layout depth, item.toValue)) := by
  induction items with
  | nil => rfl
  | cons item rest ih =>
      rw [writeItems, ih]
      simp [behindCommas]

/-- What is written of a field. -/
def fieldText (field : String × Document) : List Char :=
  quote field.1 ++ (layout.colon ++ field.2.write layout depth)

/-- The fields of a record are written behind commas. -/
theorem writeFields_eq_behindCommas (fields : List (String × Document)) :
    writeFields layout depth fields = behindCommas layout depth
      (fields.map fun field =>
        (fieldText layout depth field, (some field.1, field.2.toValue))) := by
  induction fields with
  | nil => rfl
  | cons field rest ih =>
      rw [writeFields, ih]
      simp [behindCommas, fieldText]

theorem opens_quote_append (s : String) (rest : List Char) : Opens (quote s ++ rest) :=
  ⟨'"', _, quote_append s rest, rfl, by decide, by decide⟩

/-- No document starts with a blank or a closing bracket. -/
theorem opens_write (document : Document) : Opens (document.write layout depth) := by
  cases document with
  | null => exact ⟨'n', _, rfl, rfl, by decide, by decide⟩
  | integer n =>
      obtain ⟨c, more, hdigits, hc⟩ := exists_digits_eq_cons n
      exact ⟨c, more, by rw [Document.write, hdigits], isBlank_of_isDigit hc,
        ne_of_isDigit hc rfl, ne_of_isDigit hc rfl⟩
  | text s =>
      rw [Document.write, ← List.append_nil (quote s)]
      exact opens_quote_append s []
  | list items => cases items <;> exact ⟨'[', _, rfl, rfl, by decide, by decide⟩
  | record fields => cases fields <;> exact ⟨'\x7b', _, rfl, rfl, by decide, by decide⟩

variable {layout depth}

/-- A field is read as its name and its value. -/
theorem readAs_fieldText {field : String × Document} {indent : Nat}
    (h : ReadAs (readValue depth) (field.2.write layout indent) field.2.toValue) :
    ReadAs (readField (readValue depth)) (fieldText layout indent field)
      (some field.1, field.2.toValue) := by
  intro blanks rest hblanks hrest
  have hcolon : ∃ gap, layout.colon = ':' :: gap ∧ ∀ c ∈ gap, isBlank c = true := by
    cases layout
    · exact ⟨[], rfl, by simp⟩
    · exact ⟨[' '], rfl, by simp [isBlank]⟩
  obtain ⟨gap, hcolon, hgap⟩ := hcolon
  rw [readField, skipBlanks_append hblanks, fieldText, hcolon]
  simp only [List.append_assoc]
  rw [quote_append, skipBlanks_cons rfl]
  simp [readText_quote, skipBlanks_cons, isBlank, h gap rest hgap hrest]

/-- A list is read as the list of its items, if these are read. -/
theorem readAs_list {items : List Document}
    (h : ∀ item ∈ items, ∀ indent,
      ReadAs (readValue depth) (item.write layout indent) item.toValue) (indent : Nat) :
    ReadAs (readValue (depth + 1)) ((Document.list items).write layout indent)
      (Document.list items).toValue := by
  intro blanks rest hblanks _
  rw [readValue_append _ hblanks]
  cases items with
  | nil =>
      rw [Document.write, List.cons_append, readValue_list]
      rfl
  | cons item items =>
      obtain ⟨hitem, hitems⟩ := List.forall_mem_cons.mp h
      have hothers : ∀ other ∈ items.map fun item => (item.write layout (indent + 1), item.toValue),
          ReadAs (readValue depth) other.1 other.2 := by
        intro other hother
        obtain ⟨item, hitem, rfl⟩ := List.mem_map.mp hother
        exact hitems item hitem (indent + 1)
      have hread := readBracketed_items layout indent (.inl rfl) (opens_write layout _ item)
        (hitem (indent + 1)) hothers rest
      rw [Document.write, writeItems_eq_behindCommas]
      simp only [List.cons_append, List.append_assoc, List.nil_append]
      rw [readValue_list, hread]
      simp [Document.toValue, itemValues, itemValues_eq_map]

/-- A record is read as the record of its fields, if these are read. -/
theorem readAs_record {fields : List (String × Document)}
    (h : ∀ field ∈ fields, ∀ indent,
      ReadAs (readValue depth) (field.2.write layout indent) field.2.toValue) (indent : Nat) :
    ReadAs (readValue (depth + 1)) ((Document.record fields).write layout indent)
      (Document.record fields).toValue := by
  intro blanks rest hblanks _
  rw [readValue_append _ hblanks]
  cases fields with
  | nil =>
      rw [Document.write, List.cons_append, readValue_record]
      rfl
  | cons field fields =>
      obtain ⟨hfield, hfields⟩ := List.forall_mem_cons.mp h
      have hothers : ∀ other ∈ fields.map fun field =>
            (fieldText layout (indent + 1) field, (some field.1, field.2.toValue)),
          ReadAs (readField (readValue depth)) other.1 other.2 := by
        intro other hother
        obtain ⟨field, hfield, rfl⟩ := List.mem_map.mp hother
        exact readAs_fieldText (hfields field hfield (indent + 1))
      have hread := readBracketed_items layout indent (.inr rfl) (opens_quote_append field.1 _)
        (readAs_fieldText (hfield (indent + 1))) hothers rest
      obtain ⟨name, value⟩ := field
      rw [Document.write, writeFields_eq_behindCommas]
      simp only [fieldText, List.cons_append, List.append_assoc, List.nil_append] at hread ⊢
      rw [readValue_record, hread]
      simp [Document.toValue, fieldValues, fieldValues_eq_map]

/-- **A document is read as it was written.** -/
theorem readAs_write (document : Document) (hdepth : document.nesting ≤ depth) (indent : Nat) :
    ReadAs (readValue depth) (document.write layout indent) document.toValue := by
  induction depth generalizing document indent with
  | zero =>
      cases document with
      | null => exact readAs_null 0
      | integer n => exact readAs_digits 0 n
      | text s => exact readAs_quote 0 s
      | list items => simp [Document.nesting] at hdepth
      | record fields => simp [Document.nesting] at hdepth
  | succ depth ih =>
      cases document with
      | null => exact readAs_null _
      | integer n => exact readAs_digits _ n
      | text s => exact readAs_quote _ s
      | list items =>
          refine readAs_list (fun item hitem indent => ih item ?_ indent) indent
          exact Nat.le_trans (nesting_le_itemNesting hitem) (Nat.le_of_succ_le_succ hdepth)
      | record fields =>
          refine readAs_record (fun field hfield indent => ih field.2 ?_ indent) indent
          exact Nat.le_trans (nesting_le_fieldNesting hfield) (Nat.le_of_succ_le_succ hdepth)

/-! Whole texts -/

mutual

/-- The brackets of a document do not nest deeper than its text is long. -/
theorem nesting_le_length_write (layout : Layout) (indent : Nat) :
    (document : Document) → document.nesting ≤ (document.write layout indent).length
  | .null | .integer _ | .text _ => Nat.zero_le _
  | .list [] => by simp [Document.nesting, itemNesting, Document.write]
  | .list (item :: rest) => by
      have hitem := nesting_le_length_write layout (indent + 1) item
      have hrest := itemNesting_le_length_writeItems layout (indent + 1) rest
      simp only [Document.nesting, itemNesting, Document.write, List.length_append,
        List.length_cons]
      omega
  | .record [] => by simp [Document.nesting, fieldNesting, Document.write]
  | .record ((name, value) :: rest) => by
      have hvalue := nesting_le_length_write layout (indent + 1) value
      have hrest := fieldNesting_le_length_writeFields layout (indent + 1) rest
      simp only [Document.nesting, fieldNesting, Document.write, List.length_append,
        List.length_cons]
      omega

/-- Items take more characters than they nest brackets. -/
theorem itemNesting_le_length_writeItems (layout : Layout) (indent : Nat) :
    (items : List Document) → itemNesting items ≤ (writeItems layout indent items).length
  | [] => Nat.zero_le _
  | item :: rest => by
      have hitem := nesting_le_length_write layout indent item
      have hrest := itemNesting_le_length_writeItems layout indent rest
      simp only [itemNesting, writeItems, List.length_append, List.length_cons]
      omega

theorem fieldNesting_le_length_writeFields (layout : Layout) (indent : Nat) :
    (fields : List (String × Document)) →
      fieldNesting fields ≤ (writeFields layout indent fields).length
  | [] => Nat.zero_le _
  | (name, value) :: rest => by
      have hvalue := nesting_le_length_write layout indent value
      have hrest := fieldNesting_le_length_writeFields layout indent rest
      simp only [fieldNesting, writeFields, List.length_append, List.length_cons]
      omega

end

/-- **The text of a document spells the document's value.** -/
theorem ofText?_render (layout : Layout) (document : Document) :
    Value.ofText? (document.render layout) = some document.toValue := by
  have htext : (document.render layout).toList = document.write layout 0 := String.toList_ofList
  have hdepth : document.nesting ≤ (document.render layout).length := by
    rw [← String.length_toList, htext]
    exact nesting_le_length_write layout 0 document
  have hread : ReadAs (readValue (document.render layout).length) (document.write layout 0)
      document.toValue := readAs_write document hdepth 0
  have hwhole := hread [] [] (by simp) endsNumber_nil
  rw [List.nil_append, List.append_nil] at hwhole
  rw [Value.ofText?, htext, hwhole]
  rfl

end MeshTrace.Json
