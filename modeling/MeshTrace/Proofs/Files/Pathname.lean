import MeshTrace.Files.Tree

/-!
# Names along joined pathnames

A pathname that is joined to another one without being absolute goes on where that one
ends: it has the names of both (`names_join`) and starts where the left one starts
(`isAbsolute_join`).
-/

namespace MeshTrace.Pathname

/-! Pieces -/

theorem pieces_cons_slash (rest : List Char) : pieces ('/' :: rest) = [] :: pieces rest := by
  rw [pieces, if_pos rfl]

/-- Every text has a piece, be it empty. -/
theorem pieces_ne_nil (text : List Char) : pieces text ≠ [] := by
  cases text with
  | nil => simp [pieces]
  | cons c rest =>
      rw [pieces]
      split
      · simp
      · split <;> simp

/-- A character that is no slash belongs to the first piece. -/
theorem exists_pieces_cons {c : Char} (h : c ≠ '/') (rest : List Char) :
    ∃ piece more, pieces rest = piece :: more ∧ pieces (c :: rest) = (c :: piece) :: more := by
  cases hrest : pieces rest with
  | nil => exact absurd hrest (pieces_ne_nil rest)
  | cons piece more => exact ⟨piece, more, rfl, by rw [pieces, if_neg h, hrest]⟩

/-- A slash ends the pieces in front of it. -/
theorem pieces_append_slash (left right : List Char) :
    pieces (left ++ '/' :: right) = pieces left ++ pieces right := by
  induction left with
  | nil => rw [List.nil_append, pieces_cons_slash]; rfl
  | cons c left ih =>
      by_cases hc : c = '/'
      · subst hc
        rw [List.cons_append, pieces_cons_slash, pieces_cons_slash, ih, List.cons_append]
      · obtain ⟨piece, more, hleft, hpieces⟩ := exists_pieces_cons hc left
        rw [hleft, List.cons_append] at ih
        rw [hpieces, List.cons_append, pieces, if_neg hc, ih, List.cons_append]

/-- The pieces of a text hold no other characters. -/
theorem mem_of_mem_pieces {text piece : List Char} (h : piece ∈ pieces text) {c : Char}
    (hc : c ∈ piece) : c ∈ text := by
  induction text generalizing piece with
  | nil =>
      rw [pieces, List.mem_singleton] at h
      rw [h] at hc
      exact hc
  | cons d rest ih =>
      by_cases hd : d = '/'
      · subst hd
        rw [pieces_cons_slash] at h
        rcases List.mem_cons.mp h with rfl | hmem
        · cases hc
        · exact List.mem_cons_of_mem _ (ih hmem hc)
      · obtain ⟨first, more, hrest, hpieces⟩ := exists_pieces_cons hd rest
        rw [hpieces] at h
        rw [hrest] at ih
        rcases List.mem_cons.mp h with rfl | hmem
        · rcases List.mem_cons.mp hc with rfl | hc
          · exact List.mem_cons_self
          · exact List.mem_cons_of_mem _ (ih List.mem_cons_self hc)
        · exact List.mem_cons_of_mem _ (ih (List.mem_cons_of_mem _ hmem) hc)

/-- A text without slashes is one piece. -/
theorem pieces_eq_singleton {text : List Char} (h : '/' ∉ text) : pieces text = [text] := by
  induction text with
  | nil => rfl
  | cons c rest ih =>
      obtain ⟨hc, hrest⟩ := not_or.mp (mt List.mem_cons.mpr h)
      rw [pieces, if_neg (Ne.symm hc), ih hrest]

/-! Names -/

/-- The characters of a name are some of the pathname. -/
theorem mem_of_mem_names {path name : String} (h : name ∈ names path) {c : Char}
    (hc : c ∈ name.toList) : c ∈ path.toList := by
  obtain ⟨piece, hpiece, rfl⟩ := List.mem_map.mp h
  rw [String.toList_ofList] at hc
  exact mem_of_mem_pieces (List.mem_filter.mp hpiece).1 hc

/-- A pathname that does not start with a slash has names, unless it is empty. -/
theorem names_ne_nil {path : String} (hne : path ≠ "") (hrelative : isAbsolute path = false) :
    names path ≠ [] := by
  cases htext : path.toList with
  | nil => exact absurd (String.toList_eq_nil_iff.mp htext) hne
  | cons c rest =>
      have hc : c ≠ '/' := by
        rintro rfl
        simp [isAbsolute, htext] at hrelative
      obtain ⟨piece, more, -, hpieces⟩ := exists_pieces_cons hc rest
      simp [names, htext, hpieces]

/-- What stands between the parts of a joined pathname. -/
def separator (left : String) : List Char :=
  if left.isEmpty || endsInSlash left then [] else ['/']

/-- A joined pathname is the left one, a slash if one is missing, and the right one. -/
theorem toList_join {left right : String} (h : isAbsolute right = false) :
    (join left right).toList = left.toList ++ (separator left ++ right.toList) := by
  rw [join, if_neg (by simp [h]), separator]
  split
  · simp
  · simp

/-- Joining makes no pathname shorter. -/
theorem utf8ByteSize_le_join {left right : String} (h : isAbsolute right = false) :
    left.utf8ByteSize ≤ (join left right).utf8ByteSize := by
  rw [join, if_neg (by simp [h])]
  split <;> simp only [String.utf8ByteSize_append] <;> omega

/-- An empty left side takes no slash. -/
theorem separator_of_toList_eq_nil {left : String} (h : left.toList = []) :
    separator left = [] := by
  rw [String.toList_eq_nil_iff.mp h]
  rfl

/-- Nothing but the names along the way depends on where a slash is put. -/
theorem filter_pieces_separator (left : String) (right : List Char) :
    (pieces (left.toList ++ (separator left ++ right))).filter (· ≠ []) =
      (pieces left.toList).filter (· ≠ []) ++ (pieces right).filter (· ≠ []) := by
  rw [separator]
  split
  · next hleft =>
      rcases Bool.or_eq_true_iff.mp hleft with hempty | hslash
      · rw [String.isEmpty_iff.mp hempty]
        rfl
      · obtain ⟨before, hbefore⟩ := List.getLast?_eq_some_iff.mp (eq_of_beq hslash)
        rw [hbefore, List.nil_append, List.append_assoc, List.singleton_append,
          pieces_append_slash, pieces_append_slash, List.filter_append, List.filter_append]
        simp [pieces]
  · rw [List.singleton_append, pieces_append_slash, List.filter_append]

/-- **A joined pathname has the names of both its parts.** -/
theorem names_join {left right : String} (h : isAbsolute right = false) :
    names (join left right) = names left ++ names right := by
  rw [names, toList_join h, filter_pieces_separator, List.map_append]
  rfl

/-- **A joined pathname starts where its left part starts.** -/
theorem isAbsolute_join {left right : String} (h : isAbsolute right = false) :
    isAbsolute (join left right) = isAbsolute left := by
  rw [isAbsolute, isAbsolute, toList_join h]
  cases hleft : left.toList with
  | nil =>
      rw [separator_of_toList_eq_nil hleft]
      exact h
  | cons c rest => rfl

end MeshTrace.Pathname
