import ShaderBinding.Text.WhiteSpace

/-! Lines of a text, and lines without the white space at their ends. -/

namespace ShaderBinding

/-- The pieces of a text between its line breaks. A text that ends with a line break has an empty
last piece. -/
def textLines (text : String) : List (List Char) := text.toList.splitOn '\n'

section

variable {α : Type} [DecidableEq α]

theorem length_splitOn (mark : α) (items : List α) :
    (items.splitOn mark).length = items.count mark + 1 := by
  induction items with
  | nil => rfl
  | cons item items ih =>
    rw [List.splitOn_cons_eq_if_modifyHead, List.count_cons]
    split
    · rw [List.length_cons, ih]
    · rw [List.length_modifyHead, ih, Nat.add_zero]

theorem head?_splitOn (mark : α) (items : List α) :
    (items.splitOn mark).head? = some (items.takeWhile (· != mark)) := by
  induction items with
  | nil => rfl
  | cons item items ih =>
    rw [List.splitOn_cons_eq_if_modifyHead]
    by_cases hmark : item = mark
    · simp [hmark]
    · simp [hmark, ih]

/-- The piece around a point between two items, and its number. -/
theorem getElem?_splitOn_count (mark : α) (behind ahead : List α) :
    ((behind.reverse ++ ahead).splitOn mark)[behind.count mark]? =
      some ((behind.takeWhile (· != mark)).reverse ++ ahead.takeWhile (· != mark)) := by
  induction behind generalizing ahead with
  | nil =>
    rw [List.count_nil, ← List.head?_eq_getElem?]
    exact head?_splitOn mark ahead
  | cons item behind ih =>
    rw [List.reverse_cons, List.append_assoc, List.singleton_append]
    by_cases hmark : item = mark
    · subst hmark
      have hfront : (behind.reverse.splitOn item).length = (item :: behind).count item := by
        rw [length_splitOn, List.count_reverse, List.count_cons_self]
      rw [List.splitOn_append_cons_self, ← hfront, List.getElem?_append_right (Nat.le_refl _),
        Nat.sub_self, ← List.head?_eq_getElem?, head?_splitOn]
      simp
    · rw [List.count_cons_of_ne hmark, ih]
      simp [hmark]

theorem takeWhile_append_mark {mark : α} {front : List α} (h : mark ∉ front) (back : List α) :
    (front ++ mark :: back).takeWhile (· != mark) = front := by
  have hfront : ∀ item ∈ front, (item != mark) = true :=
    fun item hitem => bne_iff_ne.mpr fun he => h (he ▸ hitem)
  rw [List.takeWhile_append_of_pos hfront]
  simp

theorem dropWhile_append_mark {mark : α} {front : List α} (h : mark ∉ front) (back : List α) :
    (front ++ mark :: back).dropWhile (· != mark) = mark :: back := by
  have hfront : ∀ item ∈ front, (item != mark) = true :=
    fun item hitem => bne_iff_ne.mpr fun he => h (he ▸ hitem)
  rw [List.dropWhile_append_of_pos hfront]
  simp

/-- What stands before the first mark, and what behind it, can be told from the whole. -/
theorem eq_of_append_mark_eq {mark : α} {front front' back back' : List α}
    (hfront : mark ∉ front) (hfront' : mark ∉ front')
    (h : front ++ mark :: back = front' ++ mark :: back') : front = front' ∧ back = back' := by
  have hsplit := congrArg (List.splitOn mark) h
  rw [List.splitOn_append_cons_self_of_not_mem hfront,
    List.splitOn_append_cons_self_of_not_mem hfront'] at hsplit
  obtain rfl : front = front' := (List.cons.inj hsplit).1
  exact ⟨rfl, (List.cons.inj (List.append_cancel_left h)).2⟩

end

theorem mem_of_mem_intercalate {α : Type} {item : α} {divider : List α} {pieces : List (List α)}
    (h : item ∈ divider.intercalate pieces) : item ∈ divider ∨ ∃ piece ∈ pieces, item ∈ piece := by
  induction pieces with
  | nil => simp at h
  | cons piece pieces ih =>
    by_cases hnone : pieces = []
    · have hpiece : item ∈ piece := by simpa [hnone] using h
      exact .inr ⟨piece, by simp, hpiece⟩
    · rw [List.intercalate_cons_of_ne_nil hnone, List.mem_append, List.mem_append] at h
      rcases h with (h | h) | h
      · exact .inr ⟨piece, by simp, h⟩
      · exact .inl h
      · rcases ih h with h | ⟨other, hother, h⟩
        · exact .inl h
        · exact .inr ⟨other, by simp [hother], h⟩

theorem notMem_toDigits {c : Char} (h : c.isDigit = false) (n : Nat) : c ∉ Nat.toDigits 10 n := by
  intro hmem
  have hdigit := Nat.isDigit_of_mem_toDigits (by decide) (by decide) hmem
  simp [h] at hdigit

theorem textLines_join {lines : List String} (h : ∀ line ∈ lines, '\n' ∉ line.toList) :
    textLines (String.join (lines.map (· ++ "\n"))) = lines.map String.toList ++ [[]] := by
  induction lines with
  | nil => rfl
  | cons line rest ih =>
    have hline : '\n' ∉ line.toList := h line (by simp)
    have hrest := ih (fun other hother => h other (by simp [hother]))
    simp only [textLines, String.toList_join] at hrest ⊢
    simp only [List.map_cons, List.flatMap_cons, String.toList_append, List.append_assoc]
    rw [show "\n".toList = ['\n'] from rfl, List.singleton_append,
      List.splitOn_append_cons_self_of_not_mem hline, hrest]
    rfl

/-- The characters of some lines, each with its line break. -/
def lineChars (lines : List String) : List Char := lines.flatMap fun line => line.toList ++ ['\n']

theorem lineChars_append (first second : List String) :
    lineChars (first ++ second) = lineChars first ++ lineChars second := List.flatMap_append

theorem lineChars_eq_nil_iff {lines : List String} : lineChars lines = [] ↔ lines = [] := by
  cases lines <;> simp [lineChars]

theorem lineChars_eq_flatMap (lines : List String) :
    lineChars lines = (lines.map String.toList).flatMap (· ++ ['\n']) := by
  simp [lineChars, List.flatMap_map]

theorem toList_join_lines (lines : List String) :
    (String.join (lines.map (· ++ "\n"))).toList = lineChars lines := by
  have hbreak : "\n".toList = ['\n'] := String.toList_ofList
  simp [lineChars, String.toList_join, List.flatMap_map, hbreak]

theorem dropWhile_isWhiteSpace_append {pad body : List Char}
    (hpad : ∀ c ∈ pad, isWhiteSpace c = true) (hbody : ∀ c ∈ body.head?, isWhiteSpace c = false) :
    (pad ++ body).dropWhile isWhiteSpace = body := by
  rw [List.dropWhile_append_of_pos hpad]
  cases body with
  | nil => rfl
  | cons c rest => simp [hbody c (by simp)]

/-- Trimming takes away the white space around a text that is visible at both ends. -/
theorem trimmed_append {pad body : List Char} (hpad : ∀ c ∈ pad, isWhiteSpace c = true)
    (hfirst : ∀ c ∈ body.head?, isWhiteSpace c = false)
    (hlast : ∀ c ∈ body.getLast?, isWhiteSpace c = false) : trimmed (pad ++ body) = body := by
  rw [trimmed, dropWhile_isWhiteSpace_append hpad hfirst]
  have hreverse : ([] ++ body.reverse).dropWhile isWhiteSpace = body.reverse :=
    dropWhile_isWhiteSpace_append (by simp) (by simpa using hlast)
  rw [List.nil_append] at hreverse
  rw [hreverse, List.reverse_reverse]

/-- What is left of a line after trimming starts with its first visible character. -/
theorem head?_trimmed (line : List Char) :
    (trimmed line).head? = (line.dropWhile isWhiteSpace).head? := by
  have hbody := List.head?_dropWhile_not isWhiteSpace line
  unfold trimmed
  cases hdrop : line.dropWhile isWhiteSpace with
  | nil => rfl
  | cons c rest =>
    have hc : isWhiteSpace c = false := by simpa [hdrop] using hbody
    have hkeep : ∀ xs : List Char,
        (xs ++ [c]).dropWhile isWhiteSpace = xs.dropWhile isWhiteSpace ++ [c] := by
      intro xs
      rw [List.dropWhile_append]
      split
      · simp_all
      · rfl
    simp [hkeep]

end ShaderBinding
