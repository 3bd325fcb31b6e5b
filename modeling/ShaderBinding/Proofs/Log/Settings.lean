import ShaderBinding.Log.Filter
import ShaderBinding.Proofs.Text.Lines

/-! Settings of the log that are lists of items. None of them is complained about, whatever it
shows, and the setting of the last level shows everything. -/

namespace ShaderBinding

theorem trimmed_eq_self {chars : List Char} (h : ∀ c ∈ chars, isWhiteSpace c = false) :
    trimmed chars = chars := by
  have hfirst : ∀ c ∈ chars.head?, isWhiteSpace c = false :=
    fun c hc => h c (List.mem_of_mem_head? hc)
  have hlast : ∀ c ∈ chars.getLast?, isWhiteSpace c = false :=
    fun c hc => h c (List.mem_of_mem_getLast? hc)
  have hpad : ∀ c ∈ ([] : List Char), isWhiteSpace c = true := by simp
  exact trimmed_append hpad hfirst hlast

namespace Log

/-- A word of a setting: letters, digits, underscores and colons, or any other characters but white
space and those that divide a setting. -/
def IsWord (word : String) : Prop :=
  ∀ c ∈ word.toList, c ∉ [',', '=', '/'] ∧ isWhiteSpace c = false

instance (word : String) : Decidable (IsWord word) := List.decidableBAll _ _

/-- The names of the levels and of none, in letters of either case. -/
def IsLevelName (name : String) : Prop :=
  name.toLower ∈ ["off", "error", "warn", "info", "debug", "trace"]

instance (name : String) : Decidable (IsLevelName name) :=
  inferInstanceAs (Decidable (name.toLower ∈ ["off", "error", "warn", "info", "debug", "trace"]))

theorem letter_of_toLower {c : Char} (h : 97 ≤ c.toLower.toNat ∧ c.toLower.toNat ≤ 122) :
    65 ≤ c.toNat ∧ c.toNat ≤ 90 ∨ 97 ≤ c.toNat ∧ c.toNat ≤ 122 := by
  by_cases hupper : c.val ≥ 'A'.val ∧ c.val ≤ 'Z'.val
  · exact .inl hupper
  · have hself : c.toLower = c := dif_neg hupper
    rw [hself] at h
    exact .inr h

theorem isWord_of_letters {word : String}
    (h : ∀ c ∈ word.toList, 65 ≤ c.toNat ∧ c.toNat ≤ 90 ∨ 97 ≤ c.toNat ∧ c.toNat ≤ 122) :
    IsWord word := by
  intro c hc
  have hletter := h c hc
  constructor
  · simp only [List.mem_cons, List.not_mem_nil, or_false]
    rintro (rfl | rfl | rfl) <;> simp at hletter
  · simp only [isWhiteSpace, whiteSpaceRanges, inRanges]
    grind

theorem IsLevelName.isWord {name : String} (h : IsLevelName name) : IsWord name := by
  have hnames : ∀ lower ∈ ["off", "error", "warn", "info", "debug", "trace"],
      (lower.toList.all fun c => 97 ≤ c.toNat && c.toNat ≤ 122) = true := by decide
  have hmap : name.toLower.toList = name.toList.map Char.toLower := String.toList_map
  have hlower := hnames _ h
  rw [hmap, List.all_map, List.all_eq_true] at hlower
  apply isWord_of_letters
  intro c hc
  have hletter := hlower c hc
  simp only [Function.comp_apply, Bool.and_eq_true, decide_eq_true_eq] at hletter
  exact letter_of_toLower hletter

theorem IsLevelName.ofName? {name : String} (h : IsLevelName name) :
    ∃ threshold, Level.ofName? name = some threshold := by
  apply Option.isSome_iff_exists.mp
  simp only [IsLevelName, List.mem_cons, List.not_mem_nil, or_false] at h
  rcases h with h | h | h | h | h | h <;> simp [Level.ofName?, h]

/-- An item of a setting: a level, a target, or a level for a target. -/
inductive Item where
  | level (name : String)
  | target (word : String)
  | both (word name : String)
  deriving DecidableEq, Repr

namespace Item

def text : Item → String
  | level name => name
  | target word => word
  | both word name => word ++ "=" ++ name

def IsPlain : Item → Prop
  | level name => IsLevelName name
  | target word => IsWord word
  | both word name => IsWord word ∧ IsLevelName name

instance : DecidablePred IsPlain
  | level name => inferInstanceAs (Decidable (IsLevelName name))
  | target word => inferInstanceAs (Decidable (IsWord word))
  | both word name => inferInstanceAs (Decidable (IsWord word ∧ IsLevelName name))

variable {item : Item}

theorem IsPlain.chars (h : item.IsPlain) :
    ∀ c ∈ item.text.toList, c ∉ [',', '/'] ∧ isWhiteSpace c = false := by
  have hequals : "=".toList = ['='] := String.toList_ofList
  have hword : ∀ {word : String}, IsWord word →
      ∀ c ∈ word.toList, c ∉ [',', '/'] ∧ isWhiteSpace c = false := by
    intro word hword c hc
    have hplain := hword c hc
    simp_all
  cases item with
  | level name => exact hword (IsLevelName.isWord h)
  | target word => exact hword h
  | both word name =>
    intro c hc
    simp only [text, String.toList_append, hequals, List.mem_append, List.mem_singleton] at hc
    rcases hc with (hc | rfl) | hc
    · exact hword h.1 c hc
    · decide
    · exact hword h.2.isWord c hc

theorem equals_notMem {word : String} (h : IsWord word) : '=' ∉ word.toList := by
  intro hmem
  have hplain := h '=' hmem
  simp at hplain

theorem splitOn_equals {word : String} (h : IsWord word) : word.toList.splitOn '=' = [word.toList] :=
  List.splitOn_eq_singleton (equals_notMem h)

/-- Nothing is wrong with an item. -/
theorem IsPlain.directive (h : item.IsPlain) :
    ∃ directive, Filter.directive item.text.toList = .ok directive := by
  cases item with
  | level name =>
    obtain ⟨threshold, hname⟩ := IsLevelName.ofName? h
    refine ⟨⟨none, threshold⟩, ?_⟩
    simp [Filter.directive, text, splitOn_equals (IsLevelName.isWord h), hname]
  | target word =>
    simp only [Filter.directive, text, splitOn_equals h, String.ofList_toList]
    cases hname : Level.ofName? word <;> simp
  | both word name =>
    obtain ⟨threshold, hname⟩ := IsLevelName.ofName? h.2
    have htrimmed : trimmed name.toList = name.toList := trimmed_eq_self fun c hc => (h.2.isWord c hc).2
    have hsplit : (word ++ "=" ++ name).toList.splitOn '=' = [word.toList, name.toList] := by
      have hequals : "=".toList = ['='] := String.toList_ofList
      rw [String.toList_append, String.toList_append, hequals, List.append_assoc, List.singleton_append,
        List.splitOn_append_cons_self_of_not_mem (equals_notMem h.1), splitOn_equals h.2.isWord]
    simp only [Filter.directive, text, hsplit, htrimmed, String.ofList_toList, hname]
    split <;> simp

end Item

/-- The setting is absent, or it is a list of items with commas between them. The list of no items
is the empty text. -/
def IsPlain (setting : Option String) : Prop :=
  setting = none ∨ ∃ items : List Item, (∀ item ∈ items, item.IsPlain) ∧
    setting = some (",".intercalate (items.map Item.text))

namespace Filter

theorem ofItems_complaints {chars : List Char}
    (h : ∀ piece ∈ chars.splitOn ',', trimmed piece = [] ∨
      ∃ directive, Filter.directive (trimmed piece) = .ok directive) : (ofItems chars).2 = [] := by
  apply List.filterMap_eq_nil_iff.mpr
  intro read hread
  obtain ⟨item, hitem, rfl⟩ := List.mem_map.mp hread
  obtain ⟨hmem, hnonempty⟩ := List.mem_filter.mp hitem
  obtain ⟨piece, hpiece, rfl⟩ := List.mem_map.mp hmem
  rcases h piece hpiece with hempty | ⟨directive, hdirective⟩
  · simp [hempty] at hnonempty
  · rw [hdirective]

/-- Nothing is wrong with a setting that is a list of items. -/
theorem complaints_of_isPlain {setting : Option String} (h : IsPlain setting) :
    (ofSetting setting).2 = [] := by
  rcases h with rfl | ⟨items, hitems, rfl⟩
  · rfl
  · have hchars : (",".intercalate (items.map Item.text)).toList =
        [','].intercalate (items.map fun item => item.text.toList) := by
      have hcomma : ",".toList = [','] := String.toList_ofList
      simp [String.toList_intercalate, hcomma, Function.comp_def]
    have hmarks : ∀ piece ∈ items.map (fun item => item.text.toList), ',' ∉ piece ∧ '/' ∉ piece := by
      intro piece hpiece
      obtain ⟨item, hitem, rfl⟩ := List.mem_map.mp hpiece
      have hplain := (hitems item hitem).chars
      exact ⟨fun hmem => by simpa using (hplain _ hmem).1, fun hmem => by simpa using (hplain _ hmem).1⟩
    have hslash : '/' ∉ [','].intercalate (items.map fun item => item.text.toList) := by
      intro hmem
      rcases mem_of_mem_intercalate hmem with hcomma | ⟨piece, hpiece, hmem⟩
      · simp at hcomma
      · exact (hmarks piece hpiece).2 hmem
    have hread : ofSetting (some (",".intercalate (items.map Item.text))) =
        (⟨(ofItems ([','].intercalate (items.map fun item => item.text.toList))).1, none⟩,
          (ofItems ([','].intercalate (items.map fun item => item.text.toList))).2) := by
      rw [ofSetting, Option.elim_some, ofText, hchars, List.splitOn_eq_singleton hslash]
    rw [hread]
    apply ofItems_complaints
    intro piece hpiece
    by_cases hnone : items = []
    · subst hnone
      simp only [List.map_nil, List.intercalate_nil, List.splitOn_nil, List.mem_singleton] at hpiece
      subst hpiece
      exact .inl rfl
    · rw [List.splitOn_intercalate ',' (fun piece hpiece => (hmarks piece hpiece).1) (by simpa using hnone)]
        at hpiece
      obtain ⟨item, hitem, rfl⟩ := List.mem_map.mp hpiece
      rw [trimmed_eq_self fun c hc => ((hitems item hitem).chars c hc).2]
      exact .inr (hitems item hitem).directive

/-- The setting of the last level shows everything. -/
theorem admits_of_trace (entry : Entry) : (ofSetting (some "trace")).1.admits entry = true := by
  have hfilter : (ofSetting (some "trace")).1 = ⟨[⟨none, some .trace⟩], none⟩ := by
    decide +kernel
  rw [hfilter]
  simp [admits, allowsLevel, deciding?, Directive.matchesTarget, Level.trace_includes]

end Filter

end Log

end ShaderBinding
