import ShaderBinding.Proofs.Artifact.Symbols
import ShaderBinding.Proofs.Dispatch.CaseLines

/-! The log of the functions that are generated. A message about a branch holds its kind, its index
and its symbol, so the functions can be read back from the messages. -/

namespace ShaderBinding

namespace Dispatch

open SourceText

def caseWord : List Char := [':', ' ', 'c', 'a', 's', 'e', ' ']

def arrow : List Char := [' ', '-', '>', ' ']

/-- The branch that a message tells of, with its kind. The kind ends at the first colon, the index at
the next blank, and all that is left is the symbol. -/
def told? (message : String) : Option (Kind × Branch) := do
  let chars := message.toList
  let kind ← Kind.ofName? (String.ofList (chars.takeWhile (· != ':')))
  let body := (chars.dropWhile (· != ':')).drop caseWord.length
  let index ← decimal? (body.takeWhile (· != ' '))
  let symbol := (body.dropWhile (· != ' ')).drop arrow.length
  pure (kind, ⟨index, String.ofList symbol⟩)

theorem toList_message_entry (kind : Kind) (branch : Branch) :
    (branch.entry kind).message.toList = kind.name.toList ++
      (caseWord ++ (Nat.toDigits 10 branch.index ++ (arrow ++ branch.symbol.toList))) := by
  have hcase : ": case ".toList = caseWord := String.toList_ofList
  have harrow : " -> ".toList = arrow := String.toList_ofList
  simp only [Branch.entry, String.toList_append, hcase, harrow, toList_toString, List.append_assoc]

theorem told?_entry (kind : Kind) (branch : Branch) :
    told? (branch.entry kind).message = some (kind, branch) := by
  have hname : ':' ∉ kind.name.toList := by cases kind <;> decide
  have hindex : ' ' ∉ Nat.toDigits 10 branch.index := notMem_toDigits (by decide) _
  have hkind : Kind.ofName? kind.name = some kind := Kind.ofName?_eq_some_iff.mpr rfl
  have hchars := toList_message_entry kind branch
  simp only [caseWord, arrow, List.cons_append, List.nil_append] at hchars
  simp [told?, hchars, takeWhile_append_mark hname, dropWhile_append_mark hname, hkind, caseWord, arrow,
    takeWhile_append_mark hindex, dropWhile_append_mark hindex, decimal?_toDigits]

/-- The name of no kind begins as the message about a number of branches does. -/
theorem told?_countEntry (dispatch : Dispatch) (size : Nat) :
    told? (dispatch.countEntry size).message = none := by
  obtain ⟨rest, hrest⟩ : ∃ rest, (dispatch.countEntry size).message.toList = 'b' :: rest := by
    have hbuilt : "built ".toList = ['b', 'u', 'i', 'l', 't', ' '] := String.toList_ofList
    simp [countEntry, hbuilt]
  have hkind : Kind.ofName? (String.ofList (('b' :: rest).takeWhile (· != ':'))) = none := by
    rw [Option.eq_none_iff_forall_ne_some]
    intro kind hsome
    have hname := congrArg (fun name => name.toList.head?) (Kind.ofName?_eq_some_iff.mp hsome)
    have hhead : kind.name.toList.head? ≠ some 'b' := by cases kind <;> decide
    exact hhead (by simpa using hname)
  simp only [told?, hrest, hkind]
  rfl

theorem size_eq_of_countEntry_eq {dispatch : Dispatch} {size size' : Nat}
    (h : (dispatch.countEntry size).message = (dispatch.countEntry size').message) : size = size' := by
  simp only [countEntry, String.append_left_inj, String.append_right_inj] at h
  have hdigits := congrArg String.toList h
  rw [toList_toString, toList_toString] at hdigits
  exact toDigits_injective hdigits

theorem filter_trace_entries (dispatch : Dispatch) (size : Nat) :
    (dispatch.entries size).filter (·.level = .trace) =
      dispatch.branches.map (Branch.entry dispatch.spec.kind) := by
  have hbranches : ∀ entry ∈ dispatch.branches.map (Branch.entry dispatch.spec.kind),
      decide (entry.level = .trace) = true := by
    simp [Branch.entry]
  rw [entries, List.filter_append, List.filter_eq_self.mpr hbranches]
  simp [countEntry]

/-- The branches of a function with its kind, in their order. -/
def pairs (dispatch : Dispatch) : List (Kind × Branch) :=
  dispatch.branches.map fun branch => (dispatch.spec.kind, branch)

theorem filterMap_told?_branches (dispatch : Dispatch) :
    (dispatch.branches.map (Branch.entry dispatch.spec.kind)).filterMap (told? ·.message) =
      dispatch.pairs := by
  simp [pairs, List.filterMap_map, told?_entry]

theorem filterMap_told?_entries (dispatch : Dispatch) (size : Nat) :
    (dispatch.entries size).filterMap (told? ·.message) = dispatch.pairs := by
  rw [entries, List.filterMap_append, filterMap_told?_branches]
  simp [told?_countEntry]

end Dispatch

/-- Of lists under distinct keys, laid out one behind the other, each is found by its key. -/
theorem map_snd_filter_flatMap {α β : Type} [DecidableEq α] {keys : List α} {key : α}
    (hkeys : keys.Nodup) (hkey : key ∈ keys) (items : α → List β) :
    ((keys.flatMap fun other => (items other).map fun item => (other, item)).filter
      (·.1 = key)).map Prod.snd = items key := by
  induction keys with
  | nil => cases hkey
  | cons first keys ih =>
    obtain ⟨hfirst, hrest⟩ := List.nodup_cons.mp hkeys
    rw [List.flatMap_cons, List.filter_append, List.map_append]
    by_cases he : first = key
    · subst he
      have hothers : (keys.flatMap fun other => (items other).map fun item => (other, item)).filter
          (·.1 = first) = [] := by
        rw [List.filter_eq_nil_iff]
        intro pair hpair hfound
        obtain ⟨other, hother, hitem⟩ := List.mem_flatMap.mp hpair
        obtain ⟨item, _, rfl⟩ := List.mem_map.mp hitem
        obtain rfl : other = first := by simpa using hfound
        exact hfirst hother
      rw [hothers]
      simp [List.filter_map, Function.comp_def]
    · have hmem : key ∈ keys := (List.mem_cons.mp hkey).resolve_left (Ne.symm he)
      rw [ih hrest hmem]
      simp [he]

namespace Artifact

variable {variant : Variant} {a b table : Table}

/-- All that is logged about the functions for a table. -/
def account (table : Table) (variant : Variant) : List Entry :=
  (dispatches table variant).flatMap (Dispatch.entries · table.size)

theorem entries_generate (table : Table) (variant : Variant) (threshold : Option Level) :
    (generate table variant).entries threshold = (account table variant).filter fun entry =>
      threshold.any fun level => level.includes entry.level := by
  rw [Logged.entries, makes_generate]
  rfl

theorem entries_generate_trace (table : Table) (variant : Variant) :
    (generate table variant).entries (some .trace) = account table variant := by
  rw [entries_generate]
  simp [Level.trace_includes]

theorem value_generate (table : Table) (variant : Variant) :
    (generate table variant).value = dispatches table variant := generate_fst table variant _

/-- The functions that messages tell of. -/
def readBack (variant : Variant) (messages : List String) : List Dispatch :=
  variant.kinds.map fun kind =>
    ⟨variant.spec kind, ((messages.filterMap Dispatch.told?).filter (·.1 = kind)).map Prod.snd⟩

theorem readBack_of_told {messages : List String}
    (h : messages.filterMap Dispatch.told? = (dispatches table variant).flatMap Dispatch.pairs) :
    readBack variant messages = dispatches table variant := by
  have hpairs : (dispatches table variant).flatMap Dispatch.pairs = variant.kinds.flatMap fun kind =>
      ((variant.spec kind).branches table).map fun branch => (kind, branch) := by
    rw [dispatches, List.flatMap_map]
    rfl
  rw [readBack, h, hpairs]
  apply List.map_congr_left
  intro kind hkind
  rw [map_snd_filter_flatMap variant.nodup_kinds hkind]
  rfl

theorem readBack_account (table : Table) (variant : Variant) :
    readBack variant ((account table variant).map (·.message)) = dispatches table variant := by
  apply readBack_of_told
  rw [List.filterMap_map, account, List.filterMap_flatMap]
  simp only [Function.comp_def, Dispatch.filterMap_told?_entries]

theorem readBack_account_trace (table : Table) (variant : Variant) :
    readBack variant (((account table variant).filter (·.level = .trace)).map (·.message)) =
      dispatches table variant := by
  apply readBack_of_told
  rw [List.filterMap_map, account, List.filter_flatMap, List.filterMap_flatMap]
  simp only [Function.comp_def, Dispatch.filter_trace_entries, Dispatch.filterMap_told?_branches]

theorem size_eq_of_messages_eq (hfunctions : dispatches a variant = dispatches b variant)
    (h : (account a variant).map (·.message) = (account b variant).map (·.message)) :
    a.size = b.size := by
  obtain ⟨first, rest, hfirst⟩ : ∃ first rest, dispatches a variant = first :: rest := by
    have hmiss : Dispatch.Kind.miss ∈ variant.kinds := Variant.mem_kinds_iff.mpr (.inr (by decide))
    have hne : dispatches a variant ≠ [] := by
      rw [dispatches, ne_eq, List.map_eq_nil_iff]
      exact List.ne_nil_of_mem hmiss
    exact List.exists_cons_of_ne_nil hne
  -- Up to the first number of branches the messages agree, and that one tells the size too.
  simp only [account, ← hfunctions, hfirst, List.flatMap_cons, Dispatch.entries, List.map_append,
    List.append_assoc, List.append_cancel_left_eq, List.map_cons, List.cons_append] at h
  exact Dispatch.size_eq_of_countEntry_eq (List.cons.inj h).1

theorem messages_eq_iff : (account a variant).map (·.message) = (account b variant).map (·.message) ↔
    dispatches a variant = dispatches b variant ∧ a.size = b.size := by
  constructor
  · intro h
    have hfunctions : dispatches a variant = dispatches b variant := by
      rw [← readBack_account, h, readBack_account]
    exact ⟨hfunctions, size_eq_of_messages_eq hfunctions h⟩
  · rintro ⟨hfunctions, hsize⟩
    rw [account, account, hfunctions, hsize]

theorem traced_messages_eq_iff :
    ((account a variant).filter (·.level = .trace)).map (·.message) =
        ((account b variant).filter (·.level = .trace)).map (·.message) ↔
      dispatches a variant = dispatches b variant := by
  constructor
  · intro h
    rw [← readBack_account_trace, h, readBack_account_trace]
  · intro h
    simp only [account, List.filter_flatMap, Dispatch.filter_trace_entries, h]

/-- The log tells what is generated. Whatever is admitted, the functions are the same, and what is
logged are the entries of the whole log that are admitted, in their order. The whole log has for each
function one entry for each of its branches and then one with their number and that of the records. So
the functions can be read back from the messages, and two tables have the same messages exactly if
they have the same functions and as many records; for tables of one length, and for the messages
about branches alone, exactly if they have the same functions. -/
theorem log_tells_functions (variant : Variant) (a b : Table) :
    let functions := fun table => (generate table variant).value
    let whole := fun table => (generate table variant).entries (some .trace)
    let messages := fun table => (whole table).map (·.message)
    let traced := fun table => ((whole table).filter (·.level = .trace)).map (·.message)
    (∀ admits, generate a variant admits = (functions a, (whole a).filter admits)) ∧
    (∀ threshold, (generate a variant).entries threshold =
      (whole a).filter fun entry => threshold.any fun level => level.includes entry.level) ∧
    (whole a = (functions a).flatMap fun dispatch =>
      dispatch.branches.map (fun branch => ⟨.trace, "sbtgen::dispatch",
        dispatch.spec.kind.name ++ ": case " ++ toString branch.index ++ " -> " ++ branch.symbol⟩) ++
      [⟨.debug, "sbtgen::dispatch",
        "built " ++ dispatch.spec.kind.functionName ++ " with " ++ toString dispatch.branches.length ++
          " of " ++ toString a.size ++ " records bound"⟩]) ∧
    readBack variant (messages a) = functions a ∧
    (messages a = messages b ↔ functions a = functions b ∧ a.size = b.size) ∧
    (traced a = traced b ↔ functions a = functions b) := by
  simp only [value_generate, entries_generate_trace]
  exact ⟨makes_generate a variant, entries_generate a variant, rfl, readBack_account a variant,
    messages_eq_iff, traced_messages_eq_iff⟩

end Artifact

end ShaderBinding
