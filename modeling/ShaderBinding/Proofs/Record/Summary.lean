import ShaderBinding.Proofs.Table.Bindings
import ShaderBinding.Proofs.Table.Spelling
import ShaderBinding.Proofs.Text.Lines

/-! Summaries of records. The words of a summary stand between single blanks, with an empty word
between the entries of two stages, so a symbol without blanks is a word that is found by its place. -/

namespace ShaderBinding

open Json

/-! Stages for which nothing is written. -/

/-- No member names the stage, or one does with null or the empty string. -/
def LeavesOut (members : List (List Item × Value)) (stage : Stage) : Prop :=
  ∀ member ∈ members, Names member.1 stage → member.2 = .null ∨ member.2 = .string []

theorem Denotes.eq_nil {items : List Item} (h : Denotes items []) : items = [] := by
  generalize htext : ([] : List Char) = text at h
  cases h with
  | nil => rfl
  | char => cases htext
  | units => cases htext

theorem SpellsField.symbol_eq_none_iff {value : Value} {field : Option String}
    (h : SpellsField value field) :
    field.filter (fun text => !text.isEmpty) = none ↔ value = .null ∨ value = .string [] := by
  cases h with
  | null => simp
  | @string items symbol hitems =>
    constructor
    · intro hnone
      obtain rfl : symbol = "" := by simpa using hnone
      have hitems' := Denotes.eq_nil hitems
      simp [hitems']
    · intro hvalue
      obtain rfl : items = [] := by simpa using hvalue
      have hsymbol := Denotes.unique hitems .nil
      rw [String.toList_eq_nil_iff] at hsymbol
      simp [hsymbol]

theorem Mirrors.symbol_eq_none_iff {record : Record} {members : List (List Item × Value)}
    (h : Mirrors record members) {stage : Stage} :
    record.symbol stage = none ↔ LeavesOut members stage := by
  by_cases hnamed : ∃ member ∈ members, Names member.1 stage
  · obtain ⟨member, hmember, hname⟩ := hnamed
    constructor
    · intro hnone other hother hname'
      exact (h.named other hother stage hname').symbol_eq_none_iff.mp hnone
    · intro hout
      exact (h.named member hmember stage hname).symbol_eq_none_iff.mpr (hout member hmember hname)
  · have hunnamed : ∀ member ∈ members, ¬ Names member.1 stage :=
      fun member hmember hname => hnamed ⟨member, hmember, hname⟩
    constructor
    · intro _ member hmember hname
      exact absurd hname (hunnamed member hmember)
    · intro _
      simp [Record.symbol, h.unnamed stage hunnamed]

namespace Record

/-- No symbol has a blank in it or looks like the mark for none. -/
def IsPlain (record : Record) : Prop :=
  ∀ stage, ∀ symbol ∈ record.symbol stage, ' ' ∉ symbol.toList ∧ symbol ≠ "-"

instance (record : Record) : Decidable record.IsPlain :=
  decidable_of_iff (∀ stage ∈ Stage.all, ∀ symbol ∈ (record.symbol stage).toList,
      ' ' ∉ symbol.toList ∧ symbol ≠ "-")
    ⟨fun h stage symbol hsymbol => h stage stage.mem_all symbol (Option.mem_toList.mpr hsymbol),
      fun h stage _ symbol hsymbol => h stage symbol (Option.mem_toList.mp hsymbol)⟩

/-- The symbol that a summary shows for a stage. Every stage takes four words, with the symbol in the
third one. -/
def summarized? (summary : String) (stage : Stage) : Option String :=
  ((summary.toList.splitOn ' ')[4 * Stage.all.idxOf stage + 2]?.map String.ofList).filter (· != "-")

def word (record : Record) (stage : Stage) : String := (record.symbol stage).getD "-"

def entryWords (record : Record) (ordinal : Nat) (stage : Stage) : List (List Char) :=
  [Nat.toDigits 10 ordinal ++ ['.'], stage.name.toList ++ [':'], (record.word stage).toList]

/-- The words of all entries, and the empty ones between them. -/
def summaryWords (record : Record) : List (List Char) :=
  [[]].intercalate (Stage.all.mapIdx fun i stage => record.entryWords (i + 1) stage)

variable {record other : Record}

theorem toList_summaryEntry (record : Record) (ordinal : Nat) (stage : Stage) :
    (record.summaryEntry ordinal stage).toList =
      [' '].intercalate (record.entryWords ordinal stage) := by
  have hpoint : ". ".toList = ['.', ' '] := String.toList_ofList
  have hcolon : ": ".toList = [':', ' '] := String.toList_ofList
  simp [summaryEntry, entryWords, word, hpoint, hcolon]

theorem toList_summary (record : Record) :
    record.summary.toList = [' '].intercalate record.summaryWords := by
  have hblanks : "  ".toList = [' ', ' '] := String.toList_ofList
  simp [summary, summaryWords, Stage.all, hblanks, toList_summaryEntry, entryWords]

theorem blank_notMem_word (h : record.IsPlain) (stage : Stage) :
    ' ' ∉ (record.word stage).toList := by
  unfold word
  cases hsymbol : record.symbol stage with
  | none => decide
  | some symbol => exact (h stage symbol hsymbol).1

theorem blank_notMem_entryWords (h : record.IsPlain) (ordinal : Nat) (stage : Stage) :
    ∀ word ∈ record.entryWords ordinal stage, ' ' ∉ word := by
  have hname : ' ' ∉ stage.name.toList := by cases stage <;> decide
  have hordinal : ' ' ∉ Nat.toDigits 10 ordinal := notMem_toDigits (by decide) ordinal
  simp [entryWords, hname, hordinal, blank_notMem_word h stage]

theorem splitOn_summary (h : record.IsPlain) :
    record.summary.toList.splitOn ' ' = record.summaryWords := by
  have hwords : ∀ word ∈ record.summaryWords, ' ' ∉ word := by
    intro word hword
    rcases mem_of_mem_intercalate hword with hempty | ⟨entry, hentry, hword⟩
    · obtain rfl := List.mem_singleton.mp hempty
      simp
    · obtain ⟨i, hi, rfl⟩ := List.mem_mapIdx.mp hentry
      exact blank_notMem_entryWords h (i + 1) Stage.all[i] word hword
  have hne : record.summaryWords ≠ [] := by simp [summaryWords, entryWords, Stage.all]
  rw [toList_summary, List.splitOn_intercalate ' ' hwords hne]

theorem getElem?_summaryWords (record : Record) (stage : Stage) :
    record.summaryWords[4 * Stage.all.idxOf stage + 2]? = some (record.word stage).toList := by
  cases stage <;> rfl

/-- The mark for none is no symbol, so a word tells whether there is one. -/
theorem summarized?_summary (h : record.IsPlain) (stage : Stage) :
    summarized? record.summary stage = record.symbol stage := by
  have hread : summarized? record.summary stage = (some (record.word stage)).filter (· != "-") := by
    rw [summarized?, splitOn_summary h, getElem?_summaryWords, Option.map_some, String.ofList_toList]
  rw [hread, word]
  cases hsymbol : record.symbol stage with
  | none => rfl
  | some symbol =>
    have hdash := (h stage symbol hsymbol).2
    simp [hdash]

theorem summary_eq_of_symbols (h : ∀ stage, record.symbol stage = other.symbol stage) :
    record.summary = other.summary := by
  simp only [summary, summaryEntry, h]

/-- The symbols of a record can be read back from its summary, so two records have the same summary
exactly if they have the same symbols, or none, at all stages. The summaries of any two written records
are the same if they differ only in what they write for a stage that both leave out: nothing, null or
the empty string. -/
theorem summary_tells (h : record.IsPlain) (h' : other.IsPlain) :
    (record.summary = other.summary ↔ ∀ stage, record.symbol stage = other.symbol stage) ∧
    (∀ stage, summarized? record.summary stage = record.symbol stage) ∧
    ∀ (first second : Record) (members members' : List (List Item × Value)),
      Mirrors first members → Mirrors second members' →
      (∀ stage, LeavesOut members stage ∧ LeavesOut members' stage ∨
        first.field stage = second.field stage) →
      first.summary = second.summary := by
  refine ⟨⟨?_, summary_eq_of_symbols⟩, summarized?_summary h, ?_⟩
  · intro hsummary stage
    rw [← summarized?_summary h, hsummary, summarized?_summary h']
  · intro first second members members' hfirst hsecond hfields
    apply summary_eq_of_symbols
    intro stage
    rcases hfields stage with ⟨hout, hout'⟩ | hfield
    · rw [hfirst.symbol_eq_none_iff.mpr hout, hsecond.symbol_eq_none_iff.mpr hout']
    · rw [symbol, hfield, symbol]

/-- Symbols that look like parts of a summary, and a stage that is left out in two ways. -/
theorem summary_tells_labels :
    let record : Record := ⟨some "2.", some "anyHit:", none, some ""⟩
    let other : Record := ⟨some "2.", some "anyHit:", none, none⟩
    record.IsPlain ∧ other.IsPlain ∧ record.summary = other.summary ∧
      (∀ stage, summarized? record.summary stage = record.symbol stage) ∧
      (⟨none, none, none, some ""⟩ : Record).summary = Record.empty.summary := by
  intro record other
  have h : record.IsPlain := by decide
  have h' : other.IsPlain := by decide
  obtain ⟨hiff, hread, halike⟩ := summary_tells h h'
  have hsymbols : ∀ stage, record.symbol stage = other.symbol stage := by
    intro stage
    cases stage <;> rfl
  have hmiss : "miss".toList = ['m', 'i', 's', 's'] := String.toList_ofList
  have hkey : Names [.char 'm', .char 'i', .char 's', .char 's'] .miss := by
    rw [Names, Stage.name, hmiss]
    exact .char 'm' (.char 'i' (.char 's' (.char 's' .nil)))
  have hfield : SpellsField (.string []) (some "") := .string (by simpa using Denotes.nil)
  have hcollected : Collected [([.char 'm', .char 'i', .char 's', .char 's'], .string [])] []
      [(.miss, some "")] := .known hkey rfl hfield .nil
  have hempty : Mirrors .empty [] := Collected.nil.mirrors
  refine ⟨h, h', hiff.mpr hsymbols, hread, ?_⟩
  refine halike ⟨none, none, none, some ""⟩ .empty _ [] hcollected.mirrors hempty fun stage => .inl ⟨?_, ?_⟩
  · intro member hmember _
    obtain rfl := List.mem_singleton.mp hmember
    exact .inr rfl
  · intro member hmember
    cases hmember

end Record

end ShaderBinding
