import Mathlib.Data.List.Forall2
import ShaderBinding.Proofs.Json.Strings
import ShaderBinding.Table.Reader

/-! How a record is written: as an object whose members name its stages, or as the list of its four
fields. Members that name no stage are of no account. -/

namespace ShaderBinding

open Json

/-- A field of a record: null for none, or a string. -/
inductive SpellsField : Value → Option String → Prop
  | null : SpellsField .null none
  | string {items : List Item} {symbol : String} :
      Denotes items symbol.toList → SpellsField (.string items) (some symbol)

/-- The key of the field of a stage, in any spelling. -/
def Names (key : List Item) (stage : Stage) : Prop := Denotes key stage.name.toList

/-- The members of an object that spell a record. -/
structure Mirrors (record : Record) (members : List (List Item × Value)) : Prop where
  readable : ∀ member ∈ members, ∃ text, Denotes member.1 text
  once : members.Pairwise fun a b => ∀ stage, Names a.1 stage → ¬ Names b.1 stage
  named : ∀ member ∈ members, ∀ stage, Names member.1 stage →
    SpellsField member.2 (record.field stage)
  unnamed : ∀ stage, (∀ member ∈ members, ¬ Names member.1 stage) → record.field stage = none

inductive SpellsRecord : Record → Value → Prop
  | object {record : Record} {members : List (List Item × Value)} :
      Mirrors record members → SpellsRecord record (.object members)
  | list {record : Record} {raygen closestHit anyHit miss : Value} :
      SpellsField raygen record.raygen → SpellsField closestHit record.closestHit →
      SpellsField anyHit record.anyHit → SpellsField miss record.miss →
      SpellsRecord record (.list [raygen, closestHit, anyHit, miss])

theorem SpellsField.unique {value : Value} {field field' : Option String}
    (h : SpellsField value field) (h' : SpellsField value field') : field = field' := by
  cases h with
  | null =>
    cases h'
    rfl
  | string h =>
    cases h' with
    | string h' => rw [String.toList_inj.mp (h.unique h')]

theorem Names.unique {key : List Item} {stage stage' : Stage} (h : Names key stage)
    (h' : Names key stage') : stage = stage' :=
  Stage.name_injective (String.toList_inj.mp (Denotes.unique h h'))

theorem Record.ext_field {record record' : Record}
    (h : ∀ stage, record.field stage = record'.field stage) : record = record' := by
  rw [← Record.ofFields_field record, ← Record.ofFields_field record', funext h]

theorem Mirrors.unique {record record' : Record} {members : List (List Item × Value)}
    (h : Mirrors record members) (h' : Mirrors record' members) : record = record' := by
  apply Record.ext_field
  intro stage
  by_cases hnamed : ∃ member ∈ members, Names member.1 stage
  · obtain ⟨member, hmember, hname⟩ := hnamed
    exact (h.named member hmember stage hname).unique (h'.named member hmember stage hname)
  · have hunnamed : ∀ member ∈ members, ¬ Names member.1 stage :=
      fun member hmember hname => hnamed ⟨member, hmember, hname⟩
    rw [h.unnamed stage hunnamed, h'.unnamed stage hunnamed]

/-! Members one after the other. -/

/-- What is made of the members of an object after those that have been read. -/
inductive Collected : List (List Item × Value) → Members → Members → Prop
  | nil {read : Members} : Collected [] read read
  | known {key : List Item} {value : Value} {members : List (List Item × Value)} {stage : Stage}
      {symbol : Option String} {read final : Members} :
      Names key stage → Members.has read stage = false → SpellsField value symbol →
      Collected members ((stage, symbol) :: read) final →
      Collected ((key, value) :: members) read final
  | unknown {key : List Item} {value : Value} {members : List (List Item × Value)}
      {text : String} {read final : Members} :
      Denotes key text.toList → Stage.ofName? text = none → Collected members read final →
      Collected ((key, value) :: members) read final

/-- What is made of one more member. -/
inductive Takes (read : Members) : List Item × Value → Members → Prop
  | known {key : List Item} {value : Value} {stage : Stage} {symbol : Option String} :
      Names key stage → Members.has read stage = false → SpellsField value symbol →
      Takes read (key, value) ((stage, symbol) :: read)
  | unknown {key : List Item} {value : Value} {text : String} :
      Denotes key text.toList → Stage.ofName? text = none → Takes read (key, value) read

theorem collected_cons_iff {member : List Item × Value} {members : List (List Item × Value)}
    {read final : Members} : Collected (member :: members) read final ↔
      ∃ more, Takes read member more ∧ Collected members more final := by
  constructor
  · intro h
    cases h with
    | known hname hnew hvalue h => exact ⟨_, .known hname hnew hvalue, h⟩
    | unknown htext hnone h => exact ⟨_, .unknown htext hnone, h⟩
  · rintro ⟨more, htakes, h⟩
    cases htakes with
    | known hname hnew hvalue => exact .known hname hnew hvalue h
    | unknown htext hnone => exact .unknown htext hnone h

theorem not_names_of_ofName? {key : List Item} {text : String} (h : Denotes key text.toList)
    (hnone : Stage.ofName? text = none) (stage : Stage) : ¬ Names key stage := by
  intro hname
  have hsome := Stage.ofName?_eq_some_iff.mpr (String.toList_inj.mp (Denotes.unique hname h))
  rw [hnone] at hsome
  cases hsome

theorem Members.has_cons (stage : Stage) (symbol : Option String) (read : Members)
    (stage' : Stage) :
    Members.has ((stage, symbol) :: read) stage' = (stage == stage' || Members.has read stage') :=
  rfl

variable {members : List (List Item × Value)} {read final : Members}

/-- A stage that has been read is not named again. -/
theorem Collected.of_has (h : Collected members read final) {stage : Stage}
    (hhas : Members.has read stage = true) :
    (∀ member ∈ members, ¬ Names member.1 stage) ∧ final.lookup stage = read.lookup stage := by
  induction h with
  | nil => exact ⟨by simp, rfl⟩
  | @known key value members stage' symbol read final hname hnew _ _ ih =>
    have hne : stage' ≠ stage := by
      rintro rfl
      rw [hnew] at hhas
      cases hhas
    obtain ⟨hnames, hlookup⟩ := ih (by rw [Members.has_cons, hhas, Bool.or_true])
    constructor
    · intro member hmember hname'
      rcases List.mem_cons.mp hmember with rfl | hmember
      · exact hne (hname.unique hname')
      · exact hnames member hmember hname'
    · rw [hlookup, List.lookup_cons, beq_eq_false_iff_ne.mpr hne.symm]
  | unknown htext hnone _ ih =>
    obtain ⟨hnames, hlookup⟩ := ih hhas
    refine ⟨?_, hlookup⟩
    intro member hmember hname
    rcases List.mem_cons.mp hmember with rfl | hmember
    · exact not_names_of_ofName? htext hnone stage hname
    · exact hnames member hmember hname

theorem Collected.readable (h : Collected members read final) :
    ∀ member ∈ members, ∃ text, Denotes member.1 text := by
  induction h with
  | nil => simp
  | known hname _ _ _ ih =>
    intro member hmember
    rcases List.mem_cons.mp hmember with rfl | hmember
    · exact ⟨_, hname⟩
    · exact ih member hmember
  | unknown htext _ _ ih =>
    intro member hmember
    rcases List.mem_cons.mp hmember with rfl | hmember
    · exact ⟨_, htext⟩
    · exact ih member hmember

theorem Collected.once (h : Collected members read final) :
    members.Pairwise fun a b => ∀ stage, Names a.1 stage → ¬ Names b.1 stage := by
  induction h with
  | nil => exact .nil
  | @known key value members stage symbol read final hname _ _ hrest ih =>
    refine List.pairwise_cons.mpr ⟨?_, ih⟩
    intro member hmember stage' hname'
    obtain rfl := hname.unique hname'
    refine (hrest.of_has ?_).1 member hmember
    rw [Members.has_cons, beq_self_eq_true, Bool.true_or]
  | unknown htext hnone _ ih =>
    refine List.pairwise_cons.mpr ⟨?_, ih⟩
    intro member _ stage hname
    exact absurd hname (not_names_of_ofName? htext hnone stage)

theorem Collected.named (h : Collected members read final) :
    ∀ member ∈ members, ∀ stage, Names member.1 stage →
      SpellsField member.2 (final.lookup stage).join := by
  induction h with
  | nil => simp
  | @known key value members stage symbol read final hname _ hvalue hrest ih =>
    intro member hmember stage' hname'
    rcases List.mem_cons.mp hmember with rfl | hmember
    · obtain rfl := hname.unique hname'
      have hhas : Members.has ((stage, symbol) :: read) stage = true := by
        rw [Members.has_cons, beq_self_eq_true, Bool.true_or]
      rw [(hrest.of_has hhas).2, List.lookup_cons_self]
      exact hvalue
    · exact ih member hmember stage' hname'
  | unknown htext hnone _ ih =>
    intro member hmember stage hname
    rcases List.mem_cons.mp hmember with rfl | hmember
    · exact absurd hname (not_names_of_ofName? htext hnone stage)
    · exact ih member hmember stage hname

theorem Collected.unnamed (h : Collected members read final) {stage : Stage}
    (hunnamed : ∀ member ∈ members, ¬ Names member.1 stage) :
    final.lookup stage = read.lookup stage := by
  induction h with
  | nil => rfl
  | @known key value members stage' symbol read final hname _ _ _ ih =>
    have hne : stage ≠ stage' := by
      rintro rfl
      exact hunnamed _ (List.mem_cons_self) hname
    rw [ih (fun member hmember => hunnamed member (List.mem_cons_of_mem _ hmember)),
      List.lookup_cons, beq_eq_false_iff_ne.mpr hne]
  | unknown _ _ _ ih =>
    exact ih (fun member hmember => hunnamed member (List.mem_cons_of_mem _ hmember))

/-- The record made of all members of an object is the one that they spell. -/
theorem Collected.mirrors (h : Collected members [] final) : Mirrors final.record members where
  readable := h.readable
  once := h.once
  named := by
    intro member hmember stage hname
    rw [Members.record, Record.field_ofFields]
    exact h.named member hmember stage hname
  unnamed := by
    intro stage hunnamed
    rw [Members.record, Record.field_ofFields, h.unnamed hunnamed]
    rfl

theorem exists_collected_of {field : Stage → Option String}
    (hreadable : ∀ member ∈ members, ∃ text, Denotes member.1 text)
    (honce : members.Pairwise fun a b => ∀ stage, Names a.1 stage → ¬ Names b.1 stage)
    (hnamed : ∀ member ∈ members, ∀ stage, Names member.1 stage →
      SpellsField member.2 (field stage))
    (hnew : ∀ member ∈ members, ∀ stage, Names member.1 stage → Members.has read stage = false) :
    ∃ final, Collected members read final := by
  induction members generalizing read with
  | nil => exact ⟨read, .nil⟩
  | cons member members ih =>
    obtain ⟨key, value⟩ := member
    obtain ⟨text, htext⟩ := hreadable (key, value) List.mem_cons_self
    obtain ⟨hfirst, honce⟩ := List.pairwise_cons.mp honce
    have hreadable' := fun member hmember => hreadable member (List.mem_cons_of_mem _ hmember)
    have hnamed' := fun member hmember => hnamed member (List.mem_cons_of_mem _ hmember)
    have hnew' := fun member hmember => hnew member (List.mem_cons_of_mem _ hmember)
    rw [← String.toList_ofList (l := text)] at htext
    cases hstage : Stage.ofName? (String.ofList text) with
    | none =>
      obtain ⟨final, hfinal⟩ := ih hreadable' honce hnamed' hnew'
      exact ⟨final, .unknown htext hstage hfinal⟩
    | some stage =>
      have hname : Names key stage := by
        rw [Names, Stage.ofName?_eq_some_iff.mp hstage]
        exact htext
      have hnext : ∀ member ∈ members, ∀ stage', Names member.1 stage' →
          Members.has ((stage, field stage) :: read) stage' = false := by
        intro member hmember stage' hname'
        have hne : stage ≠ stage' := by
          rintro rfl
          exact hfirst member hmember stage hname hname'
        rw [Members.has_cons, hnew' member hmember stage' hname', Bool.or_false]
        exact beq_eq_false_iff_ne.mpr hne
      obtain ⟨final, hfinal⟩ := ih hreadable' honce hnamed' hnext
      have hvalue := hnamed (key, value) List.mem_cons_self stage hname
      have hhas := hnew (key, value) List.mem_cons_self stage hname
      exact ⟨final, .known hname hhas hvalue hfinal⟩

theorem Mirrors.exists_collected {record : Record} (h : Mirrors record members) :
    ∃ final, Collected members [] final ∧ final.record = record := by
  have hnew : ∀ member ∈ members, ∀ stage, Names member.1 stage →
      Members.has [] stage = false := fun _ _ _ _ => rfl
  obtain ⟨final, hfinal⟩ := exists_collected_of h.readable h.once h.named hnew
  exact ⟨final, hfinal, hfinal.mirrors.unique h⟩

end ShaderBinding
