import ShaderBinding.Artifact.Files
import ShaderBinding.Proofs.Files.Writing
import ShaderBinding.Proofs.Log.Admitted
import ShaderBinding.Proofs.Text.Utf8

/-! Runs from the files of a table and a shader to the file of an artifact. A run reads all that it
needs before it writes, so it leaves either the whole artifact or everything as it was. -/

namespace ShaderBinding

namespace Artifact

/-- A part of a run, with what it does to the files. -/
abbrev Action (α : Type) : Type := ExceptT Error (StateM FileSystem) α

def loading (path : String) : Action Table := fun files => (Table.load files path, files)

def reading (path : String) : Action String := fun files => (readSource files path, files)

def writing (path text : String) : Action Unit := fun files =>
  match write files path text with
  | .ok files' => (.ok (), files')
  | .error error => (.error error, files)

/-- A run step by step, on files that change. -/
def perform (paths : Paths) (variant : Variant) : Action Unit := do
  let table ← loading paths.table
  let base ← reading paths.shader
  writing paths.out (compose base (dispatches table variant))

variable {files files' : FileSystem} {paths : Paths} {variant : Variant} {table : Table}
  {base : String} {error : Error}

theorem Action.bind_apply {α β : Type} (first : Action α) (next : α → Action β)
    (files : FileSystem) : (first >>= next) files =
      match first files with
      | (.ok value, files') => next value files'
      | (.error error, files') => (.error error, files') := by
  change ExceptT.bindCont next (first files).1 (first files).2 = _
  obtain ⟨result, after⟩ := first files
  cases result <;> rfl

theorem readSource_eq_ok_iff {path text : String} :
    readSource files path = .ok text ↔ files.read path = .ok (utf8Bytes text) := by
  unfold readSource readText
  cases files.read path with
  | error fault => simp
  | ok bytes =>
    have htext : bytes = utf8Bytes text ↔ Utf8.text? bytes = some text :=
      eq_comm.trans Utf8.text?_eq_some_iff.symm
    rw [Except.ok.injEq, htext]
    dsimp only
    cases Utf8.text? bytes <;> simp

theorem load_eq (files : FileSystem) (path : String) :
    Table.load files path = readSource files path >>= Table.ofText := rfl

theorem load_eq_ok_iff {path : String} : Table.load files path = .ok table ↔
    ∃ text, files.read path = .ok (utf8Bytes text) ∧ Table.ofText text = .ok table := by
  simp only [load_eq, ← readSource_eq_ok_iff]
  cases readSource files path with
  | error error => simp [Bind.bind, Except.bind]
  | ok text => simp [Bind.bind, Except.bind]

theorem write_eq_ok_iff {path text : String} :
    write files path text = .ok files' ↔ files.write path (utf8Bytes text) = .ok files' := by
  unfold write
  cases files.write path (utf8Bytes text) with
  | error fault => constructor <;> intro h <;> cases h
  | ok written =>
    constructor
    · intro h
      exact congrArg Except.ok (Except.ok.inj h)
    · rintro ⟨⟩
      rfl

theorem write_eq_error_iff {path text : String} : write files path text = .error error ↔
    ∃ fault, files.write path (utf8Bytes text) = .error fault ∧ error = .io path fault := by
  unfold write
  cases files.write path (utf8Bytes text) with
  | error fault =>
    constructor
    · intro h
      exact ⟨fault, rfl, (Except.error.inj h).symm⟩
    · rintro ⟨_, ⟨⟩, rfl⟩
      rfl
  | ok written =>
    constructor
    · intro h
      cases h
    · rintro ⟨_, h, _⟩
      cases h

/-- The functions that are generated do not depend on what is logged about them. -/
theorem generate_fst (table : Table) (variant : Variant) (admits : Entry → Bool) :
    (generate table variant admits).1 = dispatches table variant := by
  rw [makes_generate]

/-- What stands behind the source of the shader in an artifact. -/
def appendix (table : Table) (variant : Variant) : String := compose "" (dispatches table variant)

theorem utf8Bytes_compose (base : String) (table : Table) (variant : Variant) :
    utf8Bytes (compose base (dispatches table variant)) =
      utf8Bytes base ++ utf8Bytes (appendix table variant) := by
  simp only [appendix, compose, utf8Bytes, String.toList_append, Utf8.encode_append]
  rfl

/-! The parts of a run in their order. -/

inductive Phase where
  | readTable
  | decodeTable
  | readShader
  | writeOut
  deriving DecidableEq, Repr

/-- The first part of a run that fails, and its error: all parts before it succeed. -/
inductive FailsAt (files : FileSystem) (paths : Paths) (variant : Variant) : Phase → Error → Prop
  | readTable {error : Error} : readSource files paths.table = .error error →
      FailsAt files paths variant .readTable error
  | decodeTable {text : String} {error : Error} : readSource files paths.table = .ok text →
      Table.ofText text = .error error → FailsAt files paths variant .decodeTable error
  | readShader {table : Table} {error : Error} : Table.load files paths.table = .ok table →
      readSource files paths.shader = .error error → FailsAt files paths variant .readShader error
  | writeOut {table : Table} {base : String} {error : Error} :
      Table.load files paths.table = .ok table → readSource files paths.shader = .ok base →
      write files paths.out (compose base (dispatches table variant)) = .error error →
      FailsAt files paths variant .writeOut error

theorem failsAt_of_load_error (h : Table.load files paths.table = .error error) :
    FailsAt files paths variant .readTable error ∨ FailsAt files paths variant .decodeTable error := by
  rw [load_eq] at h
  cases hread : readSource files paths.table with
  | error fault =>
    rw [hread] at h
    obtain rfl := Except.error.inj h
    exact .inl (.readTable hread)
  | ok text =>
    rw [hread] at h
    exact .inr (.decodeTable hread h)

/-- A run goes through all of its parts, or up to the first one that fails. -/
theorem run_cases (files : FileSystem) (paths : Paths) (variant : Variant) :
    (∃ table base files', Table.load files paths.table = .ok table ∧
      readSource files paths.shader = .ok base ∧
      write files paths.out (compose base (dispatches table variant)) = .ok files' ∧
      run files paths variant = .ok files') ∨
    ∃ phase error, FailsAt files paths variant phase error ∧
      run files paths variant = .error error := by
  cases hload : Table.load files paths.table with
  | error error =>
    have hrun : run files paths variant = .error error := by
      rw [run, produce, hload]
      rfl
    rcases failsAt_of_load_error hload with hfails | hfails
    · exact .inr ⟨_, error, hfails, hrun⟩
    · exact .inr ⟨_, error, hfails, hrun⟩
  | ok table =>
    cases hread : readSource files paths.shader with
    | error error =>
      refine .inr ⟨.readShader, error, .readShader hload hread, ?_⟩
      rw [run, produce, hload, hread]
      rfl
    | ok base =>
      have hrun : run files paths variant =
          write files paths.out (compose base (dispatches table variant)) := by
        rw [run, produce, hload, hread]
        rfl
      cases hwrite : write files paths.out (compose base (dispatches table variant)) with
      | error error =>
        exact .inr ⟨.writeOut, error, .writeOut hload hread hwrite, hrun.trans hwrite⟩
      | ok files' => exact .inl ⟨table, base, files', rfl, rfl, hwrite, hrun.trans hwrite⟩

end Artifact

end ShaderBinding
