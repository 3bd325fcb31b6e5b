import Mathlib.Tactic.Common
import ShaderBinding.Proofs.Artifact.Runs

/-! Runs in a row with the same arguments. The output of a run is no table, so every run reads the
same table; whether it reads the same source depends on whether the output takes its place. -/

namespace ShaderBinding

namespace Artifact

/-- The files after a number of runs in a row, all of which have to succeed. -/
def runs (paths : Paths) (variant : Variant) : Nat → FileSystem → Except Error FileSystem
  | 0, files => .ok files
  | count + 1, files => do run (← runs paths variant count files) paths variant

section

variable {files files' : FileSystem} {paths : Paths} {variant : Variant} {table : Table}
  {base path : String} {location other : Location} {content : List UInt8}

theorem runs_succ {count : Nat} (h : runs paths variant count files = .ok files') :
    runs paths variant (count + 1) files = run files' paths variant := by
  rw [runs, h]
  rfl

theorem run_eq_ok_iff : run files paths variant = .ok files' ↔
    ∃ table base, Table.load files paths.table = .ok table ∧
      readSource files paths.shader = .ok base ∧
      write files paths.out (compose base (dispatches table variant)) = .ok files' := by
  constructor
  · intro h
    rcases run_cases files paths variant with
      ⟨table, base, _, hload, hread, hwrite, hrun⟩ | ⟨_, _, _, hrun⟩
    · obtain rfl := Except.ok.inj (hrun.symm.trans h)
      exact ⟨table, base, hload, hread, hwrite⟩
    · rw [hrun] at h
      cases h
  · rintro ⟨table, base, hload, hread, hwrite⟩
    rw [run, produce, hload, hread]
    exact hwrite

theorem exists_location_of_load (h : Table.load files path = .ok table) :
    ∃ location, files.Resolves path location ∧ (files.node? location).isSome = true := by
  obtain ⟨text, htext, _⟩ := load_eq_ok_iff.mp h
  obtain ⟨location, hresolves, hnode⟩ := FileSystem.read_eq_ok htext
  exact ⟨location, hresolves, by rw [hnode]; rfl⟩

section

variable (hlocation : files.isDirectory location = false) (hother : files.Resolves path other)
  (hne : other ≠ location)

include hlocation hother hne

theorem readSource_set_file (content : List UInt8) (h : readSource files path = .ok base) :
    readSource (files.set location (some (.file content))) path = .ok base := by
  have hread := FileSystem.read_set_file content hlocation (readSource_eq_ok_iff.mp h) hother
  rw [if_neg hne] at hread
  exact readSource_eq_ok_iff.mpr hread

theorem load_set_file (content : List UInt8) (h : Table.load files path = .ok table) :
    Table.load (files.set location (some (.file content))) path = .ok table := by
  obtain ⟨text, htext, htable⟩ := load_eq_ok_iff.mp h
  have hread := FileSystem.read_set_file content hlocation htext hother
  rw [if_neg hne] at hread
  exact load_eq_ok_iff.mpr ⟨text, hread, htable⟩

end

theorem compose_eq_base_append (source : String) (table : Table) (variant : Variant) :
    compose source (dispatches table variant) = source ++ appendix table variant := by
  simp [appendix, compose]

/-- A run on files that differ only in the place of the output: what it reads as a source there goes
into the output. -/
theorem run_set_file {p : FileSystem.Path} (hpath : FileSystem.path paths.out = .ok p)
    (hwritable : files.writable p = .ok location)
    (hload : Table.load (files.set location (some (.file content))) paths.table = .ok table)
    (hread : readSource (files.set location (some (.file content))) paths.shader = .ok base) :
    run (files.set location (some (.file content))) paths variant =
      .ok (files.set location
        (some (.file (utf8Bytes (compose base (dispatches table variant)))))) := by
  obtain ⟨_, _, _, _, _, _, _, _, _, hlocation⟩ := FileSystem.writable_eq_ok_iff.mp hwritable
  refine run_eq_ok_iff.mpr ⟨table, base, hload, hread, write_eq_ok_iff.mpr ?_⟩
  refine FileSystem.write_eq_ok_iff.mpr
    ⟨p, location, hpath, FileSystem.writable_set_file hlocation hwritable, ?_⟩
  rw [FileSystem.set_set]

/-- Runs in a row when the output is neither the table nor the source: the first one has done it
all. -/
theorem runs_eq_of_run_eq (h : run files paths variant = .ok files')
    (h' : run files' paths variant = .ok files') (count : Nat) :
    runs paths variant (count + 1) files = .ok files' := by
  induction count with
  | zero => exact (runs_succ rfl).trans h
  | succ count ih => exact (runs_succ ih).trans h'

/-- Runs in a row when the output takes the place of the source: each one adds the functions once
more. -/
theorem runs_eq_set_file {p : FileSystem.Path} (hpath : FileSystem.path paths.out = .ok p)
    (hwritable : files.writable p = .ok location)
    (hload : ∀ content, Table.load (files.set location (some (.file content))) paths.table = .ok table)
    (hshader : files.Resolves paths.shader location)
    (hread : readSource files paths.shader = .ok base) (count : Nat) :
    runs paths variant count files = .ok (files.set location (some (.file
      (utf8Bytes base ++ (List.replicate count (utf8Bytes (appendix table variant))).flatten)))) := by
  obtain ⟨_, _, _, _, _, _, _, _, _, hlocation⟩ := FileSystem.writable_eq_ok_iff.mp hwritable
  have hbytes := readSource_eq_ok_iff.mp hread
  -- What a run leaves in the file is a text again, so that the next run can read it.
  suffices h : ∃ text, utf8Bytes text = utf8Bytes base ++
      (List.replicate count (utf8Bytes (appendix table variant))).flatten ∧
        runs paths variant count files = .ok (files.set location (some (.file (utf8Bytes text)))) by
    obtain ⟨text, htext, hruns⟩ := h
    rw [hruns, htext]
  induction count with
  | zero =>
    obtain ⟨other, hother, hnode⟩ := FileSystem.read_eq_ok hbytes
    obtain rfl := hshader.unique hother
    refine ⟨base, by simp, ?_⟩
    rw [FileSystem.set_eq_self hnode]
    rfl
  | succ count ih =>
    obtain ⟨text, htext, hruns⟩ := ih
    have hagain := FileSystem.read_set_file (utf8Bytes text) hlocation hbytes hshader
    rw [if_pos rfl] at hagain
    refine ⟨compose text (dispatches table variant), ?_, ?_⟩
    · rw [utf8Bytes_compose, htext, List.replicate_succ']
      simp
    · rw [runs_succ hruns]
      exact run_set_file hpath hwritable (hload _) (readSource_eq_ok_iff.mpr hagain)

/-- Runs in a row, of which the first succeeds and does not write over its table. If the output is
not the source either, then every run succeeds and all but the first change nothing. If the output is
the source, then every run succeeds, and after any number of them the file holds what it held before
and behind it as often what is composed with a source; all other files are as they were. -/
theorem runs_again (hrun : run files paths variant = .ok files')
    (htable : ¬ files.SameFile paths.out paths.table) :
    (¬ files.SameFile paths.out paths.shader →
      ∀ count, runs paths variant (count + 1) files = .ok files') ∧
    ∀ location, files.Resolves paths.out location → files.Resolves paths.shader location →
      ∃ table original added, Table.load files paths.table = .ok table ∧
        files.node? location = some (.file original) ∧
        (∀ base, compose base (dispatches table variant) = base ++ added) ∧
        ∀ count, runs paths variant count files = .ok (files.set location
          (some (.file (original ++ (List.replicate count (utf8Bytes added)).flatten)))) := by
  obtain ⟨table, base, hload, hread, hwrite⟩ := run_eq_ok_iff.mp hrun
  obtain ⟨p, place, hpath, hwritable, rfl⟩ := FileSystem.write_eq_ok_iff.mp (write_eq_ok_iff.mp hwrite)
  obtain ⟨_, _, _, _, _, _, _, _, _, hlocation⟩ := FileSystem.writable_eq_ok_iff.mp hwritable
  obtain ⟨tablePlace, hresolves, hsome⟩ := exists_location_of_load hload
  have hne := FileSystem.ne_of_not_sameFile hpath hwritable hresolves hsome htable
  have hloads : ∀ content,
      Table.load (files.set place (some (.file content))) paths.table = .ok table :=
    fun content => load_set_file hlocation hresolves hne content hload
  obtain ⟨shaderPlace, hshader, hnode⟩ := FileSystem.read_eq_ok (readSource_eq_ok_iff.mp hread)
  have hsomeShader : (files.node? shaderPlace).isSome = true := by rw [hnode]; rfl
  constructor
  · intro hsource
    have hne' := FileSystem.ne_of_not_sameFile hpath hwritable hshader hsomeShader hsource
    have hreads := readSource_set_file hlocation hshader hne'
      (utf8Bytes (compose base (dispatches table variant))) hread
    exact runs_eq_of_run_eq hrun (run_set_file hpath hwritable (hloads _) hreads)
  · intro location hout hsource
    obtain rfl := hshader.unique hsource
    obtain ⟨q, hpath', hwalk⟩ := hout
    obtain rfl : p = q := Except.ok.inj (hpath.symm.trans hpath')
    obtain rfl := FileSystem.eq_of_writable hwritable hwalk
    exact ⟨table, utf8Bytes base, appendix table variant, hload, hnode,
      fun source => compose_eq_base_append source table variant,
      runs_eq_set_file hpath hwritable hloads hshader hread⟩

end

/-- The files of a table that binds a hit, and of a source that the output takes the place of. -/
def sourceFiles : FileSystem :=
  (FileSystem.scratch.install "sbt.json" (utf8Bytes "[\x7b\"closestHit\":\"h\"\x7d]")).install "shader.cl"
    (utf8Bytes "void h();")

def sourcePaths : Paths := ⟨"sbt.json", "shader.cl", "./shader.cl"⟩

theorem runs_again_onto_source :
    (∃ files', run sourceFiles sourcePaths .legacy = .ok files') ∧
    ¬ sourceFiles.SameFile sourcePaths.out sourcePaths.table ∧
    ∃ added, ∀ count, runs sourcePaths .legacy count sourceFiles =
      .ok (sourceFiles.set ["shader.cl", "scratch"] (some (.file
        (utf8Bytes "void h();" ++ (List.replicate count (utf8Bytes added)).flatten)))) := by
  have hout : sourceFiles.Resolves sourcePaths.out ["shader.cl", "scratch"] :=
    ⟨_, rfl, by decide +kernel⟩
  have hshader : sourceFiles.Resolves sourcePaths.shader ["shader.cl", "scratch"] :=
    ⟨_, rfl, by decide +kernel⟩
  have htable : sourceFiles.Resolves sourcePaths.table ["sbt.json", "scratch"] :=
    ⟨_, rfl, by decide +kernel⟩
  have hdistinct : ¬ sourceFiles.SameFile sourcePaths.out sourcePaths.table := by
    rintro ⟨location, hfirst, hsecond⟩
    have he := (hout.unique hfirst).trans (htable.unique hsecond).symm
    exact absurd he (by decide)
  have hsucceeds : (run sourceFiles sourcePaths .legacy).toBool = true := by decide +kernel
  obtain ⟨files', hrun⟩ : ∃ files', run sourceFiles sourcePaths .legacy = .ok files' := by
    cases hresult : run sourceFiles sourcePaths .legacy with
    | error error => simp [hresult, Except.toBool] at hsucceeds
    | ok files' => exact ⟨files', rfl⟩
  obtain ⟨_, original, added, _, hnode, _, hruns⟩ := (runs_again hrun hdistinct).2 _ hout hshader
  have hbefore : sourceFiles.node? ["shader.cl", "scratch"] = some (.file (utf8Bytes "void h();")) := by
    decide +kernel
  obtain rfl : utf8Bytes "void h();" = original := by simpa using hbefore.symm.trans hnode
  exact ⟨⟨files', hrun⟩, hdistinct, added, hruns⟩

end Artifact

end ShaderBinding
