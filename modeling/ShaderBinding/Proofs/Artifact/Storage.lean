import ShaderBinding.Proofs.Artifact.Runs

/-! Texts and tables in a file system. What is written is read back and stands in one place; a failure
changes nothing. The same failure of the system is reported in one way on reading and in another on
writing. -/

namespace ShaderBinding

namespace FileSystem

variable {files : FileSystem} {text : String} {content : List UInt8}

theorem readable_of_writable_noEntry {p : Path} (h : files.writable p = .error .noEntry) :
    files.readable p = .error .noEntry := by
  unfold writable at h
  split at h
  · cases h
  · rename_i name hname
    obtain ⟨front, hfront⟩ := List.getLast?_eq_some_iff.mp hname
    have hnames : p.names = p.names.dropLast ++ [name] := by rw [hfront, List.dropLast_concat]
    -- Writing walks to the parent alone; past it, no entry is missing for a writer.
    cases hwalk : files.walk (files.start p) p.names.dropLast with
    | error error =>
      simp only [hwalk, Bind.bind, Except.bind] at h
      obtain rfl := Except.error.inj h
      have hmissing : files.walk (files.start p) p.names = .error .noEntry := by
        rw [hnames, walk_append, hwalk]
        rfl
      rw [readable, hmissing]
      rfl
    | ok parent =>
      simp only [hwalk, Bind.bind, Except.bind] at h
      repeat' split at h
      all_goals cases h

/-- Where the system finds no place to write to, it finds nothing to read. -/
theorem read_of_write_noEntry (h : files.write text content = .error (.system .noEntry)) :
    files.read text = .error (.system .noEntry) := by
  unfold write at h
  unfold read
  cases hpath : path text with
  | error fault =>
    rw [hpath] at h
    have hfault : fault = .system .noEntry := Except.error.inj h
    rw [hfault]
    rfl
  | ok p =>
    rw [hpath] at h
    cases hwritable : files.writable p with
    | error error =>
      simp only [hwritable, Bind.bind, Except.bind, mapError_error] at h
      obtain rfl : error = .noEntry := by simpa using h
      simp only [readable_of_writable_noEntry hwritable, Bind.bind, Except.bind, mapError_error]
    | ok location =>
      simp only [hwritable, Bind.bind, Except.bind, mapError_ok] at h
      cases h

/-- Two states that differ in one place, where now a file stands and no directory was. -/
structure WrittenAt (before after : FileSystem) (location : Location) (content : List UInt8) : Prop where
  place : before.isDirectory location = false
  content : after.node? location = some (.file content)
  others : ∀ other, other ≠ location → after.node? other = before.node? other
  workingDirectory : after.workingDirectory = before.workingDirectory

theorem writtenAt_set_file {location : Location} (h : files.isDirectory location = false) :
    files.WrittenAt (files.set location (some (.file content))) location content where
  place := h
  content := node?_set_self _ _ _
  others _ hne := node?_set_of_ne files _ hne
  workingDirectory := rfl

/-- After a file has been written every path leads where it led before, and shows what was written if
it leads there. -/
theorem exists_place_of_read {location : Location} {original : List UInt8}
    (hlocation : files.isDirectory location = false) (h : files.read text = .ok original) :
    ∃ place, (files.set location (some (.file content))).Resolves text place ∧
      (files.set location (some (.file content))).read text =
        .ok (if place = location then content else original) := by
  obtain ⟨place, hplace, _⟩ := read_eq_ok h
  have hread := read_set_file content hlocation h hplace
  obtain ⟨p, hpath, hwalk⟩ := hplace
  exact ⟨place, ⟨p, hpath, walk_set_file hlocation hwalk⟩, hread⟩

end FileSystem

theorem Table.ofText_eq_error {text : String} {error : Error} (h : ofText text = .error error) :
    ∃ fault, error = .table fault := by
  unfold ofText at h
  cases hread : read .text (utf8Bytes text) with
  | error fault =>
    rw [hread] at h
    exact ⟨fault, (Except.error.inj h).symm⟩
  | ok table =>
    rw [hread] at h
    cases h

theorem Error.kind_reading (path : String) (fault : IoFault) :
    (reading path fault).kind = .notFound ∨ (reading path fault).kind = .io := by
  unfold reading
  split
  · exact .inl rfl
  · exact .inr rfl

theorem Error.reading_eq_notFound_iff {path other : String} {fault : IoFault} :
    reading path fault = .notFound other ↔ other = path ∧ fault = .system .noEntry := by
  unfold reading
  split
  · simp [eq_comm]
  · rename_i hother
    have hne : fault ≠ .system .noEntry := hother
    simp [hne]

theorem Error.reading_eq_io_iff {path other : String} {fault fault' : IoFault} :
    reading path fault = .io other fault' ↔ other = path ∧ fault' = fault ∧ fault ≠ .system .noEntry := by
  unfold reading
  split
  · simp
  · rename_i hother
    have hne : fault ≠ .system .noEntry := hother
    simp [hne, eq_comm]

namespace Artifact

/-- Why a file is not read as a text: the system does not give its bytes, or they spell no text. -/
inductive Unreadable (files : FileSystem) (path : String) : IoFault → Prop
  | refused {fault : IoFault} : files.read path = .error fault → Unreadable files path fault
  | notUtf8 {bytes : List UInt8} : files.read path = .ok bytes → (∀ text, utf8Bytes text ≠ bytes) →
      Unreadable files path .notUtf8

variable {files : FileSystem} {path text : String} {error : Error} {fault : IoFault}

theorem Unreadable.readSource_eq (h : Unreadable files path fault) :
    readSource files path = .error (.reading path fault) := by
  cases h with
  | refused hread =>
    rw [readSource, hread]
    rfl
  | notUtf8 hread hbytes =>
    rw [readSource, hread, readText]
    split
    · rename_i text htext
      exact absurd (Utf8.text?_eq_some_iff.mp htext) (hbytes text)
    · rfl

theorem exists_text_or_unreadable (files : FileSystem) (path : String) :
    (∃ text, readSource files path = .ok text) ∨ ∃ fault, Unreadable files path fault := by
  cases hread : files.read path with
  | error fault => exact .inr ⟨fault, .refused hread⟩
  | ok bytes =>
    by_cases hbytes : ∃ text, utf8Bytes text = bytes
    · obtain ⟨text, rfl⟩ := hbytes
      exact .inl ⟨text, readSource_eq_ok_iff.mpr hread⟩
    · exact .inr ⟨.notUtf8, .notUtf8 hread fun text htext => hbytes ⟨text, htext⟩⟩

theorem readSource_eq_error_iff : readSource files path = .error error ↔
    ∃ fault, Unreadable files path fault ∧ error = .reading path fault := by
  constructor
  · intro h
    rcases exists_text_or_unreadable files path with ⟨text, htext⟩ | ⟨fault, hfault⟩
    · rw [htext] at h
      cases h
    · exact ⟨fault, hfault, Except.error.inj (h.symm.trans hfault.readSource_eq)⟩
  · rintro ⟨fault, hfault, rfl⟩
    exact hfault.readSource_eq

theorem Unreadable.noEntry_iff :
    Unreadable files path (.system .noEntry) ↔ files.read path = .error (.system .noEntry) := by
  constructor
  · intro h
    cases h with
    | refused hread => exact hread
  · exact .refused

/-- Loading a table fails on reading whenever reading a text does, and in the same way. -/
theorem readSource_eq_error_iff_load : readSource files path = .error error ↔
    Table.load files path = .error error ∧ (error.kind = .notFound ∨ error.kind = .io) := by
  rw [load_eq]
  cases hsource : readSource files path with
  | error error' =>
    obtain ⟨fault, _, rfl⟩ := readSource_eq_error_iff.mp hsource
    constructor
    · intro h
      obtain rfl := Except.error.inj h
      exact ⟨rfl, Error.kind_reading path fault⟩
    · rintro ⟨h, _⟩
      have herror : Error.reading path fault = error := Except.error.inj h
      rw [herror]
  | ok text =>
    constructor
    · intro h
      cases h
    · rintro ⟨h, hkind⟩
      obtain ⟨fault, rfl⟩ := Table.ofText_eq_error h
      cases fault <;> simp [Error.kind] at hkind

theorem writing_of_error (h : files.write path (utf8Bytes text) = .error fault) :
    writing path text files = (.error (.io path fault), files) := by
  have hwrite : write files path text = .error (.io path fault) := write_eq_error_iff.mpr ⟨fault, h, rfl⟩
  rw [writing, hwrite]

theorem writing_of_ok {files' : FileSystem} (h : files.write path (utf8Bytes text) = .ok files') :
    writing path text files = (.ok (), files') := by
  have hwrite : write files path text = .ok files' := write_eq_ok_iff.mpr h
  rw [writing, hwrite]

/-- Writing and reading the file of a path. Writing succeeds when the system lets it. Then the text is
read back under the path, the file stands in one place and all else is as before; whatever could be
read is read as before, unless its path leads to that place. Otherwise writing fails with the system's
fault and the path, and changes nothing. Reading a text and loading a table never change anything, and
fail on reading in the same cases with the same error. The path is not found where the system finds no
entry, also where it then finds no place to write to, and every other fault is reported with the path. -/
theorem writing_exact_or_harmless (files : FileSystem) (path text : String) :
    let written := writing path text files
    ((∃ location, files.write path (utf8Bytes text) = .ok written.2 ∧ written.1 = .ok () ∧
        (reading path written.2).1 = .ok text ∧ written.2.Resolves path location ∧
        files.WrittenAt written.2 location (utf8Bytes text) ∧
        ∀ source content, files.read source = .ok content → ∃ place, written.2.Resolves source place ∧
          written.2.read source = .ok (if place = location then utf8Bytes text else content)) ∨
      ∃ fault, files.write path (utf8Bytes text) = .error fault ∧
        written = (.error (.io path fault), files)) ∧
    ((reading path files).2 = files ∧ (loading path files).2 = files) ∧
    (∀ error, (reading path files).1 = .error error ↔
      (loading path files).1 = .error error ∧ (error.kind = .notFound ∨ error.kind = .io)) ∧
    (∀ other, (reading path files).1 = .error (.notFound other) ↔
      other = path ∧ files.read path = .error (.system .noEntry)) ∧
    (∀ other fault, (reading path files).1 = .error (.io other fault) ↔
      other = path ∧ Unreadable files path fault ∧ fault ≠ .system .noEntry) ∧
    (written.1 = .error (.io path (.system .noEntry)) →
      (reading path files).1 = .error (.notFound path)) := by
  intro written
  refine ⟨?_, ⟨rfl, rfl⟩, fun error => readSource_eq_error_iff_load, ?_, ?_, ?_⟩
  · cases hwrite : files.write path (utf8Bytes text) with
    | error fault => exact .inr ⟨fault, rfl, writing_of_error hwrite⟩
    | ok files' =>
      have hwritten : written = (.ok (), files') := writing_of_ok hwrite
      obtain ⟨location, hlocation, rfl, hresolves, hread⟩ := FileSystem.write_eq_ok hwrite
      rw [hwritten]
      exact .inl ⟨location, rfl, rfl, readSource_eq_ok_iff.mpr hread, hresolves,
        FileSystem.writtenAt_set_file hlocation,
        fun source content hsource => FileSystem.exists_place_of_read hlocation hsource⟩
  · intro other
    constructor
    · intro h
      obtain ⟨fault, hfault, herror⟩ := readSource_eq_error_iff.mp h
      obtain ⟨hother, rfl⟩ := Error.reading_eq_notFound_iff.mp herror.symm
      exact ⟨hother, Unreadable.noEntry_iff.mp hfault⟩
    · rintro ⟨rfl, hread⟩
      exact (Unreadable.refused hread).readSource_eq
  · intro other fault
    constructor
    · intro h
      obtain ⟨fault', hfault, herror⟩ := readSource_eq_error_iff.mp h
      obtain ⟨hother, rfl, hne⟩ := Error.reading_eq_io_iff.mp herror.symm
      exact ⟨hother, hfault, hne⟩
    · rintro ⟨rfl, hfault, hne⟩
      have herror : Error.reading other fault = .io other fault :=
        Error.reading_eq_io_iff.mpr ⟨rfl, rfl, hne⟩
      exact hfault.readSource_eq.trans (congrArg Except.error herror)
  · intro h
    cases hwrite : files.write path (utf8Bytes text) with
    | ok files' =>
      have hwritten : written = (.ok (), files') := writing_of_ok hwrite
      rw [hwritten] at h
      cases h
    | error fault =>
      have hwritten : written = (.error (.io path fault), files) := writing_of_error hwrite
      rw [hwritten] at h
      obtain rfl : fault = .system .noEntry := by simpa using h
      exact (Unreadable.refused (FileSystem.read_of_write_noEntry hwrite)).readSource_eq

theorem writing_exact_or_harmless_missing_directory :
    (writing "missing/tmp.cl" "void h();" .scratch).1 = .error (.io "missing/tmp.cl" (.system .noEntry)) ∧
      (writing "missing/tmp.cl" "void h();" .scratch).2 = .scratch ∧
      (reading "missing/tmp.cl" .scratch).1 = .error (.notFound "missing/tmp.cl") := by
  have hnone : FileSystem.scratch.write "missing/tmp.cl" (utf8Bytes "void h();") =
      .error (.system .noEntry) := by rfl
  have hfails : (writing "missing/tmp.cl" "void h();" .scratch).1 =
      .error (.io "missing/tmp.cl" (.system .noEntry)) := by
    rw [writing_of_error hnone]
  obtain ⟨hwrite, _, _, _, _, hread⟩ :=
    writing_exact_or_harmless .scratch "missing/tmp.cl" "void h();"
  refine ⟨hfails, ?_, hread hfails⟩
  rcases hwrite with ⟨_, _, hdone, _⟩ | ⟨_, _, hwritten⟩
  · rw [hfails] at hdone
    cases hdone
  · rw [hwritten]

end Artifact

end ShaderBinding
