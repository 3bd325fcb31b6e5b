import ShaderBinding.FileSystem

/-! Writing to a file system. What is written stands at one location, where no directory was, so
that every walk goes on as before; the path then leads to what has been written. -/

namespace ShaderBinding

namespace FileSystem

variable {files files' : FileSystem} {location : Location} {text : String} {content : List UInt8}

/-- The names of a path lead to a location where something stands. -/
def Resolves (files : FileSystem) (text : String) (location : Location) : Prop :=
  ∃ p, path text = .ok p ∧ files.walk (files.start p) p.names = .ok location

/-- Where a name leads from a directory. -/
inductive Enters (files : FileSystem) (start : Location) : String → Location → Prop
  | stay : Enters files start "." start
  | up : Enters files start ".." start.tail
  | into {name : String} : name ≠ "." ∧ name ≠ ".." → name.utf8ByteSize ≤ greatestName →
      (files.node? (name :: start)).isSome = true → Enters files start name (name :: start)

theorem step_eq_ok_iff {start last : Location} {name : String} :
    files.step start name = .ok last ↔
      files.isDirectory start = true ∧ files.Enters start name last := by
  constructor
  · intro h
    unfold step at h
    split at h
    · cases h
    · rename_i hdirectory
      refine ⟨by simpa using hdirectory, ?_⟩
      split at h
      · rename_i hname
        obtain rfl := Except.ok.inj h
        exact hname ▸ .stay
      · rename_i hdot
        split at h
        · rename_i hname
          obtain rfl := Except.ok.inj h
          exact hname ▸ .up
        · rename_i hdots
          split at h
          · cases h
          · rename_i hlength
            split at h
            · cases h
            · rename_i hnode
              obtain rfl := Except.ok.inj h
              rw [Bool.not_eq_true, Option.isNone_eq_false_iff] at hnode
              exact .into ⟨hdot, hdots⟩ (Nat.le_of_not_lt hlength) hnode
  · rintro ⟨hdirectory, henters⟩
    unfold step
    rw [hdirectory]
    cases henters with
    | stay => rfl
    | up => rfl
    | into hdots hlength hnode =>
      rw [← Option.isNone_eq_false_iff] at hnode
      simp [hdots, Nat.not_lt.mpr hlength, hnode]

theorem walk_append (start : Location) (front back : List String) :
    files.walk start (front ++ back) = files.walk start front >>= fun mid => files.walk mid back :=
  List.foldlM_append

section

variable (hlocation : files.isDirectory location = false)

include hlocation

theorem isDirectory_set_file (other : Location) :
    (files.set location (some (.file content))).isDirectory other = files.isDirectory other := by
  by_cases he : other = location
  · subst he
    rw [hlocation, isDirectory, node?_set_self]
    simp only [isDirectory, Bool.or_eq_false_iff] at hlocation
    rw [hlocation.1]
    rfl
  · rw [isDirectory, isDirectory, node?_set_of_ne files _ he]

theorem isSome_node?_set_file {other : Location} (h : (files.node? other).isSome = true) :
    ((files.set location (some (.file content))).node? other).isSome = true := by
  by_cases he : other = location
  · subst he
    rw [node?_set_self]
    rfl
  · rwa [node?_set_of_ne files _ he]

theorem step_set_file {start last : Location} {name : String} (h : files.step start name = .ok last) :
    (files.set location (some (.file content))).step start name = .ok last := by
  obtain ⟨hdirectory, henters⟩ := step_eq_ok_iff.mp h
  refine step_eq_ok_iff.mpr ⟨(isDirectory_set_file hlocation start).trans hdirectory, ?_⟩
  cases henters with
  | stay => exact .stay
  | up => exact .up
  | into hdots hlength hnode =>
    exact .into hdots hlength (isSome_node?_set_file hlocation hnode)

theorem walk_set_file {start last : Location} {names : List String}
    (h : files.walk start names = .ok last) :
    (files.set location (some (.file content))).walk start names = .ok last := by
  induction names generalizing start with
  | nil => exact h
  | cons name names ih =>
    rw [walk, List.foldlM_cons] at h ⊢
    cases hstep : files.step start name with
    | error fault =>
      rw [hstep] at h
      cases h
    | ok next =>
      rw [hstep] at h
      rw [step_set_file hlocation hstep]
      exact ih h

end

theorem readable_eq_ok_iff {p : Path} : files.readable p = .ok content ↔ ∃ location,
    files.walk (files.start p) p.names = .ok location ∧ files.isDirectory location = false ∧
      p.slashed = false ∧ files.node? location = some (.file content) := by
  unfold readable
  cases hwalk : files.walk (files.start p) p.names with
  | error fault => simp [Bind.bind, Except.bind]
  | ok location =>
    cases hdirectory : files.isDirectory location <;> cases hslashed : p.slashed <;>
      cases hnode : files.node? location with
      | none => simp [Bind.bind, Except.bind, hdirectory, hnode]
      | some node => cases node <;> simp [Bind.bind, Except.bind, hdirectory, hnode]

theorem mapError_ok {α : Type} (value : α) :
    (Except.ok value).mapError IoFault.system = .ok value := rfl

theorem mapError_error {α : Type} (error : SystemError) :
    (Except.error error : Except _ α).mapError IoFault.system = .error (.system error) := rfl

theorem read_eq_ok_iff : files.read text = .ok content ↔
    ∃ p, path text = .ok p ∧ files.readable p = .ok content := by
  unfold read
  cases path text with
  | error fault => simp [Bind.bind, Except.bind]
  | ok p =>
    cases hreadable : files.readable p <;>
      simp [Bind.bind, Except.bind, mapError_ok, mapError_error, hreadable]

/-- The place for a file: behind a walk to a directory stands a name at which there is none. -/
theorem writable_eq_ok_iff {p : Path} : files.writable p = .ok location ↔ ∃ parent name,
    p.names = p.names.dropLast ++ [name] ∧ location = name :: parent ∧
      files.walk (files.start p) p.names.dropLast = .ok parent ∧ files.isDirectory parent = true ∧
        (name ≠ "." ∧ name ≠ "..") ∧ p.slashed = false ∧ name.utf8ByteSize ≤ greatestName ∧
          files.isDirectory location = false := by
  constructor
  · intro h
    unfold writable at h
    split at h
    · cases h
    · rename_i name hname
      have hnames : p.names = p.names.dropLast ++ [name] := by
        obtain ⟨front, hfront⟩ := List.getLast?_eq_some_iff.mp hname
        rw [hfront, List.dropLast_concat]
      cases hwalk : files.walk (files.start p) p.names.dropLast with
      | error fault => simp [hwalk, Bind.bind, Except.bind] at h
      | ok parent =>
        simp only [hwalk, Bind.bind, Except.bind] at h
        split at h
        · cases h
        · rename_i hparent
          split at h
          · cases h
          · rename_i hplain
            split at h
            · cases h
            · rename_i hlength
              split at h
              · cases h
              · rename_i hdirectory
                obtain rfl := Except.ok.inj h
                simp only [Bool.or_eq_true, decide_eq_true_eq, not_or, Bool.not_eq_true] at hplain
                exact ⟨parent, name, hnames, rfl, rfl, by simpa using hparent, hplain.1, hplain.2,
                  Nat.le_of_not_lt hlength, by simpa using hdirectory⟩
  · rintro ⟨parent, name, hnames, rfl, hwalk, hparent, hdots, hslashed, hlength, hdirectory⟩
    have hlast : p.names.getLast? = some name := by
      rw [hnames, List.getLast?_concat]
    simp [writable, hlast, hwalk, Bind.bind, Except.bind, hparent, hdots, hslashed,
      Nat.not_lt.mpr hlength, hdirectory]

/-- Writing a file leaves all places for files as they were. -/
theorem writable_set_file {p : Path} {other : Location} (hlocation : files.isDirectory location = false)
    (h : files.writable p = .ok other) :
    (files.set location (some (.file content))).writable p = .ok other := by
  obtain ⟨parent, name, hnames, rfl, hwalk, hparent, hdots, hslashed, hlength, hdirectory⟩ :=
    writable_eq_ok_iff.mp h
  exact writable_eq_ok_iff.mpr ⟨parent, name, hnames, rfl, walk_set_file hlocation hwalk,
    (isDirectory_set_file hlocation parent).trans hparent, hdots, hslashed, hlength,
    (isDirectory_set_file hlocation _).trans hdirectory⟩

/-- A path leads to its place for a file when something stands there. -/
theorem walk_of_writable {p : Path} (h : files.writable p = .ok location)
    (hnode : (files.node? location).isSome = true) :
    files.walk (files.start p) p.names = .ok location := by
  obtain ⟨parent, name, hnames, rfl, hwalk, hparent, hdots, _, hlength, _⟩ := writable_eq_ok_iff.mp h
  have hstep : files.step parent name = .ok (name :: parent) :=
    step_eq_ok_iff.mpr ⟨hparent, .into hdots hlength hnode⟩
  rw [hnames, walk_append, hwalk]
  exact (bind_pure _).trans hstep

/-- A path that leads anywhere leads to its place for a file. -/
theorem eq_of_writable {p : Path} {other : Location} (h : files.writable p = .ok location)
    (hwalk : files.walk (files.start p) p.names = .ok other) : other = location := by
  obtain ⟨parent, name, hnames, rfl, hfront, _, hdots, _⟩ := writable_eq_ok_iff.mp h
  rw [hnames, walk_append, hfront] at hwalk
  have hstep : files.step parent name = .ok other := (bind_pure _).symm.trans hwalk
  obtain ⟨_, henters⟩ := step_eq_ok_iff.mp hstep
  cases henters with
  | stay => exact absurd rfl hdots.1
  | up => exact absurd rfl hdots.2
  | into => rfl

theorem write_eq_ok_iff : files.write text content = .ok files' ↔ ∃ p location,
    path text = .ok p ∧ files.writable p = .ok location ∧
      files' = files.set location (some (.file content)) := by
  unfold write
  cases path text with
  | error fault => simp [Bind.bind, Except.bind]
  | ok p =>
    cases hwritable : files.writable p <;>
      simp [Bind.bind, Except.bind, mapError_ok, mapError_error, hwritable, eq_comm]

/-- What has been written differs from what was there in one location, which was no directory. The
path leads to that location, and reading it gives back the content. -/
theorem write_eq_ok (h : files.write text content = .ok files') : ∃ location,
    files.isDirectory location = false ∧ files' = files.set location (some (.file content)) ∧
      files'.Resolves text location ∧ files'.read text = .ok content := by
  obtain ⟨p, location, hpath, hwritable, rfl⟩ := write_eq_ok_iff.mp h
  obtain ⟨_, _, _, _, _, _, _, hslashed, _, hdirectory⟩ := writable_eq_ok_iff.mp hwritable
  let written := files.set location (some (.file content))
  have hnode : written.node? location = some (.file content) := node?_set_self _ _ _
  have hfile : written.isDirectory location = false :=
    (isDirectory_set_file hdirectory location).trans hdirectory
  -- The new file may be what the last name lacked; no name before it leads through the file.
  have hwalk : written.walk (written.start p) p.names = .ok location :=
    walk_of_writable (writable_set_file hdirectory hwritable) (congrArg Option.isSome hnode)
  have hreadable := readable_eq_ok_iff.mpr ⟨location, hwalk, hfile, hslashed, hnode⟩
  exact ⟨location, hdirectory, rfl, ⟨p, hpath, hwalk⟩, read_eq_ok_iff.mpr ⟨p, hpath, hreadable⟩⟩

/-! Reading and writing again after something has been written. -/

theorem set_eq_self {node : Option Node} (h : files.node? location = node) :
    files.set location node = files := by
  refine FileSystem.ext rfl (funext fun other => ?_)
  by_cases he : other = location
  · rw [he, node?_set_self, h]
  · rw [node?_set_of_ne files node he]

/-- Two paths lead to the same location, where something stands. -/
def SameFile (files : FileSystem) (first second : String) : Prop :=
  ∃ location, files.Resolves first location ∧ files.Resolves second location

theorem Resolves.unique {other : Location} (h : files.Resolves text location)
    (h' : files.Resolves text other) : location = other := by
  obtain ⟨p, hpath, hwalk⟩ := h
  obtain ⟨q, hpath', hwalk'⟩ := h'
  obtain rfl : p = q := Except.ok.inj (hpath.symm.trans hpath')
  exact Except.ok.inj (hwalk.symm.trans hwalk')

theorem read_eq_ok (h : files.read text = .ok content) : ∃ location,
    files.Resolves text location ∧ files.node? location = some (.file content) := by
  obtain ⟨p, hpath, hreadable⟩ := read_eq_ok_iff.mp h
  obtain ⟨location, hwalk, _, _, hnode⟩ := readable_eq_ok_iff.mp hreadable
  exact ⟨location, ⟨p, hpath, hwalk⟩, hnode⟩

/-- A file reads as it did before, or as what has been written in its place. -/
theorem read_set_file {other : Location} (written : List UInt8)
    (hlocation : files.isDirectory location = false) (h : files.read text = .ok content)
    (hother : files.Resolves text other) :
    (files.set location (some (.file written))).read text =
      .ok (if other = location then written else content) := by
  obtain ⟨p, hpath, hreadable⟩ := read_eq_ok_iff.mp h
  obtain ⟨place, hwalk, hdirectory, hslashed, hnode⟩ := readable_eq_ok_iff.mp hreadable
  obtain rfl : other = place := hother.unique ⟨p, hpath, hwalk⟩
  have hnode' : (files.set location (some (.file written))).node? other =
      some (.file (if other = location then written else content)) := by
    by_cases he : other = location
    · simp [he]
    · simp [he, node?_set_of_ne files _ he, hnode]
  exact read_eq_ok_iff.mpr ⟨p, hpath, readable_eq_ok_iff.mpr ⟨other, walk_set_file hlocation hwalk,
    (isDirectory_set_file hlocation other).trans hdirectory, hslashed, hnode'⟩⟩

/-- A path that leads to something else than another one does not lead to its place for a file. -/
theorem ne_of_not_sameFile {p : Path} {other : String} {otherLocation : Location}
    (hpath : path text = .ok p) (hwritable : files.writable p = .ok location)
    (hother : files.Resolves other otherLocation)
    (hnode : (files.node? otherLocation).isSome = true) (h : ¬ files.SameFile text other) :
    otherLocation ≠ location := by
  rintro rfl
  exact h ⟨_, ⟨p, hpath, walk_of_writable hwritable hnode⟩, hother⟩

end FileSystem

end ShaderBinding
