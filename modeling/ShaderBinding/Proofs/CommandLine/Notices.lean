import ShaderBinding.CommandLine.Console
import ShaderBinding.Proofs.Log.Admitted

/-! What the program does under every filter of its log and with every stopwatch. The entries that
there are depend on the stopwatch, and a filter picks from them; the value of an action and what it
does to the files do not depend on either. -/

namespace ShaderBinding

namespace CommandLine

namespace Console

/-- The console with some notices more, the last one first. -/
def noted (console : Console) (notices : List Notice) : Console :=
  { console with given := notices ++ console.given }

theorem noted_noted (console : Console) (first second : List Notice) :
    (console.noted first).noted second = console.noted (second ++ first) := by
  simp [noted]

/-- The notices of those entries that a filter admits, the last one first. -/
def shown (filter : Log.Filter) (entries : List Entry) : List Notice :=
  ((entries.filter filter.admits).map Notice.entry).reverse

theorem shown_append (filter : Log.Filter) (first second : List Entry) :
    shown filter (first ++ second) = shown filter second ++ shown filter first := by
  simp [shown]

variable {α β : Type}

theorem bind_apply (first : StateM Console α) (next : α → StateM Console β) (console : Console) :
    (first >>= next) console = next (first console).1 (first console).2 := rfl

theorem notify_apply (duration : String) (notice : Notice) (console : Console) :
    (host duration).notify notice console = ((), console.noted [notice]) := rfl

theorem forM_notify (duration : String) (notice : β → Notice) (items : List β) (console : Console) :
    items.forM (fun item => (host duration).notify (notice item)) console =
      ((), console.noted (items.map notice).reverse) := by
  induction items generalizing console with
  | nil => rfl
  | cons item items ih =>
    have hrest := ih (console.noted [notice item])
    rw [noted_noted] at hrest
    refine hrest.trans ?_
    simp

/-- What is done with a stopwatch and a filter of the log. -/
abbrev Action (α : Type) := String → Log.Filter → StateM Console α

/-! Actions that only give notices. -/

/-- The action has the same value in all cases and does nothing but show entries. The filter only
picks from those that there are. -/
def Notes (action : Action α) (value : α) : Prop :=
  ∃ entries : String → List Entry, ∀ duration filter console,
    action duration filter console = (value, console.noted (shown filter (entries duration)))

namespace Notes

variable {action : Action α} {value : α}

theorem pure (value : α) : Notes (fun _ _ => Pure.pure value) value :=
  ⟨fun _ => [], fun _ _ _ => rfl⟩

theorem bind {next : String → Log.Filter → α → StateM Console β} {result : β} (h : Notes action value)
    (h' : Notes (fun duration filter => next duration filter value) result) :
    Notes (fun duration filter => action duration filter >>= next duration filter) result := by
  obtain ⟨earlier, haction⟩ := h
  obtain ⟨later, hnext⟩ := h'
  refine ⟨fun duration => earlier duration ++ later duration, fun duration filter console => ?_⟩
  dsimp only at hnext ⊢
  rw [bind_apply, haction, hnext, noted_noted, shown_append]

/-- What follows a look at the stopwatch may only show what it read there. -/
theorem elapsed {next : String → Log.Filter → String → StateM Console β} {result : β}
    (h : Notes (fun duration filter => next duration filter duration) result) :
    Notes (fun duration filter => (host duration).elapsed >>= next duration filter) result := h

theorem forM {action : String → Log.Filter → β → StateM Console Unit}
    (h : ∀ item, Notes (fun duration filter => action duration filter item) ()) (items : List β) :
    Notes (fun duration filter => items.forM (action duration filter)) () := by
  induction items with
  | nil => exact .pure ()
  | cons item items ih => exact .bind (h item) ih

end Notes

theorem notes_log (level : Level) (message : String → String) :
    Notes (fun duration filter => (host duration).log filter level (message duration)) () := by
  refine ⟨fun duration => [⟨level, logTarget, message duration⟩], fun duration filter console => ?_⟩
  by_cases h : filter.admits ⟨level, logTarget, message duration⟩ = true
  · simp [Host.log, shown, h, notify_apply]
  · simp only [Host.log, shown, h, List.filter_cons, List.filter_nil]
    rfl

theorem notes_logRecords (table : Table) :
    Notes (fun duration filter => (host duration).logRecords filter table) () :=
  .forM (fun _ => notes_log .info fun _ => _) _

/-- What is left of the loading when the table is there. -/
theorem notes_loaded (table : Table) :
    Notes (fun duration filter => (do
      (host duration).logRecords filter table
      let time ← (host duration).elapsed
      (host duration).log filter .info ("Loaded " ++ toString table.size ++ " records in " ++ time)
      Pure.pure (.ok table) : StateM Console (Except Failure Table))) (.ok table) :=
  .bind (notes_logRecords table) (.elapsed (.bind (notes_log .info fun _ => _) (.pure _)))

theorem notes_entries (entries : List Entry) :
    Notes (fun duration filter => (entries.filter filter.admits).forM fun entry =>
      (host duration).notify (.entry entry)) () :=
  ⟨fun _ => entries, fun _ _ _ => forM_notify _ _ _ _⟩

theorem notes_generate (variant : Variant) (table : Table) (base : String) :
    Notes (fun duration filter => generate (host duration) filter variant table base)
      (Artifact.compose base (Artifact.dispatches table variant)) := by
  unfold generate
  simp only [Artifact.makes_generate table variant _]
  refine .bind (.pure ()) (.bind (notes_entries _) ?_)
  refine .bind (.forM (fun _ => notes_log .debug fun _ => _) _) ?_
  exact .elapsed (.bind (notes_log .info fun _ => _) (.pure _))

/-! Actions that may change the files. -/

/-- The action has the same value in all cases, does the same to the files, and shows entries. The
filter only picks from those that there are. -/
def Tells (action : Action α) : Prop :=
  ∀ files printed, ∃ (value : α) (files' : FileSystem) (entries : String → List Entry),
    ∀ duration filter given, action duration filter ⟨files, printed, given⟩ =
      (value, ⟨files', printed, shown filter (entries duration) ++ given⟩)

theorem Notes.tells {action : Action α} {value : α} (h : Notes action value) : Tells action := by
  obtain ⟨entries, haction⟩ := h
  exact fun files printed => ⟨value, files, entries, fun duration filter _ => haction duration filter _⟩

theorem Tells.bind {action : Action α} {next : String → Log.Filter → α → StateM Console β}
    (h : Tells action) (h' : ∀ value, Tells fun duration filter => next duration filter value) :
    Tells fun duration filter => action duration filter >>= next duration filter := by
  intro files printed
  obtain ⟨value, between, earlier, haction⟩ := h files printed
  obtain ⟨result, files', later, hnext⟩ := h' value between printed
  refine ⟨result, files', fun duration => earlier duration ++ later duration,
    fun duration filter given => ?_⟩
  dsimp only at hnext ⊢
  rw [bind_apply, haction, hnext, shown_append, List.append_assoc]

theorem tells_read (path : String) : Tells fun duration _ => (host duration).read path :=
  fun files _ => ⟨files.read path, files, fun _ => [], fun _ _ _ => rfl⟩

theorem tells_write (path text : String) : Tells fun duration _ => (host duration).write path text := by
  intro files printed
  cases hwrite : files.write path (utf8Bytes text) with
  | ok files' => exact ⟨.ok (), files', fun _ => [], fun _ _ _ => by simp [host, hwrite, shown]⟩
  | error fault => exact ⟨.error fault, files, fun _ => [], fun _ _ _ => by simp [host, hwrite, shown]⟩

theorem tells_loadTable (path : String) :
    Tells fun duration filter => loadTable (host duration) filter path := by
  refine .bind (Notes.pure ()).tells fun _ => .bind (tells_read path) fun content => ?_
  cases Table.ofFile path content with
  | error error => exact (Notes.pure _).tells
  | ok table => exact (notes_loaded table).tells

theorem tells_writeOut (path artifact : String) :
    Tells fun duration filter => writeOut (host duration) filter path artifact := by
  refine .bind (notes_log .info fun _ => _).tells fun _ => .bind (tells_write path artifact) fun written => ?_
  cases written <;> exact (Notes.pure _).tells

/-- A run does the same under every filter and with every stopwatch, but for what it shows. -/
theorem tells_run (options : Options) :
    Tells fun duration filter => CommandLine.run (host duration) filter options := by
  refine .bind (tells_loadTable _) fun loaded => ?_
  cases loaded with
  | error failure => exact (Notes.pure _).tells
  | ok table =>
    refine .bind (tells_read _) fun content => ?_
    cases readText options.paths.shader content with
    | error error => exact (Notes.pure _).tells
    | ok base =>
      exact .bind (notes_generate options.variant table base).tells fun artifact =>
        tells_writeOut _ artifact

end Console

end CommandLine

end ShaderBinding
