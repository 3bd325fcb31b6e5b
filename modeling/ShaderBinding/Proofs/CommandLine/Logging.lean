import ShaderBinding.Proofs.Artifact.Repetition
import ShaderBinding.Proofs.CommandLine.Notices
import ShaderBinding.Proofs.Log.Settings

/-! The setting of the log has no influence on the program. Under every list of items the same is
done, printed and reported, and what is shown of the log is a part of the whole log. -/

namespace ShaderBinding

namespace CommandLine

def Notice.entry? : Notice → Option Entry
  | entry e => some e
  | _ => none

namespace Console

/-- The entries of the log that the console shows. -/
def log (console : Console) : List Entry := console.notices.filterMap Notice.entry?

/-- What the console tells besides the log: an error of usage, or a failure. -/
def report (console : Console) : List Notice :=
  console.notices.filter fun notice => notice.entry?.isNone

section

variable {files : FileSystem} {printed : String} {filter : Log.Filter} {entries : List Entry}
  {reported : List Notice}

theorem notices_of_shown :
    notices ⟨files, printed, reported.reverse ++ shown filter entries⟩ =
      (entries.filter filter.admits).map Notice.entry ++ reported := by
  simp [notices, shown]

theorem filterMap_entry? (shown : List Entry) :
    (shown.map Notice.entry).filterMap Notice.entry? = shown := by
  simp [List.filterMap_map, Function.comp_def, Notice.entry?]

variable (h : ∀ notice ∈ reported, notice.entry? = none)

include h

theorem log_of_shown : log ⟨files, printed, reported.reverse ++ shown filter entries⟩ =
    entries.filter filter.admits := by
  rw [log, notices_of_shown, List.filterMap_append, filterMap_entry?, List.filterMap_eq_nil_iff.mpr h,
    List.append_nil]

theorem report_of_shown :
    report ⟨files, printed, reported.reverse ++ shown filter entries⟩ = reported := by
  have hentries : ((entries.filter filter.admits).map Notice.entry).filter
      (fun notice => notice.entry?.isNone) = [] := by
    apply List.filter_eq_nil_iff.mpr
    intro notice hnotice
    obtain ⟨entry, -, rfl⟩ := List.mem_map.mp hnotice
    simp [Notice.entry?]
  have hreported : reported.filter (fun notice => notice.entry?.isNone) = reported := by
    apply List.filter_eq_self.mpr
    intro notice hnotice
    rw [h notice hnotice]
    rfl
  rw [report, notices_of_shown, List.filter_append, hentries, hreported, List.nil_append]

end

theorem program_of_plain {setting : Option String} (h : (Log.Filter.ofSetting setting).2 = [])
    (duration : String) (arguments : List String) (console : Console) :
    program (host duration) setting arguments console =
      match Request.ofArguments arguments with
      | .ok request => serve (host duration) (Log.Filter.ofSetting setting).1 request console
      | .error error => (.usage, console.noted [.usage error]) := by
  unfold program
  generalize Log.Filter.ofSetting setting = read at h ⊢
  obtain ⟨filter, complaints⟩ := read
  obtain rfl : complaints = [] := h
  cases Request.ofArguments arguments <;> rfl

theorem serve_run (duration : String) (filter : Log.Filter) (options : Options) (console : Console) :
    serve (host duration) filter (.run options) console =
      let ended := CommandLine.run (host duration) filter options console
      match ended.1 with
      | .ok () => (.success, ended.2)
      | .error failure => (.failure, ended.2.noted [.failure failure]) := by
  rw [serve, bind_apply]
  dsimp only
  cases (CommandLine.run (host duration) filter options console).1 <;> rfl

/-- There is one outcome in all cases: the entries that are shown are picked out of the same ones, and
what is reported stands behind them. -/
theorem exists_served (request : Request) (files : FileSystem) :
    ∃ (status : Status) (files' : FileSystem) (printed : String) (entries : String → List Entry)
      (reported : List Notice), (∀ notice ∈ reported, notice.entry? = none) ∧
        ∀ duration filter, serve (host duration) filter request (start files) =
          (status, ⟨files', printed, reported.reverse ++ shown filter (entries duration)⟩) := by
  have hnone : ∀ notice ∈ ([] : List Notice), notice.entry? = none := by simp
  cases request with
  | briefHelp =>
    exact ⟨.success, files, "" ++ linesText briefHelpLines, fun _ => [], [], hnone, fun _ _ => rfl⟩
  | fullHelp =>
    exact ⟨.success, files, "" ++ linesText fullHelpLines, fun _ => [], [], hnone, fun _ _ => rfl⟩
  | version => exact ⟨.success, files, "" ++ versionText, fun _ => [], [], hnone, fun _ _ => rfl⟩
  | run options =>
    obtain ⟨result, files', entries, hrun⟩ := tells_run options files ""
    have hended := fun duration filter => hrun duration filter []
    simp only [List.append_nil] at hended
    cases result with
    | ok done =>
      refine ⟨.success, files', "", entries, [], hnone, fun duration filter => ?_⟩
      rw [serve_run, start, hended]
      rfl
    | error failure =>
      refine ⟨.failure, files', "", entries, [.failure failure], by simp [Notice.entry?],
        fun duration filter => ?_⟩
      rw [serve_run, start, hended]
      rfl

theorem exists_outcome (files : FileSystem) (arguments : List String) :
    ∃ (status : Status) (files' : FileSystem) (printed : String) (entries : String → List Entry)
      (reported : List Notice), (∀ notice ∈ reported, notice.entry? = none) ∧
        ∀ duration setting, (Log.Filter.ofSetting setting).2 = [] →
          run duration files setting arguments = (status, ⟨files', printed,
            reported.reverse ++ shown (Log.Filter.ofSetting setting).1 (entries duration)⟩) := by
  cases hrequest : Request.ofArguments arguments with
  | error error =>
    refine ⟨.usage, files, "", fun _ => [], [.usage error], by simp [Notice.entry?],
      fun duration setting h => ?_⟩
    rw [run, program_of_plain h, hrequest]
    rfl
  | ok request =>
    obtain ⟨status, files', printed, entries, reported, hreported, hserve⟩ := exists_served request files
    refine ⟨status, files', printed, entries, reported, hreported, fun duration setting h => ?_⟩
    rw [run, program_of_plain h, hrequest]
    exact hserve duration _

/-- Under any two settings the program ends with the same status, prints the same, leaves the same
files and reports the same, whatever its stopwatch shows. The report stands behind the log, and the
entries shown are some of those shown under the setting of the last level, in their order. -/
theorem run_of_settings {setting setting' : Option String} (h : Log.IsPlain setting)
    (h' : Log.IsPlain setting') (duration duration' : String) (files : FileSystem)
    (arguments : List String) :
    let first := run duration files setting arguments
    let second := run duration' files setting' arguments
    first.1 = second.1 ∧ first.2.printed = second.2.printed ∧ first.2.files = second.2.files ∧
    first.2.report = second.2.report ∧
    first.2.notices = first.2.log.map Notice.entry ++ first.2.report ∧
    second.2.notices = second.2.log.map Notice.entry ++ second.2.report ∧
    first.2.log.Sublist (run duration files (some "trace") arguments).2.log ∧
    second.2.log.Sublist (run duration' files (some "trace") arguments).2.log := by
  obtain ⟨status, files', printed, entries, reported, hreported, hrun⟩ := exists_outcome files arguments
  have htrace : (Log.Filter.ofSetting (some "trace")).2 = [] :=
    Log.Filter.complaints_of_isPlain (.inr ⟨[.level "trace"], by decide +kernel, rfl⟩)
  have hall : ∀ entries : List Entry,
      entries.filter (Log.Filter.ofSetting (some "trace")).1.admits = entries :=
    fun entries => List.filter_eq_self.mpr fun entry _ => Log.Filter.admits_of_trace entry
  dsimp only
  rw [hrun _ _ htrace, hrun _ _ htrace, hrun _ _ (Log.Filter.complaints_of_isPlain h),
    hrun _ _ (Log.Filter.complaints_of_isPlain h')]
  simp only [log_of_shown hreported, report_of_shown hreported, notices_of_shown, hall, true_and]
  exact ⟨List.filter_sublist, List.filter_sublist⟩

/-- One setting shows all but what the other one shows. -/
theorem run_of_settings_legacy :
    let arguments := ["--table=sbt.json", "--shader=shader.cl", "--out=out.cl", "--variant=legacy"]
    let setting := some "debug,sbtgen::dispatch=OFF,sbtgen"
    let setting' := some "sbtgen::dispatch=trace"
    let first := run "1ms" Artifact.sourceFiles setting arguments
    let second := run "2ms" Artifact.sourceFiles setting' arguments
    (Log.IsPlain setting ∧ Log.IsPlain setting') ∧ first.1 = .success ∧
      first.2.log.map Entry.level = [.info, .info, .debug, .debug, .info, .info] ∧
      second.2.log.map Entry.level = [.trace, .debug, .debug] ∧
      first.1 = second.1 ∧ first.2.printed = second.2.printed ∧ first.2.files = second.2.files ∧
      first.2.report = second.2.report ∧
      first.2.notices = first.2.log.map Notice.entry ++ first.2.report ∧
      second.2.notices = second.2.log.map Notice.entry ++ second.2.report ∧
      first.2.log.Sublist (run "1ms" Artifact.sourceFiles (some "trace") arguments).2.log ∧
      second.2.log.Sublist (run "2ms" Artifact.sourceFiles (some "trace") arguments).2.log := by
  intro arguments setting setting' first second
  have hsetting : Log.IsPlain setting :=
    .inr ⟨[.level "debug", .both "sbtgen::dispatch" "OFF", .target "sbtgen"], by decide +kernel, by rfl⟩
  have hsetting' : Log.IsPlain setting' :=
    .inr ⟨[.both "sbtgen::dispatch" "trace"], by decide +kernel, by rfl⟩
  have hstatus : first.1 = .success := by decide +kernel
  have hshown : first.2.log.map Entry.level = [.info, .info, .debug, .debug, .info, .info] := by
    decide +kernel
  have hshown' : second.2.log.map Entry.level = [.trace, .debug, .debug] := by decide +kernel
  exact ⟨⟨hsetting, hsetting'⟩, hstatus, hshown, hshown',
    run_of_settings hsetting hsetting' "1ms" "2ms" Artifact.sourceFiles arguments⟩

end Console

end CommandLine

end ShaderBinding
