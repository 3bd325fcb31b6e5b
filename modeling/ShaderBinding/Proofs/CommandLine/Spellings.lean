import Mathlib.Data.List.Forall2
import Mathlib.Data.List.Nodup
import ShaderBinding.CommandLine.Console

/-! Command lines that give values to settings. A value may be attached to its option or stand in an
argument of its own, where it waits until the next option or the end. However the settings are spelled
and in whatever order, the same values are taken up. -/

namespace ShaderBinding

namespace CommandLine

namespace Setting

/-- Only a macro may be empty, and the variant is one of two. -/
def Takes : Setting → String → Prop
  | table, value | shader, value | out, value => value ≠ ""
  | variant, value => value = "legacy" ∨ value = "textured"
  | textureTypeMacro, _ | textureParamMacro, _ => True

instance : ∀ (setting : Setting) (value : String), Decidable (setting.Takes value)
  | table, value | shader, value | out, value => inferInstanceAs (Decidable (value ≠ ""))
  | variant, value => inferInstanceAs (Decidable (value = "legacy" ∨ value = "textured"))
  | textureTypeMacro, _ | textureParamMacro, _ => inferInstanceAs (Decidable True)

theorem Takes.allowsEmpty {setting : Setting} {value : String} (h : setting.Takes value)
    (hempty : value = "") : setting.allowsEmpty = true := by
  subst hempty
  revert h
  cases setting <;> decide

theorem Takes.choices {setting : Setting} {value : String} (h : setting.Takes value) :
    setting.choices = [] ∨ (setting.choices.lookup value).isSome = true := by
  cases setting with
  | variant =>
    right
    rcases h with rfl | rfl <;> rfl
  | table | shader | out | textureTypeMacro | textureParamMacro => exact .inl rfl

theorem mem_all (setting : Setting) : setting ∈ all := by
  cases setting <;> decide

theorem nodup_all : all.Nodup := by decide

variable {setting : Setting} {letter : Char}

theorem ofLong?_long (setting : Setting) : ofLong? setting.long = some setting := by
  cases setting <;> rfl

theorem equals_notMem_long (setting : Setting) : '=' ∉ setting.long.toList := by
  cases setting <;> decide

theorem long_ne_nil (setting : Setting) : setting.long.toList ≠ [] := by
  cases setting <;> decide

theorem ofShort?_of_short (h : setting.short? = some letter) : ofShort? letter = some setting := by
  cases setting <;> cases h <;> rfl

theorem ne_dash_of_short (h : setting.short? = some letter) : letter ≠ '-' := by
  cases setting <;> cases h <;> decide

end Setting

/-- An argument that names a setting, with the value attached to it if there is one. Right behind the
letter of a short option a value must not look like an option or begin with an equals sign. -/
inductive Opens (setting : Setting) : Option String → String → Prop
  | long : Opens setting none ("--" ++ setting.long)
  | longEquals (value : String) : Opens setting (some value) ("--" ++ setting.long ++ "=" ++ value)
  | short {letter : Char} : setting.short? = some letter →
      Opens setting none ("-" ++ String.singleton letter)
  | shortEquals {letter : Char} (value : String) : setting.short? = some letter →
      Opens setting (some value) ("-" ++ String.singleton letter ++ "=" ++ value)
  | shortJoined {letter : Char} {value : String} : setting.short? = some letter → value ≠ "" →
      value.toList.head? ≠ some '-' → value.toList.head? ≠ some '=' →
      Opens setting (some value) ("-" ++ String.singleton letter ++ value)

/-- The arguments that give a setting its value. -/
inductive Gives (setting : Setting) (value : String) : List String → Prop
  | attached {argument : String} : Opens setting (some value) argument → Gives setting value [argument]
  | apart {argument : String} : Opens setting none argument → value.toList.head? ≠ some '-' →
      Gives setting value [argument, value]

/-! One option. -/

section

variable {progress : Progress} {setting : Setting} {value : String}

theorem ne_equals_of_notMem {name : List Char} (h : '=' ∉ name) :
    ∀ c ∈ name, decide (c ≠ '=') = true := by
  intro c hc
  have hne : c ≠ '=' := fun he => h (he ▸ hc)
  simpa using hne

theorem splitAtEquals_of_notMem {name : List Char} (h : '=' ∉ name) :
    splitAtEquals name = (name, none) := by
  have hdrop : (name ++ []).dropWhile (· ≠ '=') = [] := by
    rw [List.dropWhile_append_of_pos (ne_equals_of_notMem h)]
    rfl
  rw [List.append_nil] at hdrop
  rw [splitAtEquals, hdrop]

theorem splitAtEquals_append {name : List Char} (h : '=' ∉ name) (value : List Char) :
    splitAtEquals (name ++ '=' :: value) = (name, some value) := by
  have hdrop : (name ++ '=' :: value).dropWhile (· ≠ '=') = '=' :: value := by
    rw [List.dropWhile_append_of_pos (ne_equals_of_notMem h)]
    simp
  have htake : (name ++ '=' :: value).takeWhile (· ≠ '=') = name := by
    rw [List.takeWhile_append_of_pos (ne_equals_of_notMem h)]
    simp
  rw [splitAtEquals, hdrop, htake]

theorem longArgument_eq {chars : List Char} {attached : Option (List Char)}
    (h : splitAtEquals chars = (setting.long.toList, attached)) :
    longArgument progress chars =
      (progress.give setting (attached.map String.ofList)).map Advance.more := by
  simp only [longArgument, h, String.ofList_toList, setting.ofLong?_long]
  cases progress.give setting (attached.map String.ofList) <;> rfl

theorem shortArgument_eq {letter : Char} (h : setting.short? = some letter) (rest : List Char) :
    shortArgument progress letter rest =
      (progress.give setting ((attachedShort rest).map String.ofList)).map Advance.more := by
  simp only [shortArgument, Setting.ofShort?_of_short h]
  cases progress.give setting ((attachedShort rest).map String.ofList) <;> rfl

theorem attachedShort_of_head? {rest : List Char} (h : rest ≠ []) (h' : rest.head? ≠ some '=') :
    attachedShort rest = some rest := by
  cases rest with
  | nil => exact absurd rfl h
  | cons c rest =>
    have hc : c ≠ '=' := fun he => h' (congrArg some he)
    unfold attachedShort
    split
    · rename_i heq
      cases heq
    · rename_i heq
      exact absurd (List.cons.inj heq).1 hc
    · rfl

theorem argument_of_long {text : String} {chars : List Char} (h : text.toList = '-' :: '-' :: chars) :
    argument progress text = longArgument progress chars := by
  simp only [argument, h]

theorem argument_of_short {text : String} {letter : Char} {rest : List Char}
    (h : text.toList = '-' :: letter :: rest) (hletter : letter ≠ '-') :
    argument progress text = shortArgument progress letter rest := by
  unfold argument
  split
  · rename_i heq
    rw [h] at heq
    exact absurd (List.cons.inj (List.cons.inj heq).2).1 hletter
  · rename_i heq
    rw [h] at heq
    obtain ⟨rfl, rfl⟩ := List.cons.inj (List.cons.inj heq).2
    rfl
  · rename_i hno
    exact absurd h (hno letter rest)

theorem argument_of_value (h : value.toList.head? ≠ some '-') :
    argument progress value = valueArgument progress value := by
  unfold argument
  split
  · rename_i heq
    exact absurd (congrArg List.head? heq) h
  · rename_i heq
    exact absurd (congrArg List.head? heq) h
  · rfl

/-- Behind two dashes the name ends at the first equals sign, behind one dash after the letter. -/
theorem Opens.toList_cases {attached : Option String} {text : String}
    (h : Opens setting attached text) :
    (∃ chars, text.toList = '-' :: '-' :: chars ∧ chars ≠ [] ∧
      splitAtEquals chars = (setting.long.toList, attached.map String.toList)) ∨
    ∃ letter rest, text.toList = '-' :: letter :: rest ∧ setting.short? = some letter ∧
      attachedShort rest = attached.map String.toList := by
  have hdash : "-".toList = ['-'] := String.toList_ofList
  have hdashes : "--".toList = ['-', '-'] := String.toList_ofList
  have hequals : "=".toList = ['='] := String.toList_ofList
  have hname := setting.equals_notMem_long
  cases h with
  | long =>
    exact .inl ⟨setting.long.toList, by simp [hdashes], setting.long_ne_nil,
      splitAtEquals_of_notMem hname⟩
  | longEquals value =>
    exact .inl ⟨setting.long.toList ++ '=' :: value.toList, by simp [hdashes, hequals], by simp,
      splitAtEquals_append hname _⟩
  | short hletter => exact .inr ⟨_, [], by simp [hdash], hletter, rfl⟩
  | shortEquals value hletter =>
    exact .inr ⟨_, '=' :: value.toList, by simp [hdash, hequals], hletter, rfl⟩
  | @shortJoined letter value hletter hne _ hhead =>
    have hrest : value.toList ≠ [] := fun hnil => hne (String.toList_eq_nil_iff.mp hnil)
    exact .inr ⟨_, value.toList, by simp [hdash], hletter, attachedShort_of_head? hrest hhead⟩

/-- A setting that is named waits for its value, unless the value is attached. The value of the one
before it is checked first. -/
theorem Opens.argument_eq {attached : Option String} {text : String} (h : Opens setting attached text) :
    argument progress text = (progress.give setting attached).map Advance.more := by
  have hback : (attached.map String.toList).map String.ofList = attached := by simp
  rcases h.toList_cases with ⟨chars, hchars, _, hsplit⟩ | ⟨letter, rest, hchars, hletter, hrest⟩
  · rw [argument_of_long hchars, longArgument_eq hsplit, hback]
  · rw [argument_of_short hchars (Setting.ne_dash_of_short hletter), shortArgument_eq hletter, hrest,
      hback]

theorem Opens.ne_dashes {attached : Option String} {text : String} (h : Opens setting attached text) :
    text ≠ "--" := by
  have hdashes : "--".toList = ['-', '-'] := String.toList_ofList
  rintro rfl
  rcases h.toList_cases with ⟨chars, hchars, hne, _⟩ | ⟨letter, rest, hchars, hletter, _⟩
  · rw [hdashes] at hchars
    exact hne (List.cons.inj (List.cons.inj hchars).2).2.symm
  · rw [hdashes] at hchars
    exact Setting.ne_dash_of_short hletter (List.cons.inj (List.cons.inj hchars).2).1.symm

theorem ne_dashes_of_head? (h : value.toList.head? ≠ some '-') : value ≠ "--" := by
  rintro rfl
  exact h rfl

theorem Values.add_of_takes {values : Values} (hnew : setting ∉ values.map Prod.fst)
    (h : setting.Takes value) : values.add setting value = .ok (values ++ [(setting, value)]) := by
  have hlookup : values.lookup setting = none := by
    rw [List.lookup_eq_none_iff]
    intro pair hpair
    have hne : setting ≠ pair.1 := fun he => hnew (he ▸ List.mem_map_of_mem hpair)
    simpa using hne
  have hempty : (value.isEmpty && !setting.allowsEmpty) = false := by
    by_cases he : value = ""
    · simp [h.allowsEmpty he]
    · simp [he]
  have hchoice : (!setting.choices.isEmpty && (setting.choices.lookup value).isNone) = false := by
    rcases h.choices with hnone | hsome
    · simp [hnone]
    · simp [Option.isNone_eq_false_iff.mpr hsome]
  simp [Values.add, hlookup, hempty, hchoice]

theorem readArguments_cons {progress' : Progress} {next : String} {rest : List String}
    (hnext : next ≠ "--") (h : argument progress next = .ok (.more progress')) :
    readArguments progress (next :: rest) = readArguments progress' rest := by
  rw [readArguments.eq_def]
  dsimp only
  rw [if_neg hnext, h]
  rfl

theorem readArguments_nil {values : Values} (h : progress.settle = .ok values) :
    readArguments progress [] = .ok (.run values.options) := by
  rw [readArguments, h]
  rfl

/-- One setting is read. Whether its value has been checked or still waits, it counts as given. -/
theorem Gives.exists_progress {values : Values} {arguments : List String}
    (h : Gives setting value arguments) (hsettle : progress.settle = .ok values)
    (hnew : setting ∉ values.map Prod.fst) (htakes : setting.Takes value) :
    ∃ progress', progress'.settle = .ok (values ++ [(setting, value)]) ∧
      ∀ rest, readArguments progress (arguments ++ rest) = readArguments progress' rest := by
  have hadd := Values.add_of_takes hnew htakes
  cases h with
  | @attached argument hopens =>
    have hgive : progress.give setting (some value) = .ok ⟨values ++ [(setting, value)], none⟩ := by
      simp only [Progress.give, hsettle, hadd, Bind.bind, Except.bind]
    refine ⟨⟨values ++ [(setting, value)], none⟩, rfl, fun rest => ?_⟩
    refine readArguments_cons hopens.ne_dashes ?_
    rw [hopens.argument_eq, hgive]
    rfl
  | @apart argument hopens hhead =>
    have hgive : progress.give setting none = .ok ⟨values, some ⟨setting, none⟩⟩ := by
      simp only [Progress.give, hsettle, Bind.bind, Except.bind]
    have hopened : CommandLine.argument progress argument =
        .ok (.more ⟨values, some ⟨setting, none⟩⟩) := by
      rw [hopens.argument_eq, hgive]
      rfl
    have hvalue : CommandLine.argument ⟨values, some ⟨setting, none⟩⟩ value =
        .ok (.more ⟨values, some ⟨setting, some value⟩⟩) := by
      rw [argument_of_value hhead]
      rfl
    refine ⟨⟨values, some ⟨setting, some value⟩⟩, hadd, fun rest => ?_⟩
    exact (readArguments_cons hopens.ne_dashes hopened).trans
      (readArguments_cons (ne_dashes_of_head? hhead) hvalue)

end

/-! Whole command lines. -/

/-- All settings are read one after the other. -/
theorem readArguments_of_gives {progress : Progress} {values given : Values} {pieces : List (List String)}
    (hsettle : progress.settle = .ok values) (htakes : ∀ pair ∈ given, pair.1.Takes pair.2)
    (hdistinct : ((values ++ given).map Prod.fst).Nodup)
    (hpieces : List.Forall₂ (fun pair piece => Gives pair.1 pair.2 piece) given pieces) :
    readArguments progress pieces.flatten = .ok (.run (Values.options (values ++ given))) := by
  -- What has been read is settled at each turn, since a value may still be awaited there.
  induction hpieces generalizing progress values with
  | nil =>
    rw [List.append_nil]
    exact readArguments_nil hsettle
  | @cons pair piece given pieces hgives _ ih =>
    have hnew : pair.1 ∉ values.map Prod.fst := by
      rw [List.map_append, List.map_cons, List.nodup_append] at hdistinct
      intro hmem
      exact hdistinct.2.2 _ hmem _ List.mem_cons_self rfl
    have hrest : values ++ [pair] ++ given = values ++ pair :: given := by simp
    obtain ⟨progress', hsettle', hread⟩ :=
      hgives.exists_progress hsettle hnew (htakes pair List.mem_cons_self)
    have hlater := ih hsettle' (fun other hother => htakes other (List.mem_cons_of_mem _ hother))
      (hrest ▸ hdistinct)
    rw [hrest] at hlater
    rw [List.flatten_cons, hread, hlater]

/-- A setting and its value in one argument. -/
def attached (setting : Setting) (value : String) : String :=
  "--" ++ setting.long ++ "=" ++ value

theorem ofArguments_attached {given : Values} (htakes : ∀ pair ∈ given, pair.1.Takes pair.2)
    (hdistinct : (given.map Prod.fst).Nodup) :
    Request.ofArguments (given.map fun pair => attached pair.1 pair.2) = .ok (.run given.options) := by
  have hpieces : List.Forall₂ (fun pair piece => Gives pair.1 pair.2 piece) given
      (given.map fun pair => [attached pair.1 pair.2]) := by
    rw [List.forall₂_map_right_iff, List.forall₂_same]
    exact fun pair _ => .attached (.longEquals pair.2)
  rw [List.map_eq_flatMap, List.flatMap_def]
  exact readArguments_of_gives (rfl : Progress.start.settle = .ok []) htakes hdistinct hpieces

/-- The values in the order in which the settings are declared. -/
def inOrder (given : Values) : Values :=
  Setting.all.filterMap fun setting => (given.lookup setting).map fun value => (setting, value)

section

variable {given : Values} {setting : Setting} {value : String}

theorem mem_inOrder_iff : (setting, value) ∈ inOrder given ↔ given.lookup setting = some value := by
  simp [inOrder, Setting.mem_all]

theorem lookup_eq_some_iff_mem (h : (given.map Prod.fst).Nodup) :
    given.lookup setting = some value ↔ (setting, value) ∈ given := by
  induction given with
  | nil => simp
  | cons pair given ih =>
    obtain ⟨key, first⟩ := pair
    obtain ⟨hnew, hrest⟩ := List.nodup_cons.mp h
    by_cases he : setting = key
    · subst he
      have hnot : (setting, value) ∉ given := fun hmem => hnew (List.mem_map.mpr ⟨_, hmem, rfl⟩)
      simp [hnot, eq_comm]
    · have hne : (setting == key) = false := beq_eq_false_iff_ne.mpr he
      simp [List.lookup_cons, hne, he, ih hrest]

theorem nodup_inOrder (given : Values) : ((inOrder given).map Prod.fst).Nodup := by
  have hkeys : (inOrder given).map Prod.fst =
      Setting.all.filter fun setting => (given.lookup setting).isSome := by
    rw [inOrder, List.map_filterMap, ← List.filterMap_eq_filter]
    apply List.filterMap_congr
    intro setting _
    cases hlookup : given.lookup setting <;> simp [hlookup, Option.guard]
  rw [hkeys]
  exact Setting.nodup_all.filter _

theorem perm_inOrder (h : (given.map Prod.fst).Nodup) : (inOrder given).Perm given := by
  refine (List.perm_ext_iff_of_nodup (nodup_inOrder given).of_map h.of_map).mpr fun pair => ?_
  rw [← lookup_eq_some_iff_mem h]
  exact mem_inOrder_iff

theorem lookup_inOrder (given : Values) (setting : Setting) :
    (inOrder given).lookup setting = given.lookup setting := by
  apply Option.ext
  intro value
  rw [lookup_eq_some_iff_mem (nodup_inOrder given), mem_inOrder_iff]

theorem options_inOrder (given : Values) : (inOrder given).options = given.options := by
  have hget : ∀ setting, (inOrder given).get setting = given.get setting := by
    intro setting
    rw [Values.get, Values.get, lookup_inOrder]
  simp only [Values.options, Values.variant, hget]

end

/-- However values are given, each by one of its spellings and in any order, the run is the same as if
each stood attached to its long option in the order of the declaration. It is a run with these values,
and with the standard ones for all other settings. -/
theorem run_of_spellings {given : Values} {pieces : List (List String)}
    (hdistinct : (given.map Prod.fst).Nodup) (htakes : ∀ pair ∈ given, pair.1.Takes pair.2)
    (hpieces : List.Forall₂ (fun pair piece => Gives pair.1 pair.2 piece) given pieces)
    (duration : String) (files : FileSystem) (logSetting : Option String) :
    (inOrder given).Perm given ∧
    Request.ofArguments pieces.flatten = .ok (.run given.options) ∧
    Console.run duration files logSetting pieces.flatten =
      Console.run duration files logSetting
        ((inOrder given).map fun pair => attached pair.1 pair.2) := by
  have hperm := perm_inOrder hdistinct
  have hread : Request.ofArguments pieces.flatten = .ok (.run given.options) :=
    readArguments_of_gives (rfl : Progress.start.settle = .ok []) htakes hdistinct hpieces
  have hordered := ofArguments_attached (fun pair hpair => htakes pair (hperm.subset hpair))
    (nodup_inOrder given)
  rw [options_inOrder] at hordered
  have hsame : Request.ofArguments pieces.flatten =
      Request.ofArguments ((inOrder given).map fun pair => attached pair.1 pair.2) :=
    hread.trans hordered.symm
  refine ⟨hperm, hread, ?_⟩
  rw [Console.run, Console.run, program, program, hsame]

/-- A macro that is empty, and a path that looks like an option with its value. -/
theorem run_of_spellings_reversed :
    let given : Values := [(.textureParamMacro, ""), (.variant, "legacy"), (.table, "t=-s")]
    let pieces := [["--texture-param-macro", ""], ["-vlegacy"], ["-t=t=-s"]]
    (given.map Prod.fst).Nodup ∧ (∀ pair ∈ given, pair.1.Takes pair.2) ∧
      List.Forall₂ (fun pair piece => Gives pair.1 pair.2 piece) given pieces ∧
      Console.run "1ms" .scratch none ["--texture-param-macro", "", "-vlegacy", "-t=t=-s"] =
        Console.run "1ms" .scratch none
          ["--table=t=-s", "--variant=legacy", "--texture-param-macro="] := by
  intro given pieces
  have hdistinct : (given.map Prod.fst).Nodup := by decide
  have htakes : ∀ pair ∈ given, pair.1.Takes pair.2 := by decide
  have hjoined : "-" ++ String.singleton 'v' ++ "legacy" = "-vlegacy" := by decide
  have hequals : "-" ++ String.singleton 't' ++ "=" ++ "t=-s" = "-t=t=-s" := by decide
  have hvariant : Opens .variant (some "legacy") "-vlegacy" :=
    hjoined ▸ .shortJoined rfl (by decide) (by decide) (by decide)
  have htable : Opens .table (some "t=-s") "-t=t=-s" := hequals ▸ .shortEquals _ rfl
  have hpieces : List.Forall₂ (fun pair piece => Gives pair.1 pair.2 piece) given pieces :=
    .cons (.apart .long (by decide)) (.cons (.attached hvariant) (.cons (.attached htable) .nil))
  exact ⟨hdistinct, htakes, hpieces, (run_of_spellings hdistinct htakes hpieces "1ms" .scratch none).2.2⟩

end CommandLine

end ShaderBinding
