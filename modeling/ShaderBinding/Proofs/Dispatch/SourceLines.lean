import ShaderBinding.Proofs.Dispatch.CaseLines

/-! The lines of a dispatch function around its cases: none of them breaks, none of them reads like
a case, and at most the one for unbound indices reads like that one. -/

namespace ShaderBinding

namespace Dispatch

open SourceText

def header (dispatch : Dispatch) : List String :=
  ["void " ++ dispatch.spec.kind.functionName ++ "(" ++ dispatch.spec.parameters ++ ")", "\x7b"]
    ++ dispatch.spec.kind.selectorLines
    ++ ["    switch (" ++ dispatch.spec.kind.selector ++ ")", "    \x7b"]

def footer (dispatch : Dispatch) : List String :=
  (if dispatch.spec.defaultBranch then [defaultLine dispatch.spec.kind] else [])
    ++ ["    \x7d", "\x7d"]

theorem lines_eq (dispatch : Dispatch) : dispatch.lines =
    dispatch.header ++ dispatch.branches.map (Branch.line dispatch.spec.arguments) ++
      dispatch.footer := by
  simp [lines, header, footer]

/-- The first visible characters of the lines around the cases start no mark. -/
theorem starts_frame {mark pad rest : List Char} {first : Char}
    (hmark : mark = caseMark ∨ mark = defaultMark) (hpad : pad.all isWhiteSpace = true)
    (hfirst : first ∈ ['v', '\x7b', 'i', 's', '\x7d']) :
    starts mark (pad ++ first :: rest) = false := by
  have hvisible : isWhiteSpace first = false := by
    simp only [List.mem_cons, List.not_mem_nil, or_false] at hfirst
    rcases hfirst with rfl | rfl | rfl | rfl | rfl <;> decide
  have hdrop : ((pad ++ first :: rest).dropWhile isWhiteSpace).head? = some first := by
    rw [dropWhile_isWhiteSpace_append (List.all_eq_true.mp hpad) (by simpa using hvisible),
      List.head?_cons]
  apply starts_eq_false
  · intro c hc
    rw [hdrop]
    rintro ⟨rfl⟩
    have hstart : 'c' = first ∨ 'd' = first := by
      rcases hmark with rfl | rfl
      · exact .inl (by simpa [caseMark] using hc)
      · exact .inr (by simpa [defaultMark] using hc)
    rcases hstart with rfl | rfl <;> exact absurd hfirst (by decide)
  · rcases hmark with rfl | rfl <;> decide

theorem eq_offsetSum {kind : Kind} {line : String} (h : line ∈ kind.selectorLines) :
    line = Kind.selectorLines.offsetSum := by
  cases kind with
  | anyHit => simpa [Kind.selectorLines] using h
  | hit => simpa [Kind.selectorLines] using h
  | miss => simp [Kind.selectorLines] at h

theorem starts_header {mark : List Char} (hmark : mark = caseMark ∨ mark = defaultMark)
    (dispatch : Dispatch) {line : String} (hline : line ∈ dispatch.header) :
    starts mark line.toList = false := by
  have hvoid : "void ".toList = [] ++ 'v' :: ['o', 'i', 'd', ' '] := String.toList_ofList
  have hopen : "\x7b".toList = [] ++ '\x7b' :: [] := String.toList_ofList
  have hsum : Kind.selectorLines.offsetSum.toList = [' ', ' ', ' ', ' '] ++
      'i' :: "nt index = hitData->instanceSBTOffset + sbtRecordOffset;".toList :=
    String.toList_ofList.trans (by rw [String.toList_ofList]; rfl)
  have hswitch : "    switch (".toList = [' ', ' ', ' ', ' '] ++
      's' :: ['w', 'i', 't', 'c', 'h', ' ', '('] := String.toList_ofList
  have hinner : "    \x7b".toList = [' ', ' ', ' ', ' '] ++ '\x7b' :: [] := String.toList_ofList
  simp only [header, List.mem_append, List.mem_cons, List.not_mem_nil, or_false] at hline
  rcases hline with ((rfl | rfl) | hselector) | rfl | rfl
  · simp only [String.toList_append, hvoid, List.append_assoc, List.cons_append]
    exact starts_frame hmark (by decide) (by decide)
  · rw [hopen]
    exact starts_frame hmark (by decide) (by decide)
  · rw [eq_offsetSum hselector, hsum]
    exact starts_frame hmark (by decide) (by decide)
  · simp only [String.toList_append, hswitch, List.append_assoc, List.cons_append]
    exact starts_frame hmark (by decide) (by decide)
  · rw [hinner]
    exact starts_frame hmark (by decide) (by decide)

theorem trimmed_defaultLine (kind : Kind) : ∃ rest,
    trimmed (defaultLine kind).toList = defaultMark ++ rest := by
  have hpad : "        default: printf(\"Error: No ".toList = List.replicate 8 ' ' ++
      (defaultMark ++ " printf(\"Error: No ".toList) :=
    String.toList_ofList.trans (by rw [String.toList_ofList]; rfl)
  have hend : " shader found.\");".toList = " shader found.\")".toList ++ [';'] :=
    String.toList_ofList.trans (by rw [String.toList_ofList]; rfl)
  refine ⟨" printf(\"Error: No ".toList ++ (kind.name.toList ++
    (" shader found.\")".toList ++ [';'])), ?_⟩
  unfold defaultLine
  simp only [String.toList_append, hpad, hend, List.append_assoc]
  refine trimmed_append ?_ ?_ ?_
  · intro c hc
    rw [List.eq_of_mem_replicate hc]
    decide
  · simp only [defaultMark, List.cons_append, List.head?_cons, Option.mem_some_iff, forall_eq']
    decide
  · simp only [← List.append_assoc, List.getLast?_concat, Option.mem_some_iff, forall_eq']
    decide

theorem starts_default_defaultLine (kind : Kind) :
    starts defaultMark (defaultLine kind).toList = true := by
  obtain ⟨rest, hrest⟩ := trimmed_defaultLine kind
  rw [starts, hrest]
  exact decide_eq_true (List.prefix_append ..)

theorem starts_case_defaultLine (kind : Kind) :
    starts caseMark (defaultLine kind).toList = false := by
  obtain ⟨rest, hrest⟩ := trimmed_defaultLine kind
  rw [starts, hrest]
  apply decide_eq_false
  rintro ⟨more, hmore⟩
  have : some 'c' = some 'd' := congrArg List.head? hmore
  simp at this

theorem starts_closing {mark : List Char} (hmark : mark = caseMark ∨ mark = defaultMark)
    {line : String} (hline : line ∈ ["    \x7d", "\x7d"]) : starts mark line.toList = false := by
  have hinner : "    \x7d".toList = [' ', ' ', ' ', ' '] ++ '\x7d' :: [] := String.toList_ofList
  have houter : "\x7d".toList = [] ++ '\x7d' :: [] := String.toList_ofList
  simp only [List.mem_cons, List.not_mem_nil, or_false] at hline
  rcases hline with rfl | rfl
  · rw [hinner]
    exact starts_frame hmark (by decide) (by decide)
  · rw [houter]
    exact starts_frame hmark (by decide) (by decide)

theorem mem_footer {dispatch : Dispatch} {line : String} (hline : line ∈ dispatch.footer) :
    line = defaultLine dispatch.spec.kind ∨ line ∈ ["    \x7d", "\x7d"] := by
  rcases List.mem_append.mp hline with hdefault | hclosing
  · cases hd : dispatch.spec.defaultBranch with
    | false => simp [hd] at hdefault
    | true => exact .inl (by simpa [hd] using hdefault)
  · exact .inr hclosing

theorem starts_case_footer {dispatch : Dispatch} {line : String} (hline : line ∈ dispatch.footer) :
    starts caseMark line.toList = false := by
  rcases mem_footer hline with rfl | hclosing
  · exact starts_case_defaultLine _
  · exact starts_closing (.inl rfl) hclosing

/-- The one line that may start with the other mark is the one for unbound indices. -/
theorem countP_default_footer (dispatch : Dispatch) :
    (dispatch.footer.map String.toList).countP (starts defaultMark) =
      if dispatch.spec.defaultBranch then 1 else 0 := by
  have hclosing : ((["    \x7d", "\x7d"] : List String).map String.toList).countP
      (starts defaultMark) = 0 := by
    apply List.countP_eq_zero.mpr
    intro chars hchars
    obtain ⟨line, hline, rfl⟩ := List.mem_map.mp hchars
    rw [starts_closing (.inr rfl) hline]
    exact Bool.false_ne_true
  rw [footer, List.map_append, List.countP_append, hclosing]
  cases hd : dispatch.spec.defaultBranch <;> simp [starts_default_defaultLine]

theorem unbroken_ofList {chars : List Char} (h : '\n' ∉ chars) :
    '\n' ∉ (String.ofList chars).toList := by
  rwa [String.toList_ofList]

theorem unbroken_concat {first second : String} (hfirst : '\n' ∉ first.toList)
    (hsecond : '\n' ∉ second.toList) : '\n' ∉ (first ++ second).toList := by
  rw [String.toList_append, List.mem_append, not_or]
  exact ⟨hfirst, hsecond⟩

theorem unbroken_between {front back : List Char} {name : String} (hfront : '\n' ∉ front)
    (hname : '\n' ∉ name.toList) (hback : '\n' ∉ back) :
    '\n' ∉ (String.ofList front ++ name ++ String.ofList back).toList :=
  unbroken_concat (unbroken_concat (unbroken_ofList hfront) hname) (unbroken_ofList hback)

theorem unbroken_append {list : String} {macroName : Option String} (hlist : '\n' ∉ list.toList)
    (hnames : ∀ name ∈ macroName, '\n' ∉ name.toList) :
    '\n' ∉ (TextureMacros.append list macroName).toList := by
  cases macroName with
  | none => exact hlist
  | some name =>
    have hname := hnames name rfl
    by_cases hempty : name = ""
    · simpa [TextureMacros.append, hempty] using hlist
    · have happend : TextureMacros.append list (some name) = list ++ " " ++ name := by
        simp [TextureMacros.append, hempty]
      rw [happend]
      exact unbroken_concat (unbroken_concat hlist (unbroken_ofList (by decide))) hname

theorem unbroken_parameters {spec : Spec}
    (h : ∀ macros ∈ spec.texture, '\n' ∉ macros.parameters.toList) :
    '\n' ∉ spec.parameters.toList := by
  have hkind : '\n' ∉ spec.kind.parameters.toList := by
    cases spec.kind with
    | anyHit => exact unbroken_concat (unbroken_ofList (by decide)) (unbroken_ofList (by decide))
    | hit => exact unbroken_concat (unbroken_ofList (by decide)) (unbroken_ofList (by decide))
    | miss => exact unbroken_ofList (by decide)
  refine unbroken_append hkind ?_
  intro name hname
  obtain ⟨macros, hmacros, rfl⟩ := Option.map_eq_some_iff.mp hname
  exact h macros hmacros

theorem unbroken_arguments {spec : Spec}
    (h : ∀ macros ∈ spec.texture, '\n' ∉ macros.arguments.toList) :
    '\n' ∉ spec.arguments.toList := by
  have hkind : '\n' ∉ spec.kind.arguments.toList := by
    cases spec.kind <;> exact unbroken_ofList (by decide)
  refine unbroken_append hkind ?_
  intro name hname
  obtain ⟨macros, hmacros, rfl⟩ := Option.map_eq_some_iff.mp hname
  exact h macros hmacros

theorem unbroken_header {dispatch : Dispatch} (h : '\n' ∉ dispatch.spec.parameters.toList)
    {line : String} (hline : line ∈ dispatch.header) : '\n' ∉ line.toList := by
  simp only [header, List.mem_append, List.mem_cons, List.not_mem_nil, or_false] at hline
  rcases hline with ((rfl | rfl) | hselector) | rfl | rfl
  · have hname : '\n' ∉ dispatch.spec.kind.functionName.toList := by
      cases dispatch.spec.kind <;> exact unbroken_ofList (by decide)
    refine unbroken_concat (unbroken_concat ?_ h) (unbroken_ofList (by decide))
    exact unbroken_between (by decide) hname (by decide)
  · exact unbroken_ofList (by decide)
  · rw [eq_offsetSum hselector]
    exact unbroken_ofList (by decide)
  · have hselector : '\n' ∉ dispatch.spec.kind.selector.toList := by
      cases dispatch.spec.kind <;> exact unbroken_ofList (by decide)
    exact unbroken_between (by decide) hselector (by decide)
  · exact unbroken_ofList (by decide)

theorem unbroken_footer {dispatch : Dispatch} {line : String} (hline : line ∈ dispatch.footer) :
    '\n' ∉ line.toList := by
  rcases mem_footer hline with rfl | hclosing
  · have hname : '\n' ∉ dispatch.spec.kind.name.toList := by
      cases dispatch.spec.kind <;> exact unbroken_ofList (by decide)
    exact unbroken_between (by decide) hname (by decide)
  · simp only [List.mem_cons, List.not_mem_nil, or_false] at hclosing
    rcases hclosing with rfl | rfl <;> exact unbroken_ofList (by decide)

theorem toList_render (dispatch : Dispatch) : dispatch.render.toList = lineChars dispatch.lines :=
  toList_join_lines dispatch.lines

/-- Nothing inserted into the source text breaks a line. -/
structure Unbroken (dispatch : Dispatch) : Prop where
  parameters : '\n' ∉ dispatch.spec.parameters.toList
  arguments : '\n' ∉ dispatch.spec.arguments.toList
  symbols : ∀ branch ∈ dispatch.branches, '\n' ∉ branch.symbol.toList

theorem Unbroken.lines {dispatch : Dispatch} (h : dispatch.Unbroken) :
    ∀ line ∈ dispatch.lines, '\n' ∉ line.toList := by
  intro line hline
  rw [lines_eq, List.mem_append, List.mem_append] at hline
  rcases hline with (hline | hline) | hline
  · exact unbroken_header h.parameters hline
  · obtain ⟨branch, hbranch, rfl⟩ := List.mem_map.mp hline
    exact Branch.unbroken_line h.arguments (h.symbols branch hbranch)
  · exact unbroken_footer hline

theorem Spec.unbroken_dispatch {spec : Spec} {table : Table}
    (hmacros : ∀ macros ∈ spec.texture,
      '\n' ∉ macros.parameters.toList ∧ '\n' ∉ macros.arguments.toList)
    (hsymbols : ∀ binding ∈ table.bindings spec.stage, '\n' ∉ binding.2.toList) :
    (spec.dispatch table).Unbroken where
  parameters := unbroken_parameters fun macros hmem => (hmacros macros hmem).1
  arguments := unbroken_arguments fun macros hmem => (hmacros macros hmem).2
  symbols := by
    intro branch hbranch
    obtain ⟨binding, hbinding, rfl⟩ := List.mem_map.mp hbranch
    exact hsymbols binding hbinding

/-- Nothing inserted into the source text breaks a line or hides the end of a symbol. -/
structure Readable (dispatch : Dispatch) : Prop where
  parameters : '\n' ∉ dispatch.spec.parameters.toList
  arguments : '\n' ∉ dispatch.spec.arguments.toList
  callees : ∀ branch ∈ dispatch.branches, IsCallee branch.symbol

theorem Readable.unbroken {dispatch : Dispatch} (h : dispatch.Readable) : dispatch.Unbroken :=
  ⟨h.parameters, h.arguments, fun branch hbranch => (h.callees branch hbranch).unbroken⟩

/-- The lines of the source text are the lines that were written, and an empty piece after the
last line break. -/
theorem textLines_render {dispatch : Dispatch} (h : dispatch.Readable) :
    textLines dispatch.render = dispatch.header.map String.toList ++
      dispatch.branches.map (fun branch => (branch.line dispatch.spec.arguments).toList) ++
      (dispatch.footer.map String.toList ++ [[]]) := by
  rw [render, textLines_join h.unbroken.lines, lines_eq]
  simp [Function.comp_def]

theorem starts_nil {mark : List Char} (hmark : mark = caseMark ∨ mark = defaultMark) :
    starts mark [] = false := by
  rcases hmark with rfl | rfl <;> decide

end Dispatch

end ShaderBinding
