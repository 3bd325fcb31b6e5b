import ShaderBinding.Proofs.Dispatch.ReadBack

/-! Functions with the same source text. The lines of a text are read one after the other: the first
one tells the kind and the parameters, each line of a case its branch and the arguments, and what
follows the cases whether unbound indices are reported. -/

namespace ShaderBinding

namespace Dispatch

open SourceText

theorem Kind.functionName_injective {first second : Kind}
    (h : first.functionName = second.functionName) : first = second := by
  revert h
  cases first <;> cases second <;> decide

/-- The name of a function ends at the first parenthesis. -/
theorem eq_of_signature_eq {kind kind' : Kind} {parameters parameters' : String}
    (h : "void " ++ kind.functionName ++ "(" ++ parameters ++ ")" =
      "void " ++ kind'.functionName ++ "(" ++ parameters' ++ ")") :
    kind = kind' ∧ parameters = parameters' := by
  have hopen : "(".toList = ['('] := String.toList_ofList
  have hname : ∀ kind : Kind, '(' ∉ kind.functionName.toList := by
    intro kind
    cases kind <;> decide
  have hchars := congrArg String.toList h
  simp only [String.toList_append, hopen, List.append_assoc, List.singleton_append] at hchars
  obtain ⟨hkind, hparameters⟩ := eq_of_append_mark_eq (hname kind) (hname kind')
    (List.append_cancel_left hchars)
  exact ⟨Kind.functionName_injective (String.toList_injective hkind),
    String.toList_injective (List.append_cancel_right hparameters)⟩

/-- A label ends at its colon, a symbol at the first parenthesis behind it. -/
theorem Branch.eq_of_line_eq {arguments arguments' : String} {first second : Branch}
    (hfirst : '(' ∉ first.symbol.toList) (hsecond : '(' ∉ second.symbol.toList)
    (h : first.line arguments = second.line arguments') :
    first = second ∧ arguments = arguments' := by
  have hlabel : ∀ index, ':' ∉ Nat.toDigits 10 index := notMem_toDigits (by decide)
  have hchars := congrArg String.toList h
  rw [Branch.toList_line, Branch.toList_line] at hchars
  obtain ⟨hindex, hcall⟩ := eq_of_append_mark_eq (hlabel _) (hlabel _)
    (List.append_cancel_left (List.append_cancel_left hchars))
  obtain ⟨hsymbol, harguments⟩ := eq_of_append_mark_eq hfirst hsecond (List.cons.inj hcall).2
  refine ⟨?_, String.toList_injective (List.append_cancel_right harguments)⟩
  have hread := toDigits_injective hindex
  cases first
  cases second
  simp_all [String.toList_inj]

/-- Where the cases end, the first line shows that it is none. -/
theorem eq_of_cases_eq {arguments arguments' : String} {branches branches' : List Branch}
    {rest rest' : List String} (hrest : ∀ line ∈ rest, starts caseMark line.toList = false)
    (hrest' : ∀ line ∈ rest', starts caseMark line.toList = false)
    (hsymbols : ∀ branch ∈ branches, '(' ∉ branch.symbol.toList)
    (hsymbols' : ∀ branch ∈ branches', '(' ∉ branch.symbol.toList)
    (h : branches.map (Branch.line arguments) ++ rest =
      branches'.map (Branch.line arguments') ++ rest') :
    branches = branches' ∧ (branches ≠ [] → arguments = arguments') ∧ rest = rest' := by
  have hcase : ∀ {arguments : String} {branch : Branch} {lines rest : List String},
      (∀ line ∈ rest, starts caseMark line.toList = false) →
        branch.line arguments :: lines ≠ rest := by
    rintro arguments branch lines _ hrest rfl
    have hline := hrest (branch.line arguments) List.mem_cons_self
    rw [Branch.starts_case] at hline
    exact absurd hline (by decide)
  induction branches generalizing branches' with
  | nil =>
    cases branches' with
    | nil => exact ⟨rfl, fun hne => absurd rfl hne, h⟩
    | cons branch' branches' => exact absurd h.symm (hcase hrest)
  | cons branch branches ih =>
    cases branches' with
    | nil => exact absurd h (hcase hrest')
    | cons branch' branches' =>
      obtain ⟨hline, hlines⟩ := List.cons.inj h
      obtain ⟨rfl, rfl⟩ := Branch.eq_of_line_eq (hsymbols branch List.mem_cons_self)
        (hsymbols' branch' List.mem_cons_self) hline
      obtain ⟨rfl, _, hrests⟩ := ih (fun other hother => hsymbols other (List.mem_cons_of_mem _ hother))
        (fun other hother => hsymbols' other (List.mem_cons_of_mem _ hother)) hlines
      exact ⟨rfl, fun _ => rfl, hrests⟩

theorem defaultBranch_eq_of_footer_eq {f g : Dispatch} (h : f.footer = g.footer) :
    f.spec.defaultBranch = g.spec.defaultBranch := by
  have hlength := congrArg List.length h
  cases hf : f.spec.defaultBranch <;> cases hg : g.spec.defaultBranch <;>
    simp [footer, hf, hg] at hlength ⊢

section

variable {f g : Dispatch}

theorem header_eq (hkind : f.spec.kind = g.spec.kind)
    (hparameters : f.spec.parameters = g.spec.parameters) : f.header = g.header := by
  rw [header, header, hkind, hparameters]

theorem footer_eq (hkind : f.spec.kind = g.spec.kind)
    (hdefault : f.spec.defaultBranch = g.spec.defaultBranch) : f.footer = g.footer := by
  rw [footer, footer, hkind, hdefault]

theorem lines_eq_of_render_eq (hf : f.Unbroken) (hg : g.Unbroken) (h : f.render = g.render) :
    f.lines = g.lines := by
  have hlines := congrArg textLines h
  rw [render, render, textLines_join hf.lines, textLines_join hg.lines] at hlines
  exact (List.map_inj_right fun _ _ => String.toList_injective).mp (List.append_cancel_right hlines)

/-- Functions show in their text whatever they differ in, but for the arguments of no call. -/
theorem render_eq_iff (hf : f.Unbroken) (hg : g.Unbroken)
    (hsymbols : ∀ branch ∈ f.branches, '(' ∉ branch.symbol.toList)
    (hsymbols' : ∀ branch ∈ g.branches, '(' ∉ branch.symbol.toList) :
    f.render = g.render ↔ f.spec.kind = g.spec.kind ∧ f.spec.parameters = g.spec.parameters ∧
      f.spec.defaultBranch = g.spec.defaultBranch ∧ f.branches = g.branches ∧
      (f.branches ≠ [] → f.spec.arguments = g.spec.arguments) := by
  constructor
  · intro h
    have hlines := lines_eq_of_render_eq hf hg h
    rw [lines_eq, lines_eq, List.append_assoc, List.append_assoc] at hlines
    obtain ⟨hkind, hparameters⟩ := eq_of_signature_eq (List.cons.inj hlines).1
    rw [header_eq hkind hparameters] at hlines
    obtain ⟨hbranches, harguments, hfooter⟩ := eq_of_cases_eq (fun line => starts_case_footer)
      (fun line => starts_case_footer) hsymbols hsymbols' (List.append_cancel_left hlines)
    exact ⟨hkind, hparameters, defaultBranch_eq_of_footer_eq hfooter, hbranches, harguments⟩
  · rintro ⟨hkind, hparameters, hdefault, hbranches, harguments⟩
    have hcases : f.branches.map (Branch.line f.spec.arguments) =
        g.branches.map (Branch.line g.spec.arguments) := by
      by_cases hnone : f.branches = []
      · simp [← hbranches, hnone]
      · rw [← hbranches, harguments hnone]
    rw [render, render, lines_eq, lines_eq, header_eq hkind hparameters, hcases,
      footer_eq hkind hdefault]

end

/-- Macros that are empty leave the text of a function without macros. -/
theorem render_emptyMacros (kind : Kind) (defaultBranch : Bool) (table : Table) :
    ((⟨kind, none, defaultBranch⟩ : Spec).dispatch table).render =
      ((⟨kind, some ⟨"", ""⟩, defaultBranch⟩ : Spec).dispatch table).render := rfl

/-- Two functions have the same text exactly if they are of one kind, with the same parameters and
the same branches, both or none of them reports unbound indices, and their calls have the same
arguments, which nobody sees where nothing is called. So a text tells the branches; and a convention
without macros cannot be told from one with two empty macros. -/
theorem build_render_eq_iff {spec spec' : Spec} {table table' : Table} (admits admits' : Entry → Bool)
    (hmacros : ∀ macros ∈ spec.texture,
      '\n' ∉ macros.parameters.toList ∧ '\n' ∉ macros.arguments.toList)
    (hmacros' : ∀ macros ∈ spec'.texture,
      '\n' ∉ macros.parameters.toList ∧ '\n' ∉ macros.arguments.toList)
    (hsymbols : ∀ binding ∈ table.bindings spec.stage,
      '\n' ∉ binding.2.toList ∧ '(' ∉ binding.2.toList)
    (hsymbols' : ∀ binding ∈ table'.bindings spec'.stage,
      '\n' ∉ binding.2.toList ∧ '(' ∉ binding.2.toList) :
    let f := (spec.build table admits).1
    let g := (spec'.build table' admits').1
    (f.render = g.render ↔ spec.kind = spec'.kind ∧ spec.parameters = spec'.parameters ∧
      spec.defaultBranch = spec'.defaultBranch ∧ f.branches = g.branches ∧
      (f.branches ≠ [] → spec.arguments = spec'.arguments)) ∧
    (f.branches ≠ g.branches → f.render ≠ g.render) ∧
    ∀ kind defaultBranch any,
      ((⟨kind, none, defaultBranch⟩ : Spec).build any admits).1.render =
        ((⟨kind, some ⟨"", ""⟩, defaultBranch⟩ : Spec).build any admits').1.render := by
  have hunopened : ∀ {spec : Spec} {table : Table}, (∀ binding ∈ table.bindings spec.stage,
      '\n' ∉ binding.2.toList ∧ '(' ∉ binding.2.toList) →
        ∀ branch ∈ (spec.dispatch table).branches, '(' ∉ branch.symbol.toList := by
    intro spec table h branch hbranch
    obtain ⟨binding, hbinding, rfl⟩ := List.mem_map.mp hbranch
    exact (h binding hbinding).2
  have hiff := render_eq_iff
    (Spec.unbroken_dispatch hmacros fun binding hmem => (hsymbols binding hmem).1)
    (Spec.unbroken_dispatch hmacros' fun binding hmem => (hsymbols' binding hmem).1)
    (hunopened hsymbols) (hunopened hsymbols')
  simp only [Spec.build_fst]
  exact ⟨hiff, fun hne hrender => hne (hiff.mp hrender).2.2.2.1, render_emptyMacros⟩

/-- Two functions for one table that differ in nothing but the arguments of their calls. -/
theorem build_render_eq_iff_marked :
    let spec : Spec := ⟨.hit, some ⟨"", "case 7: x("⟩, true⟩
    let spec' : Spec := ⟨.hit, none, true⟩
    (∀ macros ∈ spec.texture,
      '\n' ∉ macros.parameters.toList ∧ '\n' ∉ macros.arguments.toList) ∧
    (∀ macros ∈ spec'.texture,
      '\n' ∉ macros.parameters.toList ∧ '\n' ∉ macros.arguments.toList) ∧
    (∀ binding ∈ markedTable.bindings .closestHit,
      '\n' ∉ binding.2.toList ∧ '(' ∉ binding.2.toList) ∧
    spec.parameters = spec'.parameters ∧
    (spec.build markedTable fun _ => true).1.branches =
      (spec'.build markedTable fun _ => true).1.branches ∧
    (spec.build markedTable fun _ => true).1.render ≠
      (spec'.build markedTable fun _ => true).1.render := by
  intro spec spec'
  have hmacros : ∀ macros ∈ spec.texture,
      '\n' ∉ macros.parameters.toList ∧ '\n' ∉ macros.arguments.toList := by decide
  have hmacros' : ∀ macros ∈ spec'.texture,
      '\n' ∉ macros.parameters.toList ∧ '\n' ∉ macros.arguments.toList := by decide
  have hsymbols : ∀ binding ∈ markedTable.bindings .closestHit,
      '\n' ∉ binding.2.toList ∧ '(' ∉ binding.2.toList := by decide
  have hbranches : (spec.build markedTable fun _ => true).1.branches ≠ [] := by decide
  have harguments : spec.arguments ≠ spec'.arguments := by decide
  obtain ⟨hiff, _⟩ := build_render_eq_iff (fun _ => true) (fun _ => true) hmacros hmacros' hsymbols
    hsymbols
  refine ⟨hmacros, hmacros', hsymbols, rfl, rfl, fun hrender => ?_⟩
  exact harguments ((hiff.mp hrender).2.2.2.2 hbranches)

end Dispatch

end ShaderBinding
