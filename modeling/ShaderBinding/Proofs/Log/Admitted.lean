import ShaderBinding.Artifact

/-! The value of a computation that logs, and its whole log. What is admitted only picks entries out
of that log. -/

namespace ShaderBinding

namespace Logged

variable {α β : Type}

theorem id_map_logged (first : Logged α) : id <$> first = first := by
  funext admits
  change ((first admits).1, (first admits).2 ++ []) = first admits
  rw [List.append_nil]

theorem pure_bind_logged (value : α) (next : α → Logged β) : Pure.pure value >>= next = next value := by
  funext admits
  simp [Bind.bind, Pure.pure]

theorem bind_assoc_logged {γ : Type} (first : Logged α) (next : α → Logged β) (last : β → Logged γ) :
    first >>= next >>= last = first >>= fun value => next value >>= last := by
  funext admits
  simp [Bind.bind, List.append_assoc]

instance : LawfulMonad Logged :=
  LawfulMonad.mk' Logged id_map_logged pure_bind_logged bind_assoc_logged

/-- The computation has a value and makes those of some entries that are admitted. -/
def Makes (logged : Logged α) (value : α) (entries : List Entry) : Prop :=
  ∀ admits, logged admits = (value, entries.filter admits)

variable {value : α} {result : β} {entries later : List Entry}

theorem makes_pure (value : α) : Makes (Pure.pure value) value [] := fun _ => rfl

theorem makes_log (entry : Entry) : (log entry).Makes () [entry] := by
  intro admits
  by_cases h : admits entry = true <;> simp [log, h]

theorem Makes.bind {first : Logged α} {next : α → Logged β} (h : first.Makes value entries)
    (h' : (next value).Makes result later) : (first >>= next).Makes result (entries ++ later) := by
  intro admits
  change ((next (first admits).1 admits).1, (first admits).2 ++ (next (first admits).1 admits).2) = _
  rw [h, h', List.filter_append]

theorem Makes.forM {action : α → Logged Unit} {made : α → List Entry}
    (h : ∀ item, (action item).Makes () (made item)) (items : List α) :
    (items.forM action).Makes () (items.flatMap made) := by
  induction items with
  | nil => exact makes_pure ()
  | cons item items ih => exact (h item).bind ih

theorem Makes.mapM {action : α → Logged β} {made : α → List Entry} {results : α → β}
    (h : ∀ item, (action item).Makes (results item) (made item)) (items : List α) :
    (items.mapM action).Makes (items.map results) (items.flatMap made) := by
  induction items with
  | nil => exact makes_pure []
  | cons item items ih =>
    have hrest : Makes (items.mapM action >>= fun rest => Pure.pure (results item :: rest))
        (results item :: items.map results) (items.flatMap made ++ []) :=
      ih.bind (makes_pure _)
    rw [List.append_nil] at hrest
    rw [List.mapM_cons]
    exact (h item).bind hrest

end Logged

/-- What is logged about a function: each branch, and then how many there are. -/
def Dispatch.entries (dispatch : Dispatch) (size : Nat) : List Entry :=
  dispatch.branches.map (Branch.entry dispatch.spec.kind) ++ [dispatch.countEntry size]

theorem Dispatch.Spec.makes_build (spec : Spec) (table : Table) :
    (spec.build table).Makes (spec.dispatch table) ((spec.dispatch table).entries table.size) := by
  have hbranches := Logged.Makes.forM (fun branch : Branch => Logged.makes_log (branch.entry spec.kind))
    (spec.dispatch table).branches
  have hcount : Logged.Makes
      (Logged.log ((spec.dispatch table).countEntry table.size) >>= fun _ => pure (spec.dispatch table))
      (spec.dispatch table) ([(spec.dispatch table).countEntry table.size] ++ []) :=
    (Logged.makes_log _).bind (Logged.makes_pure _)
  have hentries : (spec.dispatch table).entries table.size =
      (spec.dispatch table).branches.flatMap (fun branch => [branch.entry spec.kind]) ++
        ([(spec.dispatch table).countEntry table.size] ++ []) := by
    rw [← List.map_eq_flatMap]
    rfl
  rw [hentries]
  exact hbranches.bind hcount

/-- The functions are logged one after the other. -/
theorem Artifact.makes_generate (table : Table) (variant : Variant) :
    (generate table variant).Makes (dispatches table variant)
      ((dispatches table variant).flatMap fun dispatch => dispatch.entries table.size) := by
  rw [dispatches, List.flatMap_map]
  exact .mapM (fun kind => (variant.spec kind).makes_build table) variant.kinds

end ShaderBinding
