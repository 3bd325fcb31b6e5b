import ShaderBinding.Error
import ShaderBinding.Proofs.Text.Quoted

/-! What can be told from the message of an error. Main statement: two messages are the same exactly for
errors of one kind with the same path and the same wrapped text, where the kind has them. -/

namespace ShaderBinding

namespace Error

/-- The path that a message names. -/
def path? : Error → Option String
  | notFound path => some path
  | io path _ => some path
  | table _ => none

namespace Kind

/-- The words with which every message of a kind begins. -/
def opening : Kind → String
  | notFound => "file "
  | io => "io error on "
  | stream => "io error while reading table: "
  | parse => "error decoding JSON: "
  | schema => "malformed shader binding table: "

/-- What a message says behind the opening: of any path and any wrapped text. -/
def account (kind : Kind) (path wrapped : String) : String :=
  match kind with
  | notFound => quoted path ++ " not found"
  | io => quoted path ++ (": " ++ wrapped)
  | stream | parse | schema => wrapped

def message (kind : Kind) (path wrapped : String) : String := kind.opening ++ kind.account path wrapped

theorem eq_of_opening_begins {kind kind' : Kind}
    (h : kind.opening.toList <+: kind'.opening.toList) : kind = kind' := by
  revert h
  cases kind <;> cases kind' <;> decide

/-- No opening begins another one. -/
theorem eq_of_opening_append {kind kind' : Kind} {rest rest' : String}
    (h : kind.opening ++ rest = kind'.opening ++ rest') : kind = kind' := by
  have hchars := congrArg String.toList h
  rw [String.toList_append, String.toList_append] at hchars
  rcases List.prefix_or_prefix_of_prefix ⟨_, hchars⟩ (List.prefix_append _ _) with hprefix | hprefix
  · exact eq_of_opening_begins hprefix
  · exact (eq_of_opening_begins hprefix).symm

theorem account_eq_iff (kind : Kind) (path path' wrapped wrapped' : String) :
    kind.account path wrapped = kind.account path' wrapped' ↔
      (kind = .notFound ∨ kind = .io → path = path') ∧ (kind ≠ .notFound → wrapped = wrapped') := by
  cases kind with
  | notFound =>
    constructor
    · intro h
      obtain ⟨hpath, _⟩ := quoted_append_inj h
      simp [hpath]
    · rintro ⟨hpath, _⟩
      rw [account, account, hpath (.inl rfl)]
  | io =>
    constructor
    · intro h
      obtain ⟨hpath, hrest⟩ := quoted_append_inj h
      simp [hpath, (String.append_right_inj _).mp hrest]
    · rintro ⟨hpath, hwrapped⟩
      rw [account, account, hpath (.inr rfl), hwrapped (by decide)]
  | stream | parse | schema => simp [account]

/-- For any path and any wrapped text, those included that no run comes upon. -/
theorem message_eq_iff (kind kind' : Kind) (path path' wrapped wrapped' : String) :
    kind.message path wrapped = kind'.message path' wrapped' ↔
      kind = kind' ∧ (kind = .notFound ∨ kind = .io → path = path') ∧
        (kind ≠ .notFound → wrapped = wrapped') := by
  rw [← account_eq_iff]
  constructor
  · intro h
    obtain rfl := eq_of_opening_append h
    exact ⟨rfl, (String.append_right_inj _).mp h⟩
  · rintro ⟨rfl, h⟩
    exact congrArg (kind.opening ++ ·) h

end Kind

/-- A message is put together from what `kind`, `path?` and `source?` tell of the error. -/
theorem message_eq (error : Error) :
    error.message = error.kind.message (error.path?.getD "") (error.source?.getD "") := by
  rcases error with path | ⟨path, fault⟩ | fault | ⟨cause, place⟩ | ⟨cause, place⟩
  · exact String.append_assoc
  · exact String.append_assoc.trans String.append_assoc
  · rfl
  · rfl
  · rfl

theorem isSome_path? (error : Error) :
    error.path?.isSome ↔ error.kind = .notFound ∨ error.kind = .io := by
  rcases error with _ | _ | _ | _ | _ <;> simp [path?, kind]

theorem isSome_source? (error : Error) : error.source?.isSome ↔ error.kind ≠ .notFound := by
  rcases error with _ | _ | _ | _ | _ <;> simp [source?, kind]

theorem message_inj {a b : Error} :
    a.message = b.message ↔ a.kind = b.kind ∧ a.path? = b.path? ∧ a.source? = b.source? := by
  rw [message_eq, message_eq, Kind.message_eq_iff]
  rcases a with _ | _ | _ | _ | _ <;> rcases b with _ | _ | _ | _ | _ <;> simp [kind, path?, source?]

/-- A message tells the kind of the error, its path and what it wraps, whatever stands in the path and
in the wrapped text; the path is got back from its quotes. -/
theorem message_tells :
    (∀ a b : Error,
      a.message = b.message ↔ a.kind = b.kind ∧ a.path? = b.path? ∧ a.source? = b.source?) ∧
    (∀ error : Error,
      (error.path?.isSome ↔ error.kind = .notFound ∨ error.kind = .io) ∧
      (error.source?.isSome ↔ error.kind ≠ .notFound) ∧
      error.message = error.kind.message (error.path?.getD "") (error.source?.getD "")) ∧
    (∀ (kind kind' : Kind) (path path' wrapped wrapped' : String),
      kind.message path wrapped = kind'.message path' wrapped' ↔
        kind = kind' ∧ (kind = .notFound ∨ kind = .io → path = path') ∧
          (kind ≠ .notFound → wrapped = wrapped')) ∧
    (∀ path rest : String, unquoted? (quoted path ++ rest) = some (path, rest)) :=
  ⟨fun _ _ => message_inj, fun error => ⟨isSome_path? error, isSome_source? error, message_eq error⟩,
    Kind.message_eq_iff, unquoted?_quoted⟩

end Error

end ShaderBinding
