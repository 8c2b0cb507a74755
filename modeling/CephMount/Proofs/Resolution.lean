import CephMount.Path

/-! Laws of resolving texts to paths.

A walk that is written with a slash in it is two walks, one behind the other. So a text can be resolved
in two parts, where the first one leads to is given as text in between, and nothing is lost by that:
what is resolved is in normal form, and its text leads back to it from anywhere.
-/

set_option autoImplicit false

namespace CephMount.Path

/-- What follows a slash is walked from where the walk before it ends. -/
theorem walk_append (path : Path) (early late : List Char) :
    path.walk (early ++ '/' :: late) = (path.walk early).walk late := by
  rw [walk, List.splitOn_append_cons_self, List.foldl_append]
  rfl

theorem isAbsolute_text (path : Path) : isAbsolute path.text.toList = true := by
  simp [text, isAbsolute]

theorem resolve_of_isAbsolute {text : String} (absolute : isAbsolute text.toList = true)
    (workingDir : String) : resolve workingDir text = root.walk text.toList :=
  if_pos absolute

/-- Where a relative text leads from a directory whose text is given. -/
theorem resolve_text_of_relative {path : Path} (normal : path.IsNormal) {text : String}
    (relative : isAbsolute text.toList = false) : resolve path.text text = path.walk text.toList := by
  rw [resolve, relative, walk_text normal]
  rfl

/-- A path in normal form is found by its text, wherever the text is resolved. -/
theorem resolve_text {path : Path} (normal : path.IsNormal) (workingDir : String) :
    resolve workingDir path.text = path :=
  (resolve_of_isAbsolute path.isAbsolute_text workingDir).trans (walk_text normal)

/-- A text with more behind a slash leads where the rest leads from where the text leads. -/
theorem resolve_append {text : String} (present : text ≠ "") (workingDir rest : String) :
    resolve workingDir (text ++ "/" ++ rest) = (resolve workingDir text).walk rest.toList := by
  have written : (text ++ "/" ++ rest).toList = text.toList ++ '/' :: rest.toList := by simp
  -- Whether a text is absolute is told by its first character, which stays.
  have same : isAbsolute (text ++ "/" ++ rest).toList = isAbsolute text.toList := by
    rw [written]
    cases characters : text.toList with
    | nil => exact absurd (String.toList_eq_nil_iff.mp characters) present
    | cons first others => rfl
  unfold resolve
  rw [same, written, walk_append, walk_append]
  split <;> rfl

/-- Resolving in two steps, with the path between them given as text, is resolving once. -/
theorem resolve_resolve {text rest : String} (present : text ≠ "")
    (relative : isAbsolute rest.toList = false) (workingDir : String) :
    resolve (resolve workingDir text).text rest = resolve workingDir (text ++ "/" ++ rest) := by
  rw [resolve_text_of_relative (resolve_isNormal workingDir text) relative,
    resolve_append present workingDir rest]

end CephMount.Path
