import MarkdownSections.Schema.Record
import MarkdownSections.Section.Basic

/-!
# Reading sections

A section record needs an id, a path and a level; every other field has a default. All issues of a
record are reported together.
-/

set_option autoImplicit false

namespace MarkdownSections.Section

/-- Reads one record. -/
def ofRecord (entries : List (String × Json)) : Except (List Issue) Section :=
  let id := Checked.required entries "id" fun v => v.toLoose.toText
  let path := Checked.required entries "path" fun v => v.toLoose.toText
  let level := Checked.required entries "level" fun v => v.toLoose.toInt
  let title := Checked.optional entries "title" "" fun v => v.toLoose.toText
  let content := Checked.optional entries "content" "" fun v => v.toLoose.toText
  let parentId := Checked.optional entries "parent_id" "" fun v => v.toLoose.toText
  let startLine := Checked.optional entries "start_line" none fun v => v.toLoose.toOptionalInt
  let endLine := Checked.optional entries "end_line" none fun v => v.toLoose.toOptionalInt
  match id, path, level, title, content, parentId, startLine, endLine with
  | .ok id, .ok path, .ok level, .ok title, .ok content, .ok parentId, .ok startLine, .ok endLine =>
    .ok { id, path, level, title, content, parentId, startLine, endLine }
  | _, _, _, _, _, _, _, _ =>
    .error (id.issues "id" ++ path.issues "path" ++ level.issues "level"
      ++ title.issues "title" ++ content.issues "content" ++ parentId.issues "parent_id"
      ++ startLine.issues "start_line" ++ endLine.issues "end_line")

/-- Reads one value as a section. -/
def ofJson (v : Json) : Except (List Issue) Section :=
  match v with
  | .map entries => ofRecord entries
  | _ => .error [⟨[], .notARecord⟩]

end MarkdownSections.Section
