import Minigame.Page.Registry
import Minigame.Proofs.Json.Order

/-! No page is empty: each renderer writes lines that never change. -/

namespace Minigame.Page

/-- A page with a line is not empty. -/
theorem render_append_lines_ne_empty (pieces : List Piece) (text : String) (texts : List String) :
    render (pieces ++ lines (text :: texts)) ≠ "" := by
  -- Even an empty line ends with a line feed.
  intro empty
  have nothing : (pieces ++ lines (text :: texts)).flatMap Piece.chars = [] := by
    rw [← String.toList_ofList (l := (pieces ++ lines (text :: texts)).flatMap Piece.chars)]
    exact congrArg String.toList empty
  -- The line feed alone is a character of the page.
  have feed := List.flatMap_eq_nil_iff.1 nothing (.fixed "\n") (by simp [lines, line])
  cases feed

theorem sandboxPage_ne_empty (doc : Json) : sandboxPage doc ≠ "" :=
  render_append_lines_ne_empty _ _ _

theorem survivalPage_ne_empty (doc : Json) : survivalPage doc ≠ "" :=
  render_append_lines_ne_empty _ _ _

namespace Registry

/-- The renderer for a template is a known one or the one for everything else. -/
theorem resolve_mem (registry : Registry) (template : Template) :
    registry.resolve template = registry.fallback ∨
      (template.name, registry.resolve template) ∈ registry.renderers := by
  unfold resolve
  -- A template that is not registered goes to the renderer for everything else.
  cases found : Fields.get? template.name registry.renderers with
  | none => exact .inl rfl
  | some renderer => exact .inr (Fields.mem_of_get? found)

/-- Every design is a sandbox or a survival game. -/
theorem standard_select (doc : Json) :
    standard.select doc = sandboxRenderer ∨ standard.select doc = survivalRenderer := by
  rw [select]
  rcases standard.resolve_mem (Design.template doc) with other | known
  · exact .inl other
  · -- Two renderers are registered, one under the name of each template.
    rcases Fields.mem_set known with survival | sandbox
    · exact .inr (Prod.mk.inj survival).2
    · exact .inl (Prod.mk.inj (List.mem_singleton.1 sandbox)).2

/-- The renderers of this library make no empty page. -/
theorem standard_compile_ne_empty (doc : Json) : standard.compile doc ≠ "" := by
  rw [compile]
  rcases standard_select doc with sandbox | survival
  · rw [sandbox]
    exact sandboxPage_ne_empty doc
  · rw [survival]
    exact survivalPage_ne_empty doc

end Registry

end Minigame.Page
