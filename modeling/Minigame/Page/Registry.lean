import Minigame.Page.Sandbox
import Minigame.Page.Survival

/-! The renderers of pages, found by the template a design names. -/

namespace Minigame.Page

/-- Something that turns a design into a page. -/
structure Renderer where
  id : String
  render : Json → String

/-- The renderer of sandbox pages. -/
def sandboxRenderer : Renderer := ⟨"sandbox", sandboxPage⟩

/-- The renderer of survival pages. -/
def survivalRenderer : Renderer := ⟨"bubble_clicker", survivalPage⟩

/-- The known renderers, and the one for everything else. -/
structure Registry where
  renderers : List (String × Renderer)
  fallback : Renderer

namespace Registry

/-- The registry that knows the sandbox only. -/
def initial : Registry := ⟨[(sandboxRenderer.id, sandboxRenderer)], sandboxRenderer⟩

/-- Adds a renderer, in place of one with the same name. -/
def register (registry : Registry) (renderer : Renderer) : Registry :=
  { registry with renderers := Fields.set renderer.id renderer registry.renderers }

/-- The registry with all renderers of this library. -/
def standard : Registry := initial.register survivalRenderer

/-- Whether a name has a renderer. -/
def contains (registry : Registry) (id : String) : Bool :=
  Fields.contains id registry.renderers

/-- The names with a renderer, in ascending order. -/
def names (registry : Registry) : List String :=
  Fields.names registry.renderers

/-- The renderer for a template. -/
def resolve (registry : Registry) (template : Template) : Renderer :=
  (Fields.get? template.name registry.renderers).getD registry.fallback

/-- The renderer for a design. -/
def select (registry : Registry) (doc : Json) : Renderer :=
  registry.resolve (Design.template doc)

/-- The page of a design. -/
def compile (registry : Registry) (doc : Json) : String :=
  (registry.select doc).render doc

end Registry

end Minigame.Page
