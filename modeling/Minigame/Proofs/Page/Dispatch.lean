import Minigame.Page.Registry

/-!
The renderer that a design gets, whatever was registered.

A design that names no template asks for the sandbox by its name, while a name that is not
registered is left to the fallback. So the two get one renderer exactly as long as the sandbox was
not replaced.
-/

namespace Minigame

open Minigame.Text

namespace Design

/-- The document names no template: the name is missing, blank or no text. -/
def Unnamed (doc : Json) : Prop :=
  ∀ name, doc.pointer? "/meta/template" = some (.str name) → isBlankText name = true

/-- The document names a template. -/
def Names (doc : Json) (name : String) : Prop :=
  doc.pointer? "/meta/template" = some (.str name) ∧ isBlankText name = false

variable {doc : Json} {name : String}

instance : Decidable (Names doc name) :=
  inferInstanceAs (Decidable (_ ∧ _))

/-- A document without a name asks for the sandbox. -/
theorem Unnamed.template_eq (unnamed : Unnamed doc) : template doc = .sandbox := by
  have none : doc.textAt? "/meta/template" = none := by
    rw [Json.textAt?, Option.filter_eq_none_iff]
    intro text read
    obtain ⟨value, there, same⟩ := Option.bind_eq_some_iff.1 read
    -- Only a string is read as text, and a blank one is filtered out.
    cases value <;> cases same
    simpa using unnamed text there
  rw [template, none]
  rfl

/-- A document with a name asks for the template of that name. -/
theorem Names.name_template (names : Names doc name) : (template doc).name = name := by
  have read : doc.textAt? "/meta/template" = some name := by
    rw [Json.textAt?, names.1]
    simp [Json.asString?, Option.filter, names.2]
  rw [template, read, Option.map_some, Option.getD_some, Template.ofName]
  -- The two names of the library have templates of their own, with those names.
  split
  · next sandbox => exact sandbox.symm
  · split
    · next bubbleClicker => exact bubbleClicker.symm
    · rfl

end Design

namespace Page.Registry

open Design

/-- A registry with renderers added one after the other. -/
def extend (registry : Registry) (renderers : List Renderer) : Registry :=
  renderers.foldl register registry

/-- The last of some renderers with a name. -/
def lastNamed (name : String) (renderers : List Renderer) : Option Renderer :=
  (renderers.filter (·.id = name)).getLast?

theorem lastNamed_cons (name : String) (renderer : Renderer) (renderers : List Renderer) :
    lastNamed name (renderer :: renderers)
      = (lastNamed name renderers).or (if renderer.id = name then some renderer else none) := by
  unfold lastNamed
  by_cases same : renderer.id = name
  · rw [List.filter_cons_of_pos (by simpa using same), List.getLast?_cons, if_pos same]
    -- A later renderer with the name goes before this one.
    cases (renderers.filter (·.id = name)).getLast? <;> rfl
  · rw [List.filter_cons_of_neg (by simpa using same), if_neg same, Option.or_none]

/-- No registration changes the fallback. -/
theorem fallback_extend (registry : Registry) (renderers : List Renderer) :
    (registry.extend renderers).fallback = registry.fallback := by
  induction renderers generalizing registry with
  | nil => rfl
  | cons renderer renderers ih => exact ih (registry.register renderer)

/-- A name has the renderer that was added last under it, or the one that it had. -/
theorem get?_extend (registry : Registry) (renderers : List Renderer) (name : String) :
    Fields.get? name (registry.extend renderers).renderers
      = (lastNamed name renderers).or (Fields.get? name registry.renderers) := by
  -- By induction on the registrations: the first one counts where no later one has its name.
  induction renderers generalizing registry with
  | nil => rfl
  | cons renderer renderers ih =>
    have first : Fields.get? name (registry.register renderer).renderers
        = (if renderer.id = name then some renderer else none).or
          (Fields.get? name registry.renderers) := by
      -- What is added under the name takes its place; what is added under another one leaves it.
      by_cases same : renderer.id = name
      · subst same
        rw [if_pos rfl, register, Fields.get?_set_self, Option.some_or]
      · rw [if_neg same, register, Fields.get?_set_ne (Ne.symm same), Option.none_or]
    rw [lastNamed_cons, Option.or_assoc, ← first]
    exact ih (registry.register renderer)

/-- In a new registry the sandbox was added first. -/
theorem get?_initial_extend (renderers : List Renderer) (name : String) :
    Fields.get? name (initial.extend renderers).renderers
      = lastNamed name (sandboxRenderer :: renderers) := by
  rw [get?_extend, lastNamed_cons]
  congr 1
  -- A new registry has the sandbox alone.
  by_cases same : sandboxRenderer.id = name
  · simp [initial, Fields.get?, same]
  · simp [initial, Fields.get?, same, Ne.symm same]

/-- A design gets the renderer that was added last under the name it asks for, or the sandbox. -/
theorem select_initial_extend (renderers : List Renderer) (doc : Json) :
    (initial.extend renderers).select doc
      = (lastNamed (template doc).name (sandboxRenderer :: renderers)).getD sandboxRenderer := by
  rw [select, resolve, get?_initial_extend, fallback_extend]
  rfl

theorem contains_initial_extend (renderers : List Renderer) (name : String) :
    (initial.extend renderers).contains name
      = (lastNamed name (sandboxRenderer :: renderers)).isSome := by
  rw [contains, Fields.contains, get?_initial_extend]

/-- There is always a renderer under the name of the sandbox. -/
theorem lastNamed_sandbox (renderers : List Renderer) :
    ∃ renderer, lastNamed "sandbox" (sandboxRenderer :: renderers) = some renderer := by
  have named : sandboxRenderer.id = "sandbox" := rfl
  rw [lastNamed_cons, if_pos named]
  -- The last one was added later, or it is the first one of all.
  cases lastNamed "sandbox" renderers with
  | none => exact ⟨_, rfl⟩
  | some renderer => exact ⟨renderer, rfl⟩

/--
The renderer of a design after any registrations in a new registry.

A design that names a registered name gets the renderer that was added last under it. An unknown
name is left to the sandbox that the registry began with, while a design without a name gets the
renderer that was added last under the name of the sandbox: the two get one renderer exactly if that
is the one that the registry began with.
-/
theorem select_exact (renderers : List Renderer) :
    let registry := initial.extend renderers
    (∀ doc name, Names doc name → registry.contains name = true →
        lastNamed name (sandboxRenderer :: renderers) = some (registry.select doc))
      ∧ (∀ unnamed, Unnamed unnamed →
        lastNamed "sandbox" (sandboxRenderer :: renderers) = some (registry.select unnamed))
      ∧ ∀ unnamed unknown name, Unnamed unnamed → Names unknown name →
        registry.contains name = false →
        registry.select unknown = sandboxRenderer
          ∧ (registry.select unnamed = registry.select unknown ↔
            lastNamed "sandbox" (sandboxRenderer :: renderers) = some sandboxRenderer) := by
  intro registry
  have plain (unnamed : Json) (missing : Unnamed unnamed) :
      lastNamed "sandbox" (sandboxRenderer :: renderers) = some (registry.select unnamed) := by
    -- Without a name the sandbox is asked for, which has a renderer from the start.
    obtain ⟨renderer, last⟩ := lastNamed_sandbox renderers
    rw [select_initial_extend, missing.template_eq, Template.name, last, Option.getD_some]
  refine ⟨fun doc name names known => ?_, plain,
    fun unnamed unknown name missing names absent => ?_⟩
  · -- A registered name has a renderer that was added last.
    rw [contains_initial_extend] at known
    obtain ⟨renderer, last⟩ := Option.isSome_iff_exists.1 known
    rw [select_initial_extend, names.name_template, last, Option.getD_some]
  · rw [contains_initial_extend, Option.isSome_eq_false_iff, Option.isNone_iff_eq_none] at absent
    -- An unknown name is left to the fallback, which no registration changes.
    have other : registry.select unknown = sandboxRenderer := by
      rw [select_initial_extend, names.name_template, absent, Option.getD_none]
    rw [other, plain unnamed missing, Option.some_inj]
    exact ⟨rfl, Iff.rfl⟩

/-- After two replacements a blank name and the name of the sandbox both get the last one. -/
theorem select_exact_replaced :
    let mine : Renderer := ⟨"sandbox", fun _ => "<!DOCTYPE html><p>mine</p>"⟩
    let yours : Renderer := ⟨"sandbox", fun _ => "<!DOCTYPE html><p>yours</p>"⟩
    let registry := initial.extend [survivalRenderer, mine, yours]
    let naming (name : String) :=
      Json.ofFields [("meta", Json.ofFields [("template", .str name)])]
    Names (naming "sandbox") "sandbox" ∧ registry.contains "sandbox" = true ∧ Unnamed (naming " ")
      ∧ Names (naming "maze") "maze" ∧ registry.contains "maze" = false
      ∧ registry.select (naming "sandbox") = yours ∧ registry.select (naming " ") = yours
      ∧ registry.select (naming "maze") = sandboxRenderer := by
  intro mine yours registry naming
  have names : Names (naming "sandbox") "sandbox" := by decide
  have known : registry.contains "sandbox" = true := by decide
  have missing : Unnamed (naming " ") := by
    intro name there
    -- The name is there, and it is blank.
    have read : (naming " ").pointer? "/meta/template" = some (.str " ") := by decide
    obtain rfl : " " = name := by simpa [read] using there
    decide
  have unknown : Names (naming "maze") "maze" := by decide
  have absent : registry.contains "maze" = false := by decide
  obtain ⟨own, plain, other⟩ := select_exact [survivalRenderer, mine, yours]
  exact ⟨names, known, missing, unknown, absent, Option.some.inj (own _ _ names known).symm,
    Option.some.inj (plain _ missing).symm, (other _ _ _ missing unknown absent).1⟩

/-- With a sandbox of one's own, a missing name gets that one and an unknown name the old one. -/
theorem select_replaced_differs :
    let mine : Renderer := ⟨"sandbox", fun _ => "<!DOCTYPE html><p>mine</p>"⟩
    let registry := initial.register mine
    let unknown := Json.ofFields [("meta", Json.ofFields [("template", .str "maze")])]
    Unnamed (.obj []) ∧ Names unknown "maze" ∧ registry.contains "maze" = false
      ∧ registry.select (.obj []) = mine ∧ registry.select unknown = sandboxRenderer
      ∧ mine ≠ sandboxRenderer := by
  intro mine registry unknown
  refine ⟨fun name there => ?_, by decide, by decide +kernel, rfl, rfl, fun same => ?_⟩
  · -- An empty document names nothing.
    have missing : (Json.obj []).pointer? "/meta/template" = none := by decide
    rw [missing] at there
    cases there
  · -- Behind the document type the page of the sandbox begins with another tag.
    have pages := congrArg (fun renderer => (renderer.render (.obj [])).toList[16]?) same
    simp only [mine, sandboxRenderer, sandboxPage, render, String.toList_ofList] at pages
    exact absurd pages (by decide)

end Page.Registry

end Minigame
