import Minigame.Design.View
import Minigame.Proofs.Json.Address
import Minigame.Proofs.Json.Order

/-!
What the projection of a document tells.

It tells what is read at six pointers, except that it does not part null from nothing. So it tells
all that is read below them, and the title and the template.
-/

namespace Minigame

/-- A reader that finds nothing in null cannot part null from nothing. -/
theorem Json.bind_eq_orNull {α : Type} (read : Json → Option α) (blank : read .null = none)
    (place : Option Json) : place.bind read = read (orNull place) := by
  cases place with
  | none => exact blank.symm
  | some value => rfl

namespace Design

/-- The names of the parts that the projection keeps, with the pointers that they are read at. -/
def parts : List (String × String) :=
  [("title", "/meta/title"), ("template", "/meta/template"), ("scene", "/scene"),
   ("player", "/player"), ("goals", "/goals"), ("rules", "/rules")]

/-- The places of a document that its projection keeps. -/
def places : List (List String) :=
  [["meta", "title"], ["meta", "template"], ["scene"], ["player"], ["goals"], ["rules"]]

/-- The pointers of the parts are the texts of their places. -/
theorem parts_places : parts.map (·.2) = places.map fun place => (Path.mk place).text := by
  decide

/-- The projection lists its parts one by one. -/
theorem projection_eq_ofFields (doc : Json) :
    projection doc = Json.ofFields (parts.map fun part =>
      (part.1, Json.orNull (doc.pointer? part.2))) := rfl

/-- The projection of a document is a document. -/
theorem projection_ordered {doc : Json} (ordered : doc.Ordered) : (projection doc).Ordered := by
  rw [projection_eq_ofFields]
  refine .ofFields fun entry listed => ?_
  obtain ⟨part, -, rfl⟩ := List.mem_map.1 listed
  -- A part is null, or a pointer leads to it.
  cases found : doc.pointer? part.2 with
  | none => exact .null
  | some place => exact ordered.pointer? found

/-- Each part of a document is found in its projection. -/
theorem field?_projection {name pointer : String} (listed : (name, pointer) ∈ parts) (doc : Json) :
    (projection doc).field? name = some (Json.orNull (doc.pointer? pointer)) := by
  let entry (part : String × String) := (part.1, Json.orNull (doc.pointer? part.2))
  -- The six names differ, so none of them hides another.
  have apart : (Fields.names (parts.map entry)).Nodup := by
    rw [Fields.names, List.map_map]
    exact show (parts.map (·.1)).Nodup by decide
  rw [projection_eq_ofFields]
  exact Fields.get?_union_of_mem apart (List.mem_map.2 ⟨_, listed, rfl⟩) []

section

variable {doc other : Json}

/-- Documents have one projection if they read the same, up to null, at each of the six pointers. -/
theorem projection_eq_iff :
    projection doc = projection other ↔ ∀ name pointer, (name, pointer) ∈ parts →
      Json.orNull (doc.pointer? pointer) = Json.orNull (other.pointer? pointer) := by
  constructor
  · intro same name pointer listed
    have read := field?_projection listed doc
    rw [same, field?_projection listed] at read
    exact (Option.some.inj read).symm
  · intro same
    rw [projection_eq_ofFields, projection_eq_ofFields]
    exact congrArg Json.ofFields (List.map_congr_left fun part listed =>
      congrArg (Prod.mk part.1) (same part.1 part.2 listed))

/-- Documents have one projection if they read the same at each of the six places. -/
theorem projection_congr (same : ∀ place ∈ places, doc.at? place = other.at? place) :
    projection doc = projection other := by
  -- It is enough that the pointers of the projection read the same.
  refine projection_eq_iff.2 fun name pointer listed => ?_
  -- A pointer of the projection is the text of one of the places.
  have pointers : pointer ∈ parts.map (·.2) := List.mem_map.2 ⟨_, listed, rfl⟩
  rw [parts_places] at pointers
  obtain ⟨place, kept, rfl⟩ := List.mem_map.1 pointers
  rw [Json.pointer?_congr (same place kept)]

variable (same : projection doc = projection other) {name : String}
include same

/-- Below a part that the projection keeps, documents with one projection read the same. -/
theorem pointer?_below {path : Path} (listed : (name, path.text) ∈ parts) (segment : String)
    (rest : List String) :
    doc.pointer? (Path.mk (path.segments ++ segment :: rest)).text =
      other.pointer? (Path.mk (path.segments ++ segment :: rest)).text := by
  -- Nothing is below null, so what was made null in the projection is not missed.
  have read : ∀ value : Json, value.pointer? (Path.mk (path.segments ++ segment :: rest)).text =
      Json.at? (segment :: rest) (Json.orNull (value.pointer? path.text)) := by
    intro value
    rw [Json.pointer?_text, Json.pointer?_text, Json.at?_append]
    exact Json.bind_eq_orNull _ (Json.at?_null (by simp)) _
  rw [read, read, projection_eq_iff.1 same _ _ listed]

/-- Documents with one projection have the same text in a part that the projection keeps. -/
theorem textAt?_eq {pointer : String} (listed : (name, pointer) ∈ parts) :
    doc.textAt? pointer = other.textAt? pointer := by
  -- Null is no text, so a text is found in what the projection keeps.
  have read : ∀ value : Json, (value.pointer? pointer).bind Json.asString? =
      (Json.orNull (value.pointer? pointer)).asString? :=
    fun value => Json.bind_eq_orNull _ rfl _
  rw [Json.textAt?, Json.textAt?, read, read, projection_eq_iff.1 same _ _ listed]

theorem title?_eq : title? doc = title? other :=
  textAt?_eq same (show ("title", "/meta/title") ∈ parts by decide)

theorem template_eq : template doc = template other := by
  rw [template, template, textAt?_eq same (show ("template", "/meta/template") ∈ parts by decide)]

end

end Design

end Minigame
