import Minigame.Design.Basic
import Minigame.Proofs.Json.Fields

/-!
What the strict reading of a design keeps.

A design that is read and written again agrees with the document in all that it leaves open: the free
sections and the fields under other names stand as they were. The choices that can be written in more
than one way are written in one.
-/

namespace Minigame

open Minigame.Json

namespace Record

variable {α : Type} {fields : Fields Json} {name : String} {read : Json → Option α}
  (position : Nat)

/-- A field with one written form is read as what is written there. -/
theorem required_eq_some_iff {write : α → Json}
    (one : ∀ {value : Json} {x : α}, read value = some x ↔ value = write x) {x : α} :
    (named fields).required position name read = some x
      ↔ Fields.get? name fields = some (write x) := by
  rw [required, Option.bind_eq_some_iff]
  constructor
  · -- What was read is what is written.
    rintro ⟨value, there, isRead⟩
    exact there.trans (congrArg some (one.1 isRead))
  · exact fun there => ⟨write x, there, one.2 rfl⟩

/-- An optional field that is written where there is a choice is read as that choice. -/
theorem optional_of_written (write : α → Json) {choice : Option α}
    (there : Fields.get? name fields = choice.map write)
    (back : ∀ x ∈ choice, read (write x) = some x) (notNull : ∀ x, write x ≠ .null) :
    (named fields).optional position name read = some choice := by
  rw [optional, get?, there]
  cases choice with
  | none => rfl
  | some x =>
    -- Null is tried first, so a written choice must not look like it.
    change orNull read (write x) = some (some x)
    rw [orNull, back x rfl]
    · rfl
    · exact notNull x

/-- Nothing is read from an optional field that is missing. -/
theorem eq_none_of_optional {choice : Option α} (absent : Fields.get? name fields = none)
    (found : (named fields).optional position name read = some choice) : choice = none := by
  -- A missing field is no choice.
  rw [optional, get?, absent] at found
  exact (Option.some.inj found).symm

/-- What is read from an optional field was read from a value. -/
theorem exists_of_optional {x : α}
    (found : (named fields).optional position name read = some (some x)) :
    ∃ value, Fields.get? name fields = some value ∧ read value = some x := by
  unfold optional get? at found
  cases there : Fields.get? name fields with
  | none => simp [there] at found
  | some value =>
    -- A value that is null would have been read as no choice.
    cases value <;> simp_all [orNull]

end Record

/-- The template does not carry the name of another one. -/
def Template.Own (template : Template) : Prop :=
  ∀ name, template = .other name → name ∉ ["sandbox", "bubble_clicker"]

/-- A template that is read by its name carries no name of another one. -/
theorem Template.own_ofName (name : String) : (ofName name).Own := by
  intro other
  unfold ofName
  split
  · simp
  · split
    · simp
    · -- The name was compared with both and is neither.
      rintro ⟨rfl⟩
      simp [*]

/-- A template that carries no name of another one is read back from its name. -/
theorem Template.Own.ofName_name {template : Template} (own : template.Own) :
    ofName template.name = template := by
  cases template with
  | sandbox => rfl
  | bubbleClicker => rfl
  | other name =>
    -- Any other name would be read as one of the two templates before.
    have ⟨notSandbox, notBubbleClicker⟩ : name ≠ "sandbox" ∧ name ≠ "bubble_clicker" := by
      simpa using own name rfl
    rw [Template.name, ofName, if_neg notSandbox, if_neg notBubbleClicker]

theorem Skin.ofName?_name (skin : Skin) : ofName? skin.name = some skin := by
  cases skin <;> rfl

theorem Theme.ofName?_name (theme : Theme) : ofName? theme.name = some theme := by
  cases theme <;> rfl

theorem Hud.ofJson?_toJson (hud : Hud) : ofJson? hud.toJson = some hud :=
  rfl

namespace Meta

/-- The known fields of the written form. -/
def entries (about : Meta) : Fields Json :=
  [("title", Json.str about.title)]
    ++ (about.template.map fun template => ("template", Json.str template.name)).toList
    ++ (about.skin.map fun skin => ("skin", Json.str skin.name)).toList
    ++ [("theme", .str about.theme.name)]

theorem toJson_eq (about : Meta) :
    about.toJson = .obj (Fields.union (Fields.ofList about.entries) about.extra) :=
  rfl

/-- What the fields of a mapping say about a game. -/
structure ReadFrom (about : Meta) (fields : Fields Json) : Prop where
  title : Fields.get? "title" fields = some (.str about.title)
  template : (Record.named fields).optional 1 "template" (fun v => v.asString?.map Template.ofName)
    = some about.template
  skin : (Record.named fields).optional 2 "skin" (fun v => v.asTag?.bind Skin.ofName?)
    = some about.skin
  theme : (Record.named fields).required 3 "theme" (fun v => v.asTag?.bind Theme.ofName?)
    = some about.theme
  extra : about.extra = fields.filter fun field => field.1 ∉ knownNames

theorem ofJson?_eq_some_iff {value : Json} {about : Meta} :
    ofJson? value = some about ↔ ∃ fields, value = .obj fields ∧ about.ReadFrom fields := by
  constructor
  · intro read
    -- Each step of the reader gives one of the facts, in the order of the fields.
    simp only [ofJson?, Option.bind_eq_bind, Option.bind_eq_some_iff, asFields?_eq_some_iff,
      Record.required_eq_some_iff _ asString?_eq_some_iff] at read
    obtain ⟨fields, rfl, text, title, template, isTemplate, skin, isSkin, theme, isTheme, made⟩ := read
    obtain rfl := Option.some.inj made
    exact ⟨fields, rfl, title, isTemplate, isSkin, isTheme, rfl⟩
  · rintro ⟨fields, rfl, read⟩
    -- Conversely the facts answer the steps one after the other.
    have title := (Record.required_eq_some_iff 0 asString?_eq_some_iff).2 read.title
    simp only [ofJson?, asFields?, Option.bind_eq_bind, Option.bind_some, title, read.template,
      read.skin, read.theme, ← read.extra]
    rfl

theorem get?_template (about : Meta) : Fields.get? "template" about.entries
    = about.template.map fun template => .str template.name := by
  -- The names stand one behind the other, and the choices decide which of them are there.
  obtain ⟨title, template, skin, theme, extra⟩ := about
  cases template <;> cases skin <;> rfl

theorem get?_skin (about : Meta) : Fields.get? "skin" about.entries
    = about.skin.map fun skin => .str skin.name := by
  obtain ⟨title, template, skin, theme, extra⟩ := about
  cases template <;> cases skin <;> rfl

theorem get?_theme (about : Meta) :
    Fields.get? "theme" about.entries = some (.str about.theme.name) := by
  obtain ⟨title, template, skin, theme, extra⟩ := about
  cases template <;> cases skin <;> rfl

/-- The other fields have no known names, and the template no name of another one. -/
structure Distinct (about : Meta) : Prop where
  template : ∀ template ∈ about.template, template.Own
  extra : Fields.Beyond knownNames about.extra

section

variable {about : Meta}

/-- The known fields are written apart from the others. -/
theorem Distinct.apart (distinct : about.Distinct) :
    Fields.Apart knownNames about.entries about.extra where
  toBeyond := distinct.extra
  listed := by
    -- Whatever is chosen, the names are known ones and differ from each other.
    obtain ⟨title, template, skin, theme, extra⟩ := about
    cases template <;> cases skin <;> simp [entries, Fields.names, knownNames]
  nodup := by
    obtain ⟨title, template, skin, theme, extra⟩ := about
    cases template <;> cases skin <;> simp [entries, Fields.names]

/-- What is said about a game is read back from its written form. -/
theorem Distinct.ofJson?_toJson (distinct : about.Distinct) : ofJson? about.toJson = some about := by
  refine ofJson?_eq_some_iff.2 ⟨_, about.toJson_eq, ?title, ?template, ?skin, ?theme,
    distinct.apart.filter_other.symm⟩
  case title =>
    -- The title is written as it is.
    rw [distinct.apart.get?_known (by decide)]
    rfl
  case template =>
    -- Template and skin are written where there is one.
    refine Record.optional_of_written 1 (fun template : Template => .str template.name) ?_
      (fun chosen there => congrArg some (distinct.template chosen there).ofName_name) nofun
    rw [distinct.apart.get?_known (by decide), get?_template]
  case skin =>
    refine Record.optional_of_written 2 (fun skin : Skin => .str skin.name) ?_
      (fun chosen _ => chosen.ofName?_name) nofun
    rw [distinct.apart.get?_known (by decide), get?_skin]
  case theme =>
    -- The theme is always written.
    refine Option.bind_eq_some_iff.2 ⟨.str about.theme.name, ?_, about.theme.ofName?_name⟩
    rw [Record.get?, distinct.apart.get?_known (by decide), get?_theme]

variable {fields : Fields Json} (read : about.ReadFrom fields) (ordered : Fields.Ordered fields)
include read ordered

/-- What is read from a mapping in order keeps the other fields apart from the known ones. -/
theorem ReadFrom.distinct : about.Distinct where
  template := by
    rintro template there
    obtain ⟨value, -, isTemplate⟩ := Record.exists_of_optional 1 (read.template.trans
      (congrArg some there))
    -- A template that was read got its form from its name.
    obtain ⟨name, -, rfl⟩ := Option.map_eq_some_iff.1 isTemplate
    exact Template.own_ofName name
  extra := read.extra ▸ ordered.beyond

/-- Apart from the choices, the written form has the fields that were read. -/
theorem ReadFrom.field?_toJson {name : String} (kept : name ∉ ["template", "skin", "theme"]) :
    about.toJson.field? name = Fields.get? name fields := by
  have apart := (read.distinct ordered).apart
  rw [toJson_eq, field?]
  by_cases known : name ∈ knownNames
  -- Of the known fields only the title has a single written form.
  · obtain rfl : name = "title" := by simp_all [knownNames]
    rw [apart.get?_known known, read.title]
    rfl
  · -- Other fields were kept as they stand.
    rw [apart.get?_other known, read.extra, Fields.get?_filter fun name => name ∉ knownNames]
    simp [known]

/-- The written form has no field that was not read. -/
theorem ReadFrom.field?_toJson_eq_none {name : String} (absent : Fields.get? name fields = none) :
    about.toJson.field? name = none := by
  have apart := (read.distinct ordered).apart
  by_cases kept : name ∈ ["template", "skin", "theme"]
  -- The three fields with a choice are known; each of them is left out if it was missing.
  · have known : name ∈ knownNames := List.mem_cons_of_mem _ kept
    rw [toJson_eq, field?, apart.get?_known known]
    simp only [List.mem_cons, List.not_mem_nil, or_false] at kept
    obtain rfl | rfl | rfl := kept
    · rw [get?_template, Record.eq_none_of_optional 1 absent read.template]
      rfl
    · rw [get?_skin, Record.eq_none_of_optional 2 absent read.skin]
      rfl
    · -- Without a theme nothing would have been read.
      have there := read.theme
      rw [Record.required, Record.get?, absent] at there
      cases there
  · rw [read.field?_toJson ordered kept, absent]

end

end Meta

namespace Design

/-- The sections of which the whole value is kept. -/
def sections (design : Design) : Fields Json :=
  [("scene", design.scene), ("player", design.player), ("entities", .arr design.entities),
   ("enemies", .arr design.enemies), ("goals", design.goals), ("rules", .obj design.rules),
   ("controls", design.controls), ("aesthetics", design.aesthetics), ("notes", .str design.notes)]

/-- The known fields of the written form. -/
def entries (design : Design) : Fields Json :=
  [("meta", design.about.toJson), ("scene", design.scene), ("player", design.player),
   ("entities", .arr design.entities), ("enemies", .arr design.enemies),
   ("goals", design.goals), ("rules", .obj design.rules), ("controls", design.controls),
   ("aesthetics", design.aesthetics)]
    ++ (design.hud.map fun hud => ("hud", hud.toJson)).toList
    ++ [("notes", .str design.notes)]

theorem toJson_eq (design : Design) :
    design.toJson = .obj (Fields.union (Fields.ofList design.entries) design.extra) :=
  rfl

/-- What the fields of a mapping say of a design. -/
structure ReadFrom (design : Design) (fields : Fields Json) : Prop where
  about : (Fields.get? "meta" fields).bind Meta.ofJson? = some design.about
  sections : ∀ section_ ∈ design.sections, Fields.get? section_.1 fields = some section_.2
  hud : (Record.named fields).optional 9 "hud" Hud.ofJson? = some design.hud
  extra : design.extra = fields.filter fun field => field.1 ∉ knownNames

theorem ofJson?_eq_some_iff {value : Json} {design : Design} :
    ofJson? value = some design ↔ ∃ fields, value = .obj fields ∧ design.ReadFrom fields := by
  have asIs {value x : Json} : some value = some x ↔ value = x := Option.some_inj
  constructor
  · -- The reader takes the fields one by one, and so do the steps here.
    intro read
    obtain ⟨fields, isFields, read⟩ := Option.bind_eq_some_iff.1 read
    obtain ⟨about, isAbout, read⟩ := Option.bind_eq_some_iff.1 read
    obtain ⟨scene, isScene, read⟩ := Option.bind_eq_some_iff.1 read
    obtain ⟨player, isPlayer, read⟩ := Option.bind_eq_some_iff.1 read
    obtain ⟨entities, areEntities, read⟩ := Option.bind_eq_some_iff.1 read
    obtain ⟨enemies, areEnemies, read⟩ := Option.bind_eq_some_iff.1 read
    obtain ⟨goals, areGoals, read⟩ := Option.bind_eq_some_iff.1 read
    obtain ⟨rules, areRules, read⟩ := Option.bind_eq_some_iff.1 read
    obtain ⟨controls, areControls, read⟩ := Option.bind_eq_some_iff.1 read
    obtain ⟨aesthetics, areAesthetics, read⟩ := Option.bind_eq_some_iff.1 read
    obtain ⟨hud, isHud, read⟩ := Option.bind_eq_some_iff.1 read
    obtain ⟨notes, areNotes, made⟩ := Option.bind_eq_some_iff.1 read
    obtain rfl := asFields?_eq_some_iff.1 isFields
    obtain rfl := Option.some.inj made
    refine ⟨fields, rfl, isAbout, ?_, isHud, rfl⟩
    simp only [sections, List.forall_mem_cons]
    exact ⟨(Record.required_eq_some_iff 1 asIs).1 isScene,
      (Record.required_eq_some_iff 2 asIs).1 isPlayer,
      (Record.required_eq_some_iff 3 asItems?_eq_some_iff).1 areEntities,
      (Record.required_eq_some_iff 4 asItems?_eq_some_iff).1 areEnemies,
      (Record.required_eq_some_iff 5 asIs).1 areGoals,
      (Record.required_eq_some_iff 6 asFields?_eq_some_iff).1 areRules,
      (Record.required_eq_some_iff 7 asIs).1 areControls,
      (Record.required_eq_some_iff 8 asIs).1 areAesthetics,
      (Record.required_eq_some_iff 10 asString?_eq_some_iff).1 areNotes, List.forall_mem_nil _⟩
  · rintro ⟨fields, rfl, read⟩
    -- The facts about the sections, taken apart, answer the reader's steps in the same order.
    obtain ⟨scene, player, entities, enemies, goals, rules, controls, aesthetics, notes, -⟩ :
        _ ∧ _ ∧ _ ∧ _ ∧ _ ∧ _ ∧ _ ∧ _ ∧ _ ∧ _ := by
      simpa only [sections, List.forall_mem_cons] using read.sections
    refine Option.bind_eq_some_iff.2 ⟨_, read.about, ?_⟩
    refine Option.bind_eq_some_iff.2 ⟨_, (Record.required_eq_some_iff 1 asIs).2 scene, ?_⟩
    refine Option.bind_eq_some_iff.2 ⟨_, (Record.required_eq_some_iff 2 asIs).2 player, ?_⟩
    refine Option.bind_eq_some_iff.2
      ⟨_, (Record.required_eq_some_iff 3 asItems?_eq_some_iff).2 entities, ?_⟩
    refine Option.bind_eq_some_iff.2
      ⟨_, (Record.required_eq_some_iff 4 asItems?_eq_some_iff).2 enemies, ?_⟩
    refine Option.bind_eq_some_iff.2 ⟨_, (Record.required_eq_some_iff 5 asIs).2 goals, ?_⟩
    refine Option.bind_eq_some_iff.2
      ⟨_, (Record.required_eq_some_iff 6 asFields?_eq_some_iff).2 rules, ?_⟩
    refine Option.bind_eq_some_iff.2 ⟨_, (Record.required_eq_some_iff 7 asIs).2 controls, ?_⟩
    refine Option.bind_eq_some_iff.2 ⟨_, (Record.required_eq_some_iff 8 asIs).2 aesthetics, ?_⟩
    refine Option.bind_eq_some_iff.2 ⟨_, read.hud, ?_⟩
    refine Option.bind_eq_some_iff.2
      ⟨_, (Record.required_eq_some_iff 10 asString?_eq_some_iff).2 notes, ?_⟩
    rw [← read.extra]
    rfl

/-- The sections are the known fields apart from two of them. -/
theorem mem_names_sections (design : Design) (name : String) :
    name ∈ Fields.names design.sections ↔ name ∈ knownNames ∧ name ∉ ["meta", "hud"] := by
  -- The names do not depend on the design, so the two lists can be compared by evaluation.
  change name ∈ knownNames.filter (· ∉ ["meta", "hud"]) ↔ _
  simp

theorem nodup_sections (design : Design) : (Fields.names design.sections).Nodup :=
  show (knownNames.filter (· ∉ ["meta", "hud"])).Nodup by decide

theorem get?_meta (design : Design) :
    Fields.get? "meta" design.entries = some design.about.toJson :=
  rfl

theorem get?_hud (design : Design) :
    Fields.get? "hud" design.entries = design.hud.map Hud.toJson := by
  obtain ⟨about, scene, player, entities, enemies, goals, rules, controls, aesthetics, hud, notes,
    extra⟩ := design
  -- The display is the one section that may be missing.
  cases hud <;> rfl

/-- Apart from two of the known fields, the written form has the sections. -/
theorem get?_entries (design : Design) {name : String} (kept : name ∉ ["meta", "hud"]) :
    Fields.get? name design.entries = Fields.get? name design.sections := by
  obtain ⟨about, scene, player, entities, enemies, goals, rules, controls, aesthetics, hud, notes,
    extra⟩ := design
  -- The two names that differ are excluded, so the lists agree field by field.
  simp only [List.mem_cons, List.not_mem_nil, or_false, not_or] at kept
  cases hud <;> simp [entries, sections, Fields.get?, kept]

/-- Neither the design nor what it says about the game has known names among the other fields. -/
structure Distinct (design : Design) : Prop where
  about : design.about.Distinct
  extra : Fields.Beyond knownNames design.extra

section

variable {design : Design}

/-- The known fields are written apart from the others. -/
theorem Distinct.apart (distinct : design.Distinct) :
    Fields.Apart knownNames design.entries design.extra where
  toBeyond := distinct.extra
  listed := by
    obtain ⟨about, scene, player, entities, enemies, goals, rules, controls, aesthetics, hud, notes,
      extra⟩ := design
    -- With a display or without one the names are known ones and differ from each other.
    cases hud <;> simp [entries, Fields.names, knownNames]
  nodup := by
    obtain ⟨about, scene, player, entities, enemies, goals, rules, controls, aesthetics, hud, notes,
      extra⟩ := design
    cases hud <;> simp [entries, Fields.names]

/-- A design is read back from its written form. -/
theorem Distinct.ofJson?_toJson (distinct : design.Distinct) :
    ofJson? design.toJson = some design := by
  refine ofJson?_eq_some_iff.2 ⟨_, design.toJson_eq, ?about, ?sections, ?hud,
    distinct.apart.filter_other.symm⟩
  case about =>
    -- What is said about the game is read back by itself.
    rw [distinct.apart.get?_known (by decide), get?_meta]
    exact distinct.about.ofJson?_toJson
  case sections =>
    rintro ⟨name, value⟩ there
    -- A section is a known field of which there is only one.
    obtain ⟨known, kept⟩ := (design.mem_names_sections name).1 (List.mem_map_of_mem there)
    rw [distinct.apart.get?_known known, get?_entries design kept]
    exact Fields.get?_of_mem design.nodup_sections there
  case hud =>
    refine Record.optional_of_written 9 Hud.toJson ?_ (fun hud _ => hud.ofJson?_toJson) nofun
    rw [distinct.apart.get?_known (by decide), get?_hud]

variable {fields : Fields Json} (read : design.ReadFrom fields) (ordered : (Json.obj fields).Ordered)
include read ordered

/-- What is read from an ordered mapping keeps the other fields apart from the known ones. -/
theorem ReadFrom.distinct : design.Distinct where
  about := by
    -- The section was read from an ordered mapping, too.
    obtain ⟨value, there, isAbout⟩ := Option.bind_eq_some_iff.1 read.about
    obtain ⟨about, rfl, aboutRead⟩ := Meta.ofJson?_eq_some_iff.1 isAbout
    exact aboutRead.distinct (ordered.field there).fields
  extra := read.extra ▸ ordered.fields.beyond

/-- Apart from two of the known fields, the written form has the fields that were read. -/
theorem ReadFrom.field?_toJson {name : String} (kept : name ∉ ["meta", "hud"]) :
    design.toJson.field? name = Fields.get? name fields := by
  have apart := (read.distinct ordered).apart
  rw [toJson_eq, field?]
  by_cases known : name ∈ knownNames
  -- A known name that is neither of the two is that of a section, which was read as it stood.
  · have named := (design.mem_names_sections name).2 ⟨known, kept⟩
    rw [apart.get?_known known, get?_entries design kept]
    cases there : Fields.get? name design.sections with
    | none => exact absurd named (Fields.get?_eq_none_iff.1 there)
    | some value => exact (read.sections _ (Fields.mem_of_get? there)).symm
  · rw [apart.get?_other known, read.extra, Fields.get?_filter fun name => name ∉ knownNames]
    simp [known]

/-- The written form has no field that was not read. -/
theorem ReadFrom.field?_toJson_eq_none {name : String} (absent : Fields.get? name fields = none) :
    design.toJson.field? name = none := by
  have apart := (read.distinct ordered).apart
  by_cases kept : name ∈ ["meta", "hud"]
  · simp only [List.mem_cons, List.not_mem_nil, or_false] at kept
    obtain rfl | rfl := kept
    · -- Without this section nothing would have been read.
      have there := read.about
      rw [absent] at there
      cases there
    · -- Without a display none is written.
      rw [toJson_eq, field?, apart.get?_known (by decide), get?_hud,
        Record.eq_none_of_optional 9 absent read.hud]
      rfl
  · rw [read.field?_toJson ordered kept, absent]

end

/-- What a written form keeps of the document that it was read from. -/
structure Keeps (written value : Json) : Prop where
  fields : ∀ name ∉ ["meta", "hud"], written.field? name = value.field? name
  added : ∀ name, value.field? name = none → written.field? name = none
  about : ∃ given kept, value.field? "meta" = some given ∧ written.field? "meta" = some kept
    ∧ kept.isObject = true
    ∧ (∀ name ∉ ["template", "skin", "theme"], kept.field? name = given.field? name)
    ∧ ∀ name, given.field? name = none → kept.field? name = none

/-- The written form of what is read from an ordered mapping keeps all that is left open. -/
theorem ReadFrom.keeps {design : Design} {fields : Fields Json} (read : design.ReadFrom fields)
    (ordered : (Json.obj fields).Ordered) : Keeps design.toJson (.obj fields) where
  fields _ kept := read.field?_toJson ordered kept
  added _ absent := read.field?_toJson_eq_none ordered absent
  about := by
    obtain ⟨given, there, isAbout⟩ := Option.bind_eq_some_iff.1 read.about
    obtain ⟨about, rfl, aboutRead⟩ := Meta.ofJson?_eq_some_iff.1 isAbout
    -- The fields of the section are in order, as all fields of the document are.
    have names := (ordered.field there).fields
    refine ⟨.obj about, design.about.toJson, there, ?_, rfl,
      fun _ kept => aboutRead.field?_toJson names kept,
      fun _ absent => aboutRead.field?_toJson_eq_none names absent⟩
    rw [toJson_eq, field?, (read.distinct ordered).apart.get?_known (by decide), get?_meta]

/-- A design that is read from a document and written again keeps what the document leaves open, and
is read back from there; so is every design whose other fields lie beyond the known ones. -/
theorem strict_reading :
    (∀ value design, value.Ordered → ofJson? value = some design →
      Keeps design.toJson value ∧ ofJson? design.toJson = some design
        ∧ (ofJson? design.toJson).map toJson = some design.toJson)
      ∧ ∀ design : Design, design.Distinct → ofJson? design.toJson = some design := by
  refine ⟨fun value design ordered isDesign => ?_, fun design distinct => distinct.ofJson?_toJson⟩
  -- What is read from an ordered document is distinct, and distinct designs are read back.
  obtain ⟨fields, rfl, read⟩ := ofJson?_eq_some_iff.1 isDesign
  have back := (read.distinct ordered).ofJson?_toJson
  exact ⟨read.keeps ordered, back, congrArg (Option.map toJson) back⟩

/-- A design with fields under other names and a template of its own. -/
def annotated : Design where
  about := ⟨"Tea", some (.other "quiz"), none, .light, [("mood", .str "calm")]⟩
  scene := .null
  player := .null
  entities := [.null]
  enemies := []
  goals := .null
  rules := [("rounds", Json.nat 3)]
  controls := .null
  aesthetics := .null
  hud := some ⟨true, false, true, false, "K"⟩
  notes := ""
  extra := [("author", .str "me")]

/-- What a document says about that game, with its choices written in unusual ways. -/
def annotatedAbout : Json :=
  Json.ofFields
    [("title", .str "Tea"), ("template", .str "quiz"), ("skin", .null),
     ("theme", Json.ofFields [("light", .null)]), ("mood", .str "calm")]

/-- A document of that design. -/
def annotatedDocument : Json :=
  Json.ofFields
    [("meta", annotatedAbout), ("scene", .null), ("player", .null), ("entities", .arr [.null]),
     ("enemies", .arr []), ("goals", .null), ("rules", Json.ofFields [("rounds", Json.nat 3)]),
     ("controls", .null), ("aesthetics", .null),
     ("hud", .arr [.bool true, .bool false, .bool true, .bool false, .str "K"]), ("notes", .str ""),
     ("author", .str "me")]

/-- A mood and an author are kept where a document notes them, and a mapping for a theme is not. -/
theorem strict_reading_annotated :
    annotatedDocument.Ordered ∧ ofJson? annotatedDocument = some annotated
      ∧ annotated.toJson ≠ annotatedDocument ∧ Keeps annotated.toJson annotatedDocument
      ∧ annotated.Distinct ∧ ofJson? annotated.toJson = some annotated := by
  have ordered : annotatedDocument.Ordered := by
    -- Mappings made from a list of fields are ordered, so only the parts are left to see.
    have about : annotatedAbout.Ordered := .ofFields (by simp [Json.Ordered.ofFields])
    exact .ofFields (by simp [about, Json.Ordered.ofFields, Json.nat])
  have isDesign : ofJson? annotatedDocument = some annotated := by decide
  have distinct : annotated.Distinct :=
    ⟨⟨by simp [annotated, Template.Own], ⟨by simp [annotated, Fields.Ordered], by decide⟩⟩,
      ⟨by simp [annotated, Fields.Ordered], by decide⟩⟩
  exact ⟨ordered, isDesign, by decide, (strict_reading.1 _ _ ordered isDesign).1, distinct,
    strict_reading.2 _ distinct⟩

end Design

end Minigame
