import Minigame.Proofs.Patch.Added
import Minigame.Proofs.Patch.Settled
import Minigame.Proofs.Proposal.Seeding

/-!
Turns that the rules alone take settle after the first one.

What the rules say works apart from each other, so after a turn no part of it changes anything any
more. About the changed document the rules say little that they did not say before: only the number
of objects in a limit that came with the first turn, and the limit has that number already.
-/

namespace Minigame

open Minigame.Text

theorem SpawnRule.toJson_ordered (rule : SpawnRule) : rule.toJson.Ordered := by
  refine .ofFields fun entry listed => ?_
  -- A written rule holds plain numbers and words, with or without the increment.
  cases increment : rule.addPerInterval <;> simp [increment] at listed <;>
    rcases listed with rfl | rfl | rfl <;> constructor

theorem LimitRule.toJson_ordered (rule : LimitRule) : rule.toJson.Ordered := by
  refine .ofFields fun entry listed => ?_
  simp only [List.mem_cons, List.not_mem_nil, or_false] at listed
  rcases listed with rfl | rfl <;> constructor

theorem Hud.toJson_ordered (hud : Hud) : hud.toJson.Ordered := by
  refine .ofFields fun entry listed => ?_
  simp only [List.mem_cons, List.not_mem_nil, or_false] at listed
  rcases listed with rfl | rfl | rfl | rfl | rfl <;> constructor

namespace Proposal

variable {doc : Json} {prompt summary : String} {operation : Operation}

/-- An operation that the rules say about a document after a prompt, and when they say it. -/
inductive Ruled (doc : Json) (prompt : String) : Operation → Prop
  | template (turning : turns doc prompt = true) : Ruled doc prompt templateSeed
  | title (turning : turns doc prompt = true) (untitled : Design.title? doc = none) :
      Ruled doc prompt (put ["meta", "title"] (.str (seedTitle prompt)))
  | spawn (turning : turns doc prompt = true) (absent : doc.at? ["rules", "spawn"] = none)
      (unstated : Phrase.spawnRule? prompt = none) :
      Ruled doc prompt (put ["rules", "spawn"] SpawnRule.default.toJson)
  | hud (turning : turns doc prompt = true) (absent : doc.at? ["hud"] = none) :
      Ruled doc prompt hudSeed
  | hidpi (turning : turns doc prompt = true) (absent : doc.at? ["scene", "hidpi"] = none) :
      Ruled doc prompt (put ["scene", "hidpi"] (.bool true))
  | limit (about : Phrase.isSurvivalPrompt prompt = true) (unlimited : hasLimit doc = false)
      (wanted : turns doc prompt = true ∨ (Phrase.limit? prompt).isSome = true) :
      Ruled doc prompt (put ["rules", "limit"] (limitRuleOf (Phrase.limit? prompt)).toJson)
  | most (about : Phrase.isSurvivalPrompt prompt = true) (limited : hasLimit doc = true)
      {count : Nat} (stated : Phrase.limit? prompt = some count) :
      Ruled doc prompt (put ["rules", "limit", "max_concurrent"] (.nat count))
  | skin {skin : Skin} (stated : Phrase.skin? prompt .sandbox = some skin) :
      Ruled doc prompt (put ["meta", "skin"] (.str skin.name))
  | rule {rule : SpawnRule} (stated : Phrase.spawnRule? prompt = some rule) :
      Ruled doc prompt (put ["rules", "spawn"] rule.toJson)

theorem mem_beforeHud_iff : operation ∈ beforeHud doc prompt ↔ turns doc prompt = true ∧
    (operation = templateSeed ∨
      (Design.title? doc = none ∧ operation = put ["meta", "title"] (.str (seedTitle prompt))) ∨
      ((doc.at? ["rules", "spawn"] = none ∧ Phrase.spawnRule? prompt = none) ∧
        operation = put ["rules", "spawn"] SpawnRule.default.toJson)) := by
  have spawn : doc.pointer? "/rules/spawn" = doc.at? ["rules", "spawn"] :=
    Json.pointer?_text ⟨["rules", "spawn"]⟩ doc
  -- Without a turn none of the three is said.
  unfold beforeHud
  split
  · next turning => simp [mem_when_iff, turning, templateSeed, spawn]
  · next still => simp [still]

/-- What the rules say is listed, and all of it is said. -/
theorem mem_rulePatch_iff :
    operation ∈ rulePatch ⟨doc, prompt, summary⟩ ↔ Ruled doc prompt operation := by
  have display : doc.pointer? "/hud" = doc.at? ["hud"] := Json.pointer?_text ⟨["hud"]⟩ doc
  have screen : doc.pointer? "/scene/hidpi" = doc.at? ["scene", "hidpi"] :=
    Json.pointer?_text ⟨["scene", "hidpi"]⟩ doc
  simp only [rulePatch_eq, afterHud, showsHud, display, screen, List.mem_append, mem_when_iff,
    mem_beforeHud_iff, mem_overrides_iff, List.mem_ite_nil_right, mem_seedLimit_iff, Bool.and_eq_true,
    Bool.not_eq_true', Option.isSome_eq_false_iff, Option.isNone_iff_eq_none]
  constructor
  · rintro ((⟨turning, rfl | ⟨untitled, rfl⟩ | ⟨⟨absent, unstated⟩, rfl⟩⟩ | ⟨⟨turning, absent⟩, rfl⟩) |
      (⟨⟨turning, absent⟩, rfl⟩ | ⟨about, ⟨limited, count, stated, rfl⟩ | ⟨unlimited, wanted, rfl⟩⟩) |
      ⟨skin, stated, rfl⟩ | ⟨rule, stated, rfl⟩)
    · exact .template turning
    · exact .title turning untitled
    · exact .spawn turning absent unstated
    · exact .hud turning absent
    · exact .hidpi turning absent
    · exact .most about limited stated
    · exact .limit about unlimited wanted
    · exact .skin stated
    · exact .rule stated
  · intro ruled
    cases ruled <;> simp_all

/-- A value that is put under names is put plainly. -/
theorem put_plain {segments : List String} {value : Json}
    (named : ∀ segment ∈ segments, Json.segmentIndex? segment = none) (dashless : "-" ∉ segments)
    (ordered : value.Ordered) : (put segments value).Plain :=
  ⟨⟨rfl, named⟩, ⟨rfl, dashless⟩, fun _ same => Option.some.inj same ▸ ordered⟩

theorem Ruled.plain (ruled : Ruled doc prompt operation) : operation.Plain := by
  cases ruled with
  | template => exact put_plain (by decide) (by decide) (.str _)
  | title => exact put_plain (by decide) (by decide) (.str _)
  | spawn => exact put_plain (by decide) (by decide) (SpawnRule.toJson_ordered _)
  | hud => exact put_plain (by decide) (by decide) (Hud.toJson_ordered _)
  | hidpi => exact put_plain (by decide) (by decide) (.bool _)
  | limit => exact put_plain (by decide) (by decide) (LimitRule.toJson_ordered _)
  | most => exact put_plain (by decide) (by decide) (.num _)
  | skin => exact put_plain (by decide) (by decide) (.str _)
  | rule => exact put_plain (by decide) (by decide) (SpawnRule.toJson_ordered _)

theorem Ruled.mem_spots (ruled : Ruled doc prompt operation) :
    operation.path.segments ∈ ["meta", "template"] :: ruleSpots := by
  have listed : operation ∈ rulePatch ⟨doc, prompt, ""⟩ := mem_rulePatch_iff.2 ruled
  exact mem_rulePatch listed

/-- The limit is set as a whole only where there is none. -/
theorem Ruled.unlimited (ruled : Ruled doc prompt operation)
    (whole : operation.path.segments = ["rules", "limit"]) : hasLimit doc = false := by
  cases ruled <;> simp_all [templateSeed, hudSeed]

/-- The limit is set in part only where there is one. -/
theorem Ruled.limited (ruled : Ruled doc prompt operation)
    (part : operation.path.segments = ["rules", "limit", "max_concurrent"]) :
    hasLimit doc = true := by
  -- Of the cases only those about a part of the limit have this place.
  cases ruled <;> simp_all [templateSeed, hudSeed]

section

variable {other : Operation} (ruled : Ruled doc prompt operation)
  (otherRuled : Ruled doc prompt other)
include ruled otherRuled

/-- The rules say one thing at most about a place. -/
theorem Ruled.unique (same : operation.path.segments = other.path.segments) :
    other = operation := by
  -- Two cases with one place are the same case, or their conditions exclude each other.
  cases ruled <;> cases otherRuled <;> simp_all [templateSeed, hudSeed]

/-- No place that the rules say something about lies below another one. -/
theorem Ruled.path_eq (above : operation.path.segments <+: other.path.segments) :
    operation.path.segments = other.path.segments := by
  -- The places are few, so all pairs with one below the other are found by trying them.
  have spots : ∀ upper ∈ ["meta", "template"] :: ruleSpots,
      ∀ lower ∈ ["meta", "template"] :: ruleSpots, upper <+: lower →
        upper = lower ∨ upper = ["rules", "limit"] ∧ lower = ["rules", "limit", "max_concurrent"] := by
    decide
  rcases spots _ ruled.mem_spots _ otherRuled.mem_spots above with same | ⟨whole, part⟩
  · exact same
  · -- The limit is set as a whole or in part, but never both.
    exact absurd (otherRuled.limited part) (by simp [ruled.unlimited whole])

/-- What the rules say works apart from all else that they say. -/
theorem Ruled.apart : other = operation ∨ operation.Apart other.path.segments := by
  by_cases same : operation.path.segments = other.path.segments
  · exact .inl (ruled.unique otherRuled same)
  · exact .inr ⟨fun above => same (ruled.path_eq otherRuled above),
      fun above => same (otherRuled.path_eq ruled above).symm⟩

end

/-- A turn that the rules alone take: what they say about a document is done to it. -/
def ruledTurn (prompt summary : String) (doc : Json) : Json :=
  (rulePatch ⟨doc, prompt, summary⟩).apply doc

/-- A document that has been changed is a mapping, and the next patch starts from it. -/
theorem base_ruledTurn : Patch.base (ruledTurn prompt summary doc) = ruledTurn prompt summary doc := by
  obtain ⟨fields, started, -⟩ := Patch.base_eq_obj doc
  obtain ⟨changed, left, -⟩ := Patch.run_obj (rulePatch ⟨doc, prompt, summary⟩) fields
  rw [ruledTurn, Patch.apply_eq_run, started, left, Patch.base]

/-- After a turn nothing that the rules said changes anything any more. -/
theorem Ruled.idle (ordered : doc.Ordered) (ruled : Ruled doc prompt operation) :
    (operation.apply (ruledTurn prompt summary doc)).value = ruledTurn prompt summary doc := by
  rw [ruledTurn, Patch.apply_eq_run]
  refine Patch.idle_of_apart (fun other listed => (mem_rulePatch_iff.1 listed).plain) ?_
    (Patch.base_ordered ordered) operation (mem_rulePatch_iff.2 ruled)
  exact fun upper listed lower there => (mem_rulePatch_iff.1 listed).apart (mem_rulePatch_iff.1 there)

variable (doc prompt summary) in
/-- A place that the rules do not go below is left alone by a turn, or a part of a value is there. -/
theorem at?_ruledTurn (kept : List String)
    (whole : ∀ spot ∈ ["meta", "template"] :: ruleSpots, kept <+: spot → spot <+: kept)
    (named : ∀ segment ∈ kept, Json.segmentIndex? segment = none) (below : kept ≠ []) :
    let after := ruledTurn prompt summary doc
    after.at? kept = doc.at? kept ∨ ∃ operation value tail, Ruled doc prompt operation ∧
      operation.value? = some value ∧ operation.path.segments ++ tail = kept ∧
      after.at? kept = value.at? tail := by
  refine (Patch.apply_put (fun operation listed => (mem_rulePatch_iff.1 listed).plain.puts.value)
    (fun operation listed => whole _ (mem_rulePatch listed)) named below doc).imp_right ?_
  rintro ⟨operation, listed, value, tail, puts, place, read⟩
  exact ⟨operation, value, tail, mem_rulePatch_iff.1 listed, puts, place, read⟩

theorem hasLimit_iff :
    hasLimit doc = true ↔ ∃ fields, doc.at? ["rules", "limit"] = some (.obj fields) := by
  have read : doc.pointer? "/rules/limit" = doc.at? ["rules", "limit"] :=
    Json.pointer?_text ⟨["rules", "limit"]⟩ doc
  rw [hasLimit, read, Option.isSome_iff_exists]
  simp only [Option.bind_eq_some_iff]
  constructor
  · rintro ⟨fields, limit, there, mapping⟩
    cases limit with
    | obj found => exact ⟨found, there⟩
    | _ => cases mapping
  · rintro ⟨fields, there⟩
    exact ⟨fields, _, there, rfl⟩

section

variable {after : Json} (turned : after = ruledTurn prompt summary doc)
include turned

/-- Where the rules put whole values, there was nothing before if there is nothing after a turn. -/
theorem absent_before {place : List String}
    (listed : place ∈ [["rules", "spawn"], ["hud"], ["scene", "hidpi"]])
    (absent : after.at? place = none) : doc.at? place = none := by
  have spots : ∀ place ∈ [["rules", "spawn"], ["hud"], ["scene", "hidpi"]],
      (∀ spot ∈ ["meta", "template"] :: ruleSpots, place <+: spot → spot <+: place) ∧
        (∀ spot ∈ ["meta", "template"] :: ruleSpots, spot <+: place → spot = place) ∧
        (∀ segment ∈ place, Json.segmentIndex? segment = none) ∧ place ≠ [] := by decide
  obtain ⟨whole, apart, named, below⟩ := spots place listed
  subst turned
  rcases at?_ruledTurn doc prompt summary place whole named below with same |
    ⟨operation, value, tail, ruled, -, joined, read⟩
  · exact same.symm.trans absent
  · -- A value that was put there would be there.
    have here := apart _ ruled.mem_spots ⟨tail, joined⟩
    obtain rfl : tail = [] := by simpa [here] using joined
    rw [absent] at read
    cases read

/-- A document without a title after a turn had none before. -/
theorem untitled_before (untitled : Design.title? after = none) : Design.title? doc = none := by
  subst turned
  rcases at?_ruledTurn doc prompt summary ["meta", "title"] (by decide) (by decide) (by decide) with
    same | ⟨operation, value, tail, ruled, -, joined, -⟩
  · -- Nothing was put at the title, so it reads as before.
    have read : (ruledTurn prompt summary doc).pointer? "/meta/title" = doc.pointer? "/meta/title" :=
      Json.pointer?_congr same
    rwa [Design.title?, Json.textAt?, read] at untitled
  · cases ruled with
    -- A title was put, and the rules do that only to an untitled document.
    | title _ untitled => exact untitled
    | _ => simp [templateSeed, hudSeed] at joined

/-- A game that still turns into one of survival after a turn did so before. -/
theorem turns_before (turning : turns after prompt = true) : turns doc prompt = true := by
  subst turned
  rw [turns, Bool.and_eq_true, bne_iff_ne] at turning ⊢
  refine ⟨turning.1, ?_⟩
  rcases at?_ruledTurn doc prompt summary ["meta", "template"] (by decide) (by decide) (by decide)
    with same | ⟨operation, value, tail, ruled, puts, joined, read⟩
  · rw [← Design.template_congr same]
    exact turning.2
  · -- With the template of survival games in its place, nothing would turn any more.
    cases ruled with
    | template =>
      obtain rfl : tail = [] := by simpa [templateSeed] using joined
      obtain rfl := Option.some.inj puts
      exact absurd (Design.template_eq_bubbleClicker read) turning.2
    | _ => simp [hudSeed] at joined

/-- A document with a mapping for its limit has one after a turn. -/
theorem hasLimit_after (limited : hasLimit doc = true) : hasLimit after = true := by
  subst turned
  obtain ⟨fields, there⟩ := hasLimit_iff.1 limited
  rw [← Patch.at?_base (by simp) (by decide)] at there
  refine hasLimit_iff.2 ?_
  rw [ruledTurn, Patch.apply_eq_run]
  -- Nothing is put above the limit, and the limit is set in part alone.
  refine Patch.mapping_run (fun operation listed above => ?_) (by decide) there
  have spots : ∀ spot ∈ ["meta", "template"] :: ruleSpots, spot <+: ["rules", "limit"] →
      spot = ["rules", "limit"] := by decide
  have whole := spots _ (mem_rulePatch listed) above
  exact absurd limited (by simp [(mem_rulePatch_iff.1 listed).unlimited whole])

/-- What the rules say after a turn they said before, apart from the number in a limit of their own. -/
theorem Ruled.before (ruled : Ruled after prompt operation) :
    Ruled doc prompt operation ∨
      Ruled doc prompt (put ["rules", "limit"] (limitRuleOf (Phrase.limit? prompt)).toJson) ∧
        hasLimit after = true ∧ ∃ count, Phrase.limit? prompt = some count ∧
          operation = put ["rules", "limit", "max_concurrent"] (.nat count) := by
  cases ruled with
  | template turning => exact .inl (.template (turns_before turned turning))
  | title turning untitled =>
    exact .inl (.title (turns_before turned turning) (untitled_before turned untitled))
  | spawn turning absent unstated =>
    exact .inl (.spawn (turns_before turned turning) (absent_before turned (by simp) absent) unstated)
  | hud turning absent =>
    exact .inl (.hud (turns_before turned turning) (absent_before turned (by simp) absent))
  | hidpi turning absent =>
    exact .inl (.hidpi (turns_before turned turning) (absent_before turned (by simp) absent))
  | limit about unlimited wanted =>
    refine .inl (.limit about ?_ (wanted.imp_left (turns_before turned)))
    -- A limit that was there before would still be there.
    by_contra limited
    exact absurd (hasLimit_after turned (by simpa using limited)) (by simp [unlimited])
  | most about limited stated =>
    -- A limit of the document gets the number again; one of the rules got it with the first turn.
    cases before : hasLimit doc with
    | true => exact .inl (.most about before stated)
    | false => exact .inr ⟨.limit about before (.inr (by simp [stated])), limited, _, stated, rfl⟩
  | skin stated => exact .inl (.skin stated)
  | rule stated => exact .inl (.rule stated)

end

/-- A limit that the rules have put has the number of objects that the prompt states. -/
theorem at?_most {count : Nat} (stated : Phrase.limit? prompt = some count) {after : Json}
    (limited : hasLimit after = true)
    (idle : ((put ["rules", "limit"] (limitRuleOf (Phrase.limit? prompt)).toJson).apply after).value =
      after) :
    after.at? ["rules", "limit", "max_concurrent"] = some (.nat count) := by
  obtain ⟨fields, there⟩ := hasLimit_iff.1 limited
  -- The rules are a mapping, so the limit is read there when it is put again.
  have mapping : after.HasSection "rules" := Json.hasSection_of_at? (by decide) (by decide) there
  have again : ((put ["rules", "limit"] (limitRuleOf (Phrase.limit? prompt)).toJson).apply
      after).value.at? ["rules", "limit"] = some (limitRuleOf (Phrase.limit? prompt)).toJson :=
    Operation.at?_put_section mapping
  rw [idle, stated] at again
  rw [show ["rules", "limit", "max_concurrent"] = ["rules", "limit"] ++ ["max_concurrent"] from rfl,
    Json.at?_append, again]
  rfl

/--
A turn that the rules alone take settles: the same turn changes nothing after it.

This holds of every document that lists its names in order, whatever can be written in it, though the
rules may say something else about the changed document than they said before.
-/
theorem ruled_turn_settles (doc : Json) (ordered : doc.Ordered) (prompt summary : String) :
    let turned := ruledTurn prompt summary doc
    ruledTurn prompt summary turned = turned := by
  intro turned
  have sorted : turned.Ordered :=
    Patch.apply_ordered (fun operation listed => (mem_rulePatch_iff.1 listed).plain.ordered) ordered
  rw [ruledTurn, Patch.apply_eq_run, base_ruledTurn]
  -- It is enough that no operation of the second turn changes anything.
  refine Patch.run_eq_self fun operation listed => ?_
  rcases (mem_rulePatch_iff.1 listed).before rfl with said | ⟨limit, limited, count, stated, rfl⟩
  · -- What was said before was done by the first turn.
    exact said.idle ordered
  · -- The number that the limit gets is in it already.
    exact Operation.apply_of_there sorted (by decide) (at?_most stated limited (limit.idle ordered))

/-- A game whose template cannot be written turns again, and the rules say something else then. -/
theorem ruled_turn_settles_unwritten :
    let doc := Json.obj [("meta", .str "slimes")]
    let turned := ruledTurn "slimes, limit 20" "" doc
    rulePatch ⟨turned, "slimes, limit 20", ""⟩ ≠ rulePatch ⟨doc, "slimes, limit 20", ""⟩ ∧
      ruledTurn "slimes, limit 20" "" turned = turned := by
  intro doc turned
  have ordered : doc.Ordered := .obj (List.pairwise_singleton ..) (by simp [Json.Ordered.str])
  exact ⟨by decide +kernel, ruled_turn_settles doc ordered "slimes, limit 20" ""⟩

end Proposal

end Minigame
