import Minigame.Proofs.Json.Fields
import Minigame.Proofs.Patch.Written

/-!
What of an untrusted value becomes a patch.

A value holds the entries of a patch in one of four ways, or it holds none. Of the entries those that
state an operation are kept, each for itself and in their order.
-/

namespace Minigame

namespace Operation

/--
An entry states an operation by its kind, by a text of its path and by its value, if it has one.

A mapping may have other fields, and a sequence has no other items.
-/
inductive StatedBy (operation : Operation) : Json → Prop where
  | fields {fields : Fields Json} {text : String}
      (kind : Fields.get? "op" fields = some (.str operation.kind))
      (path : Fields.get? "path" fields = some (.str text))
      (parsed : Path.parse text = .ok operation.path)
      (value : ∀ given ∈ operation.value?, Fields.get? "value" fields = some given) :
      StatedBy operation (.obj fields)
  | items {text : String} (parsed : Path.parse text = .ok operation.path) :
      StatedBy operation (.arr (.str operation.kind :: .str text :: operation.value?.toList))

theorem readPath?_eq_some_iff {value : Json} {path : Path} :
    readPath? value = some path ↔ ∃ text, value = .str text ∧ Path.parse text = .ok path := by
  -- Only a string can be the text of a path, and it has to be parsed.
  cases value with
  | str text =>
    cases parsed : Path.parse text <;> simp [readPath?, Json.asString?, parsed]
  | _ => simp [readPath?, Json.asString?]

/-- An operation has the kind, the path and the value that it is put together from. -/
theorem ofParts?_eq_some_iff {kind : String} {path value : Option Json} {operation : Operation} :
    ofParts? kind path value = some operation ↔
      kind = operation.kind
        ∧ (∃ text, path = some (.str text) ∧ Path.parse text = .ok operation.path)
        ∧ ∀ given ∈ operation.value?, value = some given := by
  constructor
  · intro made
    -- From the result back to the parts: first the path, then the kind, then the value.
    simp only [ofParts?, Option.bind_eq_bind, Option.bind_eq_some_iff] at made
    obtain ⟨read, ⟨written, there, found⟩, made⟩ := made
    obtain ⟨text, rfl, parsed⟩ := readPath?_eq_some_iff.1 found
    split at made
    -- Adding and replacing take a value along.
    case h_1 | h_2 =>
      obtain ⟨given, rfl, same⟩ := Option.bind_eq_some_iff.1 made
      cases same
      exact ⟨rfl, ⟨text, there, parsed⟩, by simp [value?]⟩
    -- Removing looks at no value.
    case h_3 =>
      cases made
      exact ⟨rfl, ⟨text, there, parsed⟩, by simp [value?]⟩
    -- Another kind makes no operation.
    case h_4 => cases made
  · rintro ⟨rfl, ⟨text, rfl, parsed⟩, given⟩
    have read := readPath?_eq_some_iff.2 ⟨text, rfl, parsed⟩
    -- From the parts to the result each kind is looked at by itself.
    cases operation <;> simp_all [ofParts?, kind, value?, Operation.path]

/-- The operation that an entry is read as is the one that it states. -/
theorem ofJson?_eq_some_iff {entry : Json} {operation : Operation} :
    ofJson? entry = some operation ↔ operation.StatedBy entry := by
  constructor
  · intro read
    unfold ofJson? at read
    split at read
    case h_1 fields =>
      -- A mapping is read name by name.
      simp only [Option.bind_eq_bind, Option.bind_eq_some_iff] at read
      obtain ⟨written, named, kind, same, made⟩ := read
      obtain rfl := Json.asString?_eq_some_iff.1 same
      obtain ⟨rfl, ⟨text, path, parsed⟩, value⟩ := ofParts?_eq_some_iff.1 made
      exact .fields named path parsed value
    case h_2 written path =>
      -- Two items are enough for removing alone.
      simp only [Option.bind_eq_bind, Option.bind_eq_some_iff] at read
      obtain ⟨kind, same, made⟩ := read
      obtain rfl := Json.asString?_eq_some_iff.1 same
      split at made
      · obtain ⟨kind, ⟨text, there, parsed⟩, value⟩ := ofParts?_eq_some_iff.1 made
        cases there
        cases operation with
        | remove path => exact .items parsed
        | _ => simp [Operation.kind] at kind
      · cases made
    -- Three items are those of an operation with a value; removing has no third one.
    case h_3 written path given =>
      simp only [Option.bind_eq_bind, Option.bind_eq_some_iff] at read
      obtain ⟨kind, same, made⟩ := read
      obtain rfl := Json.asString?_eq_some_iff.1 same
      -- A third item is refused where the kind is that of removing.
      split at made
      · cases made
      · next kind other =>
        obtain ⟨rfl, ⟨text, there, parsed⟩, value⟩ := ofParts?_eq_some_iff.1 made
        cases there
        cases operation with
        | add path content | replace path content =>
          cases value content rfl
          exact .items parsed
        | remove path => exact absurd rfl other
    case h_4 => cases read
  · intro stated
    cases stated with
    -- What states an operation is read along the same way.
    | fields kind path parsed value =>
      simp only [ofJson?, kind, Option.bind_eq_bind, Option.bind_some, Json.asString?]
      exact ofParts?_eq_some_iff.2 ⟨rfl, ⟨_, path, parsed⟩, value⟩
    | @items text parsed =>
      have made : ofParts? operation.kind (some (.str text)) operation.value? = some operation :=
        ofParts?_eq_some_iff.2 ⟨rfl, ⟨text, rfl, parsed⟩, fun given there => there⟩
      cases operation <;> exact made

end Operation

namespace Patch

/--
A value holds these entries of a patch.

It is their sequence, or a mapping with a kind, which is a single entry itself, or else a mapping that
holds the sequence as `patch`, or as `ops` if it has nothing at all as `patch`.
-/
inductive Holds : Json → List Json → Prop where
  | sequence (entries : List Json) : Holds (.arr entries) entries
  | single {fields : Fields Json} {kind : Json} (named : Fields.get? "op" fields = some kind) :
      Holds (.obj fields) [.obj fields]
  | patch {fields : Fields Json} {entries : List Json} (plain : Fields.get? "op" fields = none)
      (held : Fields.get? "patch" fields = some (.arr entries)) : Holds (.obj fields) entries
  | ops {fields : Fields Json} {entries : List Json} (plain : Fields.get? "op" fields = none)
      (absent : Fields.get? "patch" fields = none)
      (held : Fields.get? "ops" fields = some (.arr entries)) : Holds (.obj fields) entries

/-- The operations that entries state, in their order; an entry that states none is dropped. -/
inductive Kept : List Json → Patch → Prop where
  | nil : Kept [] []
  | keep {entry : Json} {operation : Operation} {entries : List Json} {patch : Patch}
      (stated : operation.StatedBy entry) (rest : Kept entries patch) :
      Kept (entry :: entries) (operation :: patch)
  | drop {entry : Json} {entries : List Json} {patch : Patch}
      (malformed : ∀ operation : Operation, ¬ operation.StatedBy entry)
      (rest : Kept entries patch) : Kept (entry :: entries) patch

/-- The operations among entries are exactly those that they state. -/
theorem ofEntries_eq_iff {entries : List Json} {patch : Patch} :
    ofEntries entries = patch ↔ Kept entries patch := by
  rw [ofEntries]
  constructor
  · -- What is read is kept or dropped, entry by entry.
    rintro rfl
    induction entries with
    | nil => exact .nil
    | cons entry entries ih =>
      -- An entry is dropped exactly if it is read as nothing, and then it states nothing.
      cases read : Operation.ofJson? entry with
      | none =>
        rw [List.filterMap_cons_none read]
        refine .drop (fun operation stated => ?_) ih
        rw [Operation.ofJson?_eq_some_iff.2 stated] at read
        cases read
      | some operation =>
        rw [List.filterMap_cons_some read]
        exact .keep (Operation.ofJson?_eq_some_iff.1 read) ih
  · -- What is kept is read, by the way in which it is kept.
    intro kept
    induction kept with
    | nil => rfl
    | keep stated rest ih =>
      rw [List.filterMap_cons_some (Operation.ofJson?_eq_some_iff.2 stated), ih]
    | drop malformed rest ih =>
      rw [List.filterMap_cons_none, ih]
      exact Option.eq_none_iff_forall_ne_some.2 fun operation read =>
        malformed operation (Operation.ofJson?_eq_some_iff.1 read)

/-- A value that holds entries is read as the operations among them. -/
theorem ofJson_of_holds {value : Json} {entries : List Json} (holds : Holds value entries) :
    ofJson value = .ok (ofEntries entries) := by
  -- Each way to hold entries leads to one branch of the reader.
  cases holds with
  | sequence => rfl
  | single named => simp [ofJson, Fields.contains, named]
  | patch plain held => exact ofJson_envelope plain (by rw [held]; rfl)
  | ops plain absent held => exact ofJson_envelope plain (by rw [absent, held]; rfl)

/-- A value is not read for the one reason that it holds no entries. -/
theorem ofJson_cases (value : Json) :
    -- Values of other kinds hold nothing; mappings are asked for three names in turn.
    (∃ entries, Holds value entries) ∨ ofJson value = .error .noArray := by
  cases value with
  | arr entries => exact .inl ⟨entries, .sequence entries⟩
  | obj fields =>
    cases named : Fields.get? "op" fields with
    | some kind => exact .inl ⟨_, .single named⟩
    | none =>
      -- What is under the first name hides the second one, even if it is no sequence.
      cases first : Fields.get? "patch" fields with
      | some held =>
        cases held with
        | arr entries => exact .inl ⟨entries, .patch named first⟩
        | _ => exact .inr (by simp [ofJson, Fields.contains, named, first])
      | none =>
        cases second : Fields.get? "ops" fields with
        | some held =>
          cases held with
          | arr entries => exact .inl ⟨entries, .ops named first second⟩
          | _ => exact .inr (by simp [ofJson, Fields.contains, named, first, second])
        | none => exact .inr (by simp [ofJson, Fields.contains, named, first, second])
  | _ => exact .inr rfl

/--
What a value is read as.

It is read if it holds the entries of a patch, and then as the operations that these entries state.
Otherwise the one error says that there is no sequence of them.
-/
theorem ofJson_exact (value : Json) :
    (∀ patch, ofJson value = .ok patch ↔ ∃ entries, Holds value entries ∧ Kept entries patch)
      ∧ ∀ error, ofJson value = .error error ↔
        error = .noArray ∧ ∀ entries, ¬ Holds value entries := by
  rcases ofJson_cases value with ⟨entries, holds⟩ | unread
  -- All ways to hold entries are read alike, so the entries need not be the same ones.
  · have read := ofJson_of_holds holds
    refine ⟨fun patch => ⟨?_, ?_⟩, fun error => ?_⟩
    · -- What was read are the entries that are held.
      intro same
      rw [read] at same
      exact ⟨entries, holds, ofEntries_eq_iff.1 (Except.ok.inj same)⟩
    · -- Any entries that are held give the same patch.
      rintro ⟨others, otherHolds, kept⟩
      rw [ofJson_of_holds otherHolds, ofEntries_eq_iff.2 kept]
    · rw [read]
      exact iff_of_false nofun fun ⟨_, nothing⟩ => nothing entries holds
  · -- What holds entries would have been read.
    have nothing : ∀ entries, ¬ Holds value entries := by
      intro entries holds
      rw [ofJson_of_holds holds] at unread
      cases unread
    refine ⟨fun patch => ?_, fun error => ?_⟩
    · rw [unread]
      exact iff_of_false nofun fun ⟨entries, holds, _⟩ => nothing entries holds
    · rw [unread, Except.error.injEq]
      exact ⟨fun same => ⟨same.symm, nothing⟩, fun same => same.1.symm⟩

/-- Of two sequences `patch` is read, and an unknown kind or null among its entries is dropped. -/
example :
    let entry := (Operation.remove ⟨["a"]⟩).toJson
    ofJson (.obj [("ops", .arr []), ("patch", .arr [.obj [("op", .str "copy")], entry, .null])]) =
      .ok [.remove ⟨["a"]⟩] :=
  rfl

/-- A mapping that holds a sequence as `ops` is not read if it has null as `patch`. -/
theorem ops_hidden :
    let fields : Fields Json :=
      [("ops", .arr [(Operation.remove ⟨["a"]⟩).toJson]), ("patch", .null)]
    (∃ entries, Fields.get? "ops" fields = some (.arr entries)) ∧
      ¬ ∃ patch, ofJson (.obj fields) = .ok patch := by
  intro fields
  refine ⟨⟨_, rfl⟩, ?_⟩
  -- What was read is an error, whatever the patch.
  rintro ⟨patch, read⟩
  cases read

end Patch

end Minigame
