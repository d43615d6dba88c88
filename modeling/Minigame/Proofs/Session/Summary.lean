import Minigame.Proofs.Session.Atomicity
import Minigame.Text.Cut

/-!
The rolling summary of a game in closed form.

Each turn makes a new summary of the old one and its prompt, and cuts it again. What comes out is
the whole conversation cut once: a summary that was cut keeps its beginning, and all that a later
prompt adds falls behind the place of the cut.
-/

namespace Minigame

open Minigame.Text Minigame.Proposal

/-- What was said in a conversation, one turn after the other with a space between them. -/
def conversation (history : List Turn) : String :=
  " ".intercalate (history.map Turn.content)

/-- A text with no more characters than a limit, or its beginning with an ellipsis. -/
def shortened (limit : Nat) (text : String) : String :=
  if text.length ≤ limit then text else truncate (limit - 1) text ++ "…"

theorem toList_shortened (limit : Nat) (text : String) :
    (shortened limit text).toList = ellipsize limit text.toList := by
  -- Lengths are counted in characters on both sides.
  rw [shortened, ellipsize, String.length_toList]
  split
  · rfl
  · rw [String.toList_append, truncate, String.toList_ofList]
    rfl

/-- A conversation goes on behind a space, unless it has only begun. -/
theorem conversation_concat (history : List Turn) (turn : Turn) :
    conversation (history ++ [turn]) =
      if history = [] then turn.content else conversation history ++ " " ++ turn.content := by
  rw [conversation, List.map_append, List.map_singleton]
  split
  · next begun =>
    subst begun
    exact String.intercalate_singleton
  · -- A space stands between what was said and the new turn.
    next going =>
    have said : history.map Turn.content ≠ [] := by simpa using going
    rw [String.intercalate_append_of_ne_nil said (by simp), String.intercalate_singleton,
      conversation]

/-- A conversation that goes on goes on behind what was said. -/
theorem conversation_begins {history later : List Turn} (goes : history <+: later) :
    (conversation history).toList <+: (conversation later).toList := by
  obtain ⟨more, rfl⟩ := goes
  -- Only if there is something on both sides does a space stand between them.
  by_cases begun : history.map Turn.content = []
  · rw [conversation, begun, String.intercalate_nil]
    exact List.nil_prefix
  · by_cases on : more.map Turn.content = []
    · have same : conversation (history ++ more) = conversation history := by
        rw [conversation, conversation, List.map_append, on, List.append_nil]
      exact ⟨[], by rw [List.append_nil, same]⟩
    · rw [conversation, conversation, List.map_append,
        String.intercalate_append_of_ne_nil begun on, String.toList_append, String.toList_append,
        List.append_assoc]
      exact List.prefix_append _ _

section

variable {limit : Nat} {text : List Char}

theorem ellipsize_of_lt (long : limit < text.length) :
    ellipsize limit text = text.take (limit - 1) ++ ['…'] :=
  if_neg (Nat.not_le_of_lt long)

/-- What comes behind the place of the cut makes no difference. -/
theorem ellipsize_append (long : limit < text.length) (more : List Char) :
    ellipsize limit (text ++ more) = ellipsize limit text := by
  have longer : limit < (text ++ more).length := by
    rw [List.length_append]
    omega
  rw [ellipsize_of_lt longer, ellipsize_of_lt long, List.take_append_of_le_length (by omega)]

/-- A text that is cut is cut to the same however it goes on. -/
theorem shortened_of_prefix {text longer : String} (long : limit < text.length)
    -- What was added stands behind the place of the cut.
    (begins : text.toList <+: longer.toList) : shortened limit longer = shortened limit text := by
  obtain ⟨more, same⟩ := begins
  refine String.toList_injective ?_
  rw [toList_shortened, toList_shortened, ← same,
    ellipsize_append (by rwa [String.length_toList])]

/-- A text that was cut is cut at the same place again when it goes on. -/
theorem ellipsize_ellipsize_append (long : limit < text.length) (c : Char) (more : List Char) :
    ellipsize limit (ellipsize limit text ++ c :: more) = ellipsize limit text := by
  -- The first cut leaves the characters in front of its place, which is where the ellipsis stands.
  have kept : (text.take (limit - 1)).length = limit - 1 := by
    rw [List.length_take]
    omega
  have longer : limit < (text.take (limit - 1) ++ ('…' :: c :: more)).length := by
    rw [List.length_append, kept, List.length_cons, List.length_cons]
    omega
  rw [ellipsize_of_lt long, List.append_assoc, List.singleton_append, ellipsize_of_lt longer,
    List.take_append_of_le_length (by omega), List.take_of_length_le (by omega)]

variable (limit) in
/-- Cutting leaves no white space in front, neither of the text nor of the ellipsis. -/
theorem front_ellipsize (begun : text ≠ []) (front : ∀ c ∈ text.head?, isBlank c = false) :
    ∃ c rest, ellipsize limit text = c :: rest ∧ isBlank c = false := by
  obtain ⟨first, rest, rfl⟩ := List.exists_cons_of_ne_nil begun
  have first_front := front first rfl
  unfold ellipsize
  split
  · exact ⟨first, rest, rfl, first_front⟩
  · -- Of a text with one character or none nothing but the ellipsis is left.
    cases limit - 1 with
    | zero => exact ⟨'…', [], rfl, by decide⟩
    | succ room => exact ⟨first, _, rfl, first_front⟩

/-- A summary that goes on with a prompt is the cut of what was said with that prompt. -/
theorem ellipsize_trimChars_concat {prompt : List Char} (begun : text ≠ [])
    (front : ∀ c ∈ text.head?, isBlank c = false) (trimmed : trimChars prompt = prompt)
    (nonempty : prompt ≠ []) :
    ellipsize limit (trimChars (ellipsize limit text ++ ' ' :: prompt)) =
      ellipsize limit (text ++ ' ' :: prompt) := by
  -- Cut or not, the summary begins with a character that is not white space.
  obtain ⟨first, rest, cut, cut_front⟩ := front_ellipsize limit begun front
  obtain ⟨_, back⟩ := trimChars_eq_self_iff.1 trimmed
  -- There is nothing to trim: the summary stands in front and the prompt at the end.
  have same : trimChars (ellipsize limit text ++ ' ' :: prompt) =
      ellipsize limit text ++ ' ' :: prompt := by
    rw [trimChars_eq_self_iff, cut]
    refine ⟨fun c there => ?_, fun c there => back c ?_⟩
    · cases there
      exact cut_front
    · rwa [List.getLast?_append_of_ne_nil _ (by simp), List.getLast?_cons_of_ne_nil nonempty]
        at there
  rw [same]
  -- A summary that was cut takes no more; one that was not is the conversation itself.
  by_cases long : limit < text.length
  · rw [ellipsize_ellipsize_append long, ellipsize_append long]
  · rw [show ellipsize limit text = text from if_pos (Nat.le_of_not_lt long)]

end

namespace GameRecord

/-- All turns of a conversation say something, and the summary is the conversation in short. -/
structure Summed (limit : Nat) (record : GameRecord) : Prop where
  said : ∀ turn ∈ record.history, trim turn.content = turn.content ∧ turn.content ≠ ""
  summary : record.summary = shortened limit (conversation record.history)

namespace Summed

variable {limit : Nat} {record : GameRecord}

/-- Before the first turn there is nothing to sum up. -/
theorem draft (id : GameId) (user : String) (creatorName : Option String) (now : Timestamp)
    (autoDeleteHours : Int) :
    (GameRecord.draft id user creatorName now autoDeleteHours).Summed limit where
  said _ listed := by cases listed
  summary := by simp [GameRecord.draft, conversation, shortened]

variable (summed : record.Summed limit)
include summed

/-- What was said in a conversation that has begun has no white space in front. -/
theorem front (going : record.history ≠ []) :
    (conversation record.history).toList ≠ [] ∧
    ∀ c ∈ (conversation record.history).toList.head?, isBlank c = false := by
  obtain ⟨turn, rest, same⟩ := List.exists_cons_of_ne_nil going
  obtain ⟨trimmed, nonempty⟩ := summed.said turn (by simp [same])
  -- It begins with what the first turn says.
  obtain ⟨more, begins⟩ : ∃ more,
      (conversation record.history).toList = turn.content.toList ++ more := by
    rw [same, conversation, List.map_cons, String.toList_intercalate]
    cases rest with
    | nil => exact ⟨[], by simp⟩
    -- More turns follow behind a space.
    | cons next others =>
      rw [List.map_cons, List.map_cons, List.map_cons, List.intercalate_cons_cons,
        List.append_assoc]
      exact ⟨_, rfl⟩
  have chars : trimChars turn.content.toList = turn.content.toList := by
    rw [← trimmed, trim, String.toList_ofList, trimChars_trimChars]
  have filled : turn.content.toList ≠ [] := by simpa using nonempty
  rw [begins]
  refine ⟨by simp [filled], fun c there => (trimChars_eq_self_iff.1 chars).1 c ?_⟩
  rwa [List.head?_append_of_ne_nil _ filled] at there

/-- One more prompt makes of the summary that of the conversation with the prompt. -/
theorem summarize_eq {prompt : String} (trimmed : trim prompt = prompt) (nonempty : prompt ≠ "") :
    summarize record.summary prompt limit =
      shortened limit (conversation (record.history ++ [⟨.user, prompt⟩])) := by
  have chars : trimChars prompt.toList = prompt.toList := by
    rw [← trimmed, trim, String.toList_ofList, trimChars_trimChars]
  have filled : prompt.toList ≠ [] := by simpa using nonempty
  refine String.toList_injective ?_
  rw [summarize, String.toList_ofList, summed.summary, toList_shortened, toList_shortened,
    conversation_concat]
  by_cases begun : record.history = []
  · -- The space in front of the first prompt is trimmed away.
    have blank : trimChars (' ' :: prompt.toList) = trimChars prompt.toList := rfl
    rw [if_pos begun, begun]
    simp only [conversation, List.map_nil, String.intercalate_nil, String.toList_empty, ellipsize,
      List.length_nil, Nat.zero_le, if_true, List.nil_append, blank, chars]
  · -- What was said begins with no white space, so the lemma about one more prompt applies.
    obtain ⟨text, front⟩ := summed.front begun
    rw [if_neg begun, ellipsize_trimChars_concat text front chars filled, String.toList_append,
      String.toList_append, List.append_assoc]
    rfl

end Summed

end GameRecord

namespace Studio

variable {κ : Type}

/-- New records are summed up, and whatever a call has read, it writes a record that is. -/
theorem keeps_summed (studio : Studio κ Records) :
    studio.Keeps (GameRecord.Summed studio.settings.summaryChars) fun _ => True where
  draft id user creatorName now := .draft id user creatorName now studio.settings.autoDeleteHours
  written now memory pending _ fit summed := by
    obtain ⟨id, record, work⟩ := pending
    cases work with
    | turn compiles prompt =>
      obtain ⟨trimmed, nonempty⟩ := fit.work
      refine ⟨fun turn listed => ?_, summed.summarize_eq trimmed nonempty⟩
      -- The prompt of the turn is the one new entry.
      rcases List.mem_append.1 listed with earlier | last
      · exact summed.said turn earlier
      · cases List.mem_singleton.1 last
        exact ⟨trimmed, nonempty⟩
    -- The other calls leave the conversation and the summary as they read them.
    | compile => exact ⟨summed.said, summed.summary⟩
    | publish title description html => exact ⟨summed.said, summed.summary⟩
  remembered _ _ _ _ _ := trivial

/-- A conversation goes on where it was, if it goes on at all. -/
theorem written_history (studio : Studio κ Records) (now : Timestamp) (memory : Memory κ)
    (pending : Pending) :
    pending.record.history <+: (studio.written now memory pending).history := by
  -- Only a turn adds to the conversation, and it adds at the end.
  unfold written
  split
  · exact List.prefix_append _ _
  · exact List.prefix_rfl
  · exact List.prefix_rfl

section

variable {studio : Studio κ Records} (inMemory : studio.records = .memory) {id : GameId}
  {record : GameRecord}
include inMemory

/-- A call leaves every game there, with a conversation that goes on where it was. -/
theorem serve_history {state : StudioState κ Records} (own : state.records.Own)
    (there : state.records.get? id = some record) (now : Timestamp) (call : SessionCall) :
    ∃ next, (studio.serve now state call).2.records.get? id = some next ∧
      record.history <+: next.history := by
  by_cases other : id ≠ call.game
  · -- A call leaves the games of others alone.
    exact ⟨record, (serve_get?_ne inMemory own now other).trans there, List.prefix_rfl⟩
  obtain rfl : id = call.game := not_ne_iff.1 other
  cases call with
  | create user creatorName made =>
    -- There is the game already, so none is made.
    have taken : state.records.get? made = some record := there
    rw [serve, create_taken inMemory user creatorName now taken]
    exact ⟨record, there, List.prefix_rfl⟩
  | play _ => exact ⟨record, there, List.prefix_rfl⟩
  | change user changed edit =>
    cases started : studio.start user changed state edit with
    | error error =>
      rw [serve_refused now started]
      exact ⟨record, there, List.prefix_rfl⟩
    | ok pending =>
      -- The call goes on with the conversation that it has read.
      obtain ⟨rfl, read, _⟩ := start_ok inMemory started
      obtain rfl : pending.record = record := Option.some.inj (read.symm.trans there)
      rw [serve_started now started]
      exact ⟨_, finish_get?_self inMemory own read now,
        studio.written_history now state.proposals pending⟩

/-- Calls leave every game there, with a conversation that goes on where it was. -/
theorem after_history {fits : GameRecord → Prop} {safe : Memory κ → Prop}
    (keeps : studio.Keeps fits safe) {state : StudioState κ Records}
    (holds : Underway.Holds fits safe ⟨state, []⟩) (there : state.records.get? id = some record)
    (calls : List (Timestamp × SessionCall)) :
    ∃ next, (studio.after calls state).records.get? id = some next ∧
      record.history <+: next.history := by
  -- By induction on the calls, with the record that the first one leaves for the others.
  induction calls generalizing state record with
  | nil => exact ⟨record, there, List.prefix_rfl⟩
  | cons call rest ih =>
    -- What holds now holds after the first call, so the induction goes on from there.
    have own : state.records.Own := fun id record there => (holds.stored id record there).1
    obtain ⟨next, found, goes⟩ := serve_history inMemory own there call.1 call.2
    have kept : Underway.Holds fits safe ⟨(studio.serve call.1 state call.2).2, []⟩ :=
      holds.after inMemory keeps [call]
    obtain ⟨last, listed, more⟩ := ih kept found
    exact ⟨last, listed, goes.trans more⟩

/--
The summary of a game is its conversation, cut where it is longer than a summary may be.

So it is after any calls, however they overlap. Once something was cut off, later calls leave the
summary as it is.
-/
theorem summary_closed (proposals : Memory κ) (events : List (SessionEvent κ)) :
    let limit := studio.settings.summaryChars
    let state := (studio.run events (.fresh proposals)).state
    ∀ id record, state.records.get? id = some record →
      (∀ turn ∈ record.history, trim turn.content = turn.content) ∧
      record.summary = shortened limit (conversation record.history) ∧
      (limit < (conversation record.history).length → ∀ calls, ∃ next,
        (studio.after calls state).records.get? id = some next ∧
          record.history <+: next.history ∧ next.summary = record.summary) := by
  intro limit state id record there
  -- Calls that are served in turn start from what the overlapping ones have left.
  have keeps := studio.keeps_summed
  have holds : (studio.run events (.fresh proposals)).Holds (GameRecord.Summed limit)
      fun _ => True := .reached inMemory keeps trivial fun event _ => event.stirs_true
  have rested : Underway.Holds (GameRecord.Summed limit) (fun _ => True) ⟨state, []⟩ :=
    ⟨holds.stored, fun _ listed => (by cases listed), trivial⟩
  obtain ⟨_, summed⟩ := holds.stored id record there
  refine ⟨fun turn listed => (summed.said turn listed).1, summed.summary, fun long calls => ?_⟩
  obtain ⟨next, found, goes⟩ := after_history inMemory keeps rested there calls
  obtain ⟨_, next_summed⟩ := (rested.after inMemory keeps calls).stored id next found
  refine ⟨next, found, goes, ?_⟩
  rw [next_summed.summary, summed.summary, shortened_of_prefix long (conversation_begins goes)]

end

/-- A prompt that does not fit is cut, and a prompt behind it changes nothing. -/
theorem summary_closed_cut :
    let studio := Studio.inMemory { SessionSettings.default with summaryChars := 5 } none
    let events : List (SessionEvent (List (Digest × Patch))) :=
      [.create "ann" none ⟨1⟩ ⟨0, 0⟩, .read "ann" ⟨1⟩ (.turn false "bubbles"), .write 0 ⟨1, 0⟩]
    let state := (studio.run events (.fresh ⟨[], []⟩)).state
    ∃ record, state.records.get? ⟨1⟩ = some record ∧ record.summary = "bubb…" ∧
      ∃ next, (studio.after [(⟨2, 0⟩, .change "ann" ⟨1⟩ (.turn true "maze"))] state).records.get?
        ⟨1⟩ = some next ∧ next.summary = "bubb…" := by
  intro studio events state
  have said : (state.records.get? ⟨1⟩).map GameRecord.history = some [⟨.user, "bubbles"⟩] := by
    decide +kernel
  obtain ⟨record, there, history⟩ := Option.map_eq_some_iff.1 said
  obtain ⟨_, summary, kept⟩ := summary_closed rfl ⟨[], []⟩ events ⟨1⟩ record there
  have cut : record.summary = "bubb…" := by
    rw [summary, history]
    decide +kernel
  have long : 5 < (conversation record.history).length := by
    rw [history]
    decide +kernel
  obtain ⟨next, found, _, same⟩ := kept long [(⟨2, 0⟩, .change "ann" ⟨1⟩ (.turn true "maze"))]
  exact ⟨record, there, cut, next, found, same.trans cut⟩

end Studio

end Minigame
