import Minigame.Json.Parser
import Minigame.Proofs.Json.Order

/-! Every document that is read from text is ordered. -/

namespace Minigame.Json

/-- What the tokens can be that one character completes: the character itself, or what it ends. -/
inductive Token.MadeBy (c : Char) : Token → Prop where
  | mark {token : Token} (known : punctuation? c = some token) : MadeBy c token
  | text (value : String) : MadeBy c (.text value)
  | scalar {value : Json} (ordered : value.Ordered) : MadeBy c (.scalar value)

namespace Lexer

variable {lexer next : Lexer} {c : Char} {tokens : List Token}

/-- The value of a word is ordered. -/
theorem wordValue?_ordered {letters : List Char} {value : Json}
    (read : wordValue? letters = some value) : value.Ordered := by
  unfold wordValue? at read
  -- There are three words, and none of them stands for a container.
  split at read
  · cases read; exact .null
  · split at read
    · cases read; exact .bool true
    · split at read
      · cases read; exact .bool false
      · cases read

/-- A character between two tokens is a mark itself or completes nothing. -/
theorem madeBy_of_start (read : start c = some (tokens, next)) :
    ∀ token ∈ tokens, token.MadeBy c := by
  -- Only a mark is a token of its own; everything else begins one.
  unfold start at read
  repeat' split at read
  case isFalse =>
    obtain ⟨mark, known, same⟩ := Option.map_eq_some_iff.1 read
    cases same
    simpa using Token.MadeBy.mark known
  all_goals
    cases read
    simp

/-- What ends is nothing between two tokens, and otherwise the value of a word or a number. -/
theorem pending_cases (ended : lexer.pending = some tokens) :
    (lexer = .between ∧ tokens = []) ∨
      ∃ value : Json, value.Ordered ∧ tokens = [.scalar value] := by
  -- A text, an escape or a code is not complete without its last character.
  cases lexer with
  | word letters =>
    obtain ⟨value, read, rfl⟩ := Option.map_eq_some_iff.1 ended
    exact .inr ⟨value, wordValue?_ordered read, rfl⟩
  | number characters =>
    obtain ⟨value, _, rfl⟩ := Option.map_eq_some_iff.1 ended
    exact .inr ⟨.num value, .num value, rfl⟩
  | between =>
    cases ended
    exact .inl ⟨rfl, rfl⟩
  | _ => cases ended

/-- A character that ends a word or a number completes it and may be a mark. -/
theorem madeBy_of_restart (read : lexer.restart c = some (tokens, next)) :
    ∀ token ∈ tokens, token.MadeBy c := by
  simp only [restart, Option.bind_eq_bind, Option.bind_eq_some_iff] at read
  -- The word or the number is over, and then the character starts anew.
  obtain ⟨ended, pending, ⟨begun, _⟩, started, same⟩ := read
  cases same
  -- The token in front is a value that has ended; the character itself comes after it.
  have values : ∀ token ∈ ended, token.MadeBy c := by
    rcases pending_cases pending with ⟨-, rfl⟩ | ⟨value, ordered, rfl⟩
    · simp
    · simpa using Token.MadeBy.scalar ordered
  intro token there
  exact (List.mem_append.1 there).elim (values token) (madeBy_of_start started token)

/-- The tokens that one character completes are made by it. -/
theorem madeBy_of_step (read : lexer.step c = some (tokens, next)) :
    ∀ token ∈ tokens, token.MadeBy c := by
  -- What the character does depends on what it comes into.
  cases lexer with
  | between => exact madeBy_of_start read
  | word letters =>
    simp only [step] at read
    split at read
    · cases read; simp
    · -- A character that is no letter ends the word.
      exact madeBy_of_restart read
  | number characters =>
    simp only [step] at read
    split at read
    · cases read; simp
    · -- A character that no number has ends the number.
      exact madeBy_of_restart read
  | text done =>
    simp only [step] at read
    repeat' split at read
    all_goals cases read
    -- Only the closing quote completes a text.
    all_goals simp [Token.MadeBy.text]
  | escape done =>
    simp only [step] at read
    split at read
    · cases read; simp
    · obtain ⟨plain, _, same⟩ := Option.map_eq_some_iff.1 read
      cases same; simp
  | code done high count value =>
    simp only [step, Option.bind_eq_some_iff] at read
    obtain ⟨digit, _, read⟩ := read
    split at read
    · -- Escapes and their codes complete nothing.
      cases read; simp
    · obtain ⟨plain, _, same⟩ := Option.map_eq_some_iff.1 read
      cases same; simp
  | pairEscape done high =>
    simp only [step] at read
    split at read <;> cases read
    simp
  | pairMark done high =>
    simp only [step] at read
    split at read <;> cases read
    simp

end Lexer

/-- The value that a token stands for is ordered. -/
def Token.Ordered : Token → Prop
  | .scalar value => value.Ordered
  | _ => True

/-- Only ordered values are made of characters. -/
theorem Token.MadeBy.ordered {c : Char} {token : Token} (made : token.MadeBy c) :
    token.Ordered := by
  cases made with
  | mark known =>
    -- Marks carry no value.
    unfold punctuation? at known
    split at known <;> cases known <;> trivial
  | text value => trivial
  | scalar ordered => exact ordered

/-- What an open container holds is ordered. -/
def Frame.Ordered : Frame → Prop
  | .items done => Json.Ordered (.arr done)
  | .fields done _ => Json.Ordered (.obj done)

namespace Builder

/-- What has been read of a value is ordered, in the innermost container and in those around it. -/
def Ordered : Builder → Prop
  | .expectValue outer | .firstItem outer | .firstName outer => ∀ frame ∈ outer, frame.Ordered
  | .expectName done outer | .expectColon done _ outer | .afterField done outer =>
    Json.Ordered (.obj done) ∧ ∀ frame ∈ outer, frame.Ordered
  | .afterItem done outer => Json.Ordered (.arr done) ∧ ∀ frame ∈ outer, frame.Ordered
  | .complete value => value.Ordered

/-- A value that is handed to the container around it keeps what has been read ordered. -/
theorem deliver_ordered {value : Json} {outer : List Frame} (fits : value.Ordered)
    (around : ∀ frame ∈ outer, frame.Ordered) : (deliver value outer).Ordered := by
  cases outer with
  | nil => exact fits
  | cons frame outer =>
    obtain ⟨here, further⟩ := List.forall_mem_cons.1 around
    cases frame with
    -- The value becomes an entry of the sequence around it.
    | items done => exact ⟨.arr (List.forall_mem_cons.2 ⟨fits, fun _ => here.of_mem⟩), further⟩
    -- The value is set under its name, in its place among the others.
    | fields done name => exact ⟨here.set name fits, further⟩

/-- The first token of a value keeps what has been read ordered. -/
theorem begin_ordered {outer : List Frame} {token : Token} {next : Builder}
    (fits : token.Ordered) (around : ∀ frame ∈ outer, frame.Ordered)
    (begun : begin outer token = some next) : next.Ordered := by
  unfold begin at begun
  split at begun
  · -- A scalar and a text are whole values.
    cases begun; exact deliver_ordered fits around
  · cases begun; exact deliver_ordered (.str _) around
  · -- An opening mark puts one more container around what comes next, if there is room for it.
    split at begun <;> cases begun
    exact around
  · split at begun <;> cases begun
    exact around
  · cases begun

/-- Every token keeps what has been read ordered. -/
theorem push_ordered {builder next : Builder} {token : Token} (ordered : builder.Ordered)
    (fits : token.Ordered) (pushed : builder.push token = some next) : next.Ordered := by
  -- A container is only ever handed on with what has been read into it so far.
  unfold push at pushed
  split at pushed
  · exact begin_ordered fits ordered pushed
  · cases pushed; exact deliver_ordered (.arr (by simp)) ordered
  · -- The first item comes into an empty sequence.
    have empty : Frame.Ordered (.items []) := Json.Ordered.arr (by simp)
    exact begin_ordered fits (List.forall_mem_cons.2 ⟨empty, ordered⟩) pushed
  · -- A mapping may close at once.
    cases pushed; exact deliver_ordered .obj_nil ordered
  · cases pushed; exact ⟨.obj_nil, ordered⟩
  · cases pushed; exact ordered
  · -- The container around the value now holds what has been read of it.
    cases pushed; exact List.forall_mem_cons.2 ordered
  · cases pushed; exact List.forall_mem_cons.2 ordered
  · cases pushed
    -- The entries of a sequence are turned around when it closes.
    exact deliver_ordered (.arr fun _ there => ordered.1.of_mem (List.mem_reverse.1 there)) ordered.2
  · cases pushed; exact ordered
  · cases pushed; exact deliver_ordered ordered.1 ordered.2
  · cases pushed

end Builder

/-- What every step keeps holds at the end of a run that does not fail. -/
theorem foldlM_kept {σ α : Type} {step : σ → α → Option σ} (kept : σ → Prop) {inputs : List α}
    (each : ∀ state, kept state → ∀ input ∈ inputs, ∀ next, step state input = some next →
      kept next) {state last : σ} (start : kept state)
    (ran : inputs.foldlM step state = some last) : kept last := by
  -- A run that does not fail has a state behind each of its steps.
  induction inputs generalizing state with
  | nil => cases ran; exact start
  | cons input rest ih =>
    rw [List.foldlM_cons, Option.bind_eq_bind, Option.bind_eq_some_iff] at ran
    obtain ⟨next, first, later⟩ := ran
    exact ih (fun state keeps other there => each state keeps other (List.mem_cons_of_mem _ there))
      (each state start input (List.mem_cons_self ..) next first) later

/-- One character keeps what has been read ordered. -/
theorem Reader.step_ordered {reader next : Reader} {c : Char} (ordered : reader.builder.Ordered)
    (read : reader.step c = some next) : next.builder.Ordered := by
  simp only [Reader.step, Option.bind_eq_bind, Option.bind_eq_some_iff] at read
  obtain ⟨⟨tokens, lexer⟩, lexed, builder, pushed, same⟩ := read
  -- The tokens that the character completes are pushed one after the other.
  cases same
  exact foldlM_kept Builder.Ordered (fun state keeps token there next =>
    Builder.push_ordered keeps (Lexer.madeBy_of_step lexed token there).ordered) ordered pushed

/-- The value at the end of a text is ordered. -/
theorem Reader.finish_ordered {reader : Reader} {value : Json} (ordered : reader.builder.Ordered)
    (read : reader.finish = some value) : value.Ordered := by
  simp only [Reader.finish, Option.bind_eq_bind, Option.bind_eq_some_iff] at read
  obtain ⟨tokens, ended, builder, pushed, read⟩ := read
  -- The end of the text completes a word or a number, and nothing else.
  have values : ∀ token ∈ tokens, token.Ordered := by
    rcases Lexer.pending_cases ended with ⟨-, rfl⟩ | ⟨value, fits, rfl⟩
    · simp
    · simpa [Token.Ordered] using fits
  have last : builder.Ordered := foldlM_kept Builder.Ordered (fun state keeps token there next =>
    Builder.push_ordered keeps (values token there)) ordered pushed
  -- Only a value that is complete is given back.
  split at read
  · cases read; exact last
  · cases read

/-- Every document that is read from text is ordered. -/
theorem parse_ordered {text : String} {value : Json} (read : parse text = some value) :
    value.Ordered := by
  -- A text is read character by character, starting with nothing that could be out of order.
  obtain ⟨reader, ran, finished⟩ := Option.bind_eq_some_iff.1 read
  have ordered : reader.builder.Ordered := foldlM_kept (fun reader => reader.builder.Ordered)
    (fun _ keeps _ _ _ => Reader.step_ordered keeps) (by simp [Reader.initial, Builder.Ordered]) ran
  exact Reader.finish_ordered ordered finished

end Minigame.Json
