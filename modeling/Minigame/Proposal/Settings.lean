import Minigame.Json.Printer
import Minigame.Json.Record
import Minigame.Decimal.Reading
import Minigame.Text.Blank

/-! The settings of the way from a prompt to a proposal. -/

namespace Minigame

open Minigame.Text Minigame.Decimal

/-- The settings of the way from a prompt to a proposal. -/
structure ProposalSettings where
  apiKey : Option String
  model : String
  baseUrl : String
  apiVersion : String
  timeoutMs : Nat
  maxTokens : Nat
  temperature : Float32
  proposalTtlSecs : Nat
  cacheCapacity : Nat
  /-- How many characters of a prompt count for the key of a proposal. -/
  promptKeyChars : Nat
  /-- How many characters of a summary count for the key of a proposal. -/
  summaryKeyChars : Nat
  /-- How many characters of a summary are used at all. -/
  summaryChars : Nat
  directModeKeyword : String

namespace ProposalSettings

/-- The settings where nothing else is said. -/
def default : ProposalSettings where
  apiKey := none
  model := "claude-3-5-haiku-20241022"
  baseUrl := "https://api.anthropic.com"
  apiVersion := "2023-06-01"
  timeoutMs := 15000
  maxTokens := 800
  temperature := 0.2
  proposalTtlSecs := 1800
  cacheCapacity := 10000
  promptKeyChars := 400
  summaryKeyChars := 200
  summaryChars := 300
  directModeKeyword := "direct:"

/-- A service is asked only with a key for it. -/
def hasService (settings : ProposalSettings) : Bool :=
  settings.apiKey.isSome

/-- How long a proposal is kept, in milliseconds. -/
def proposalTtlMs (settings : ProposalSettings) : Nat :=
  1000 * settings.proposalTtlSecs

/-- The settings with proposals kept for a time in milliseconds, of which whole seconds count. -/
def withProposalTtlMs (settings : ProposalSettings) (ms : Nat) : ProposalSettings :=
  { settings with proposalTtlSecs := ms / 1000 }

/--
Numbers of 32 bits are written with the fewest digits that identify them: without an exponent from
`0.000001` up to thirteen whole digits, and always with a point or an exponent.
-/
def singleLayout : Layout where
  plainFrom := -6
  plainBelow := 13
  pointZero := true

/-- The text of a number of 32 bits; one that is not finite has none and is null. -/
def singleChars (value : Float32) : List Char :=
  let bits := value.toBits.toNat
  if binary32.isFinite bits then singleLayout.writeBits binary32 bits else Json.null.chars

/-- The written form, in the order of declaration; the key for the service is left out. -/
def chars (settings : ProposalSettings) : List Char :=
  -- Numbers are written in plain digits, and the temperature as the single it is.
  let text := Json.stringChars
  let number := Nat.toDigits 10
  Json.mappingChars
    [("model", text settings.model), ("base_url", text settings.baseUrl),
     ("anthropic_version", text settings.apiVersion), ("timeout_ms", number settings.timeoutMs),
     ("max_tokens", number settings.maxTokens), ("temperature", singleChars settings.temperature),
     ("proposal_ttl_secs", number settings.proposalTtlSecs),
     ("cache_capacity", number settings.cacheCapacity),
     ("prompt_key_chars", number settings.promptKeyChars),
     ("summary_key_chars", number settings.summaryKeyChars),
     ("summary_chars", number settings.summaryChars),
     ("direct_mode_keyword", text settings.directModeKeyword)]

/-- The written form as a string. -/
def text (settings : ProposalSettings) : String :=
  String.ofList settings.chars

/-- The number of fields in the written form that are read. -/
def size : Nat := 13

/-- Reads settings from their fields; what is missing has its default. -/
def ofRecord? (record : Record) : Option ProposalSettings := do
  -- The fields are numbered in the order of declaration, for the form without names.
  let base := default
  let apiKey ← record.optional 0 "api_key" Json.asString?
  let model ← record.withDefault 1 "model" base.model Json.asString?
  let baseUrl ← record.withDefault 2 "base_url" base.baseUrl Json.asString?
  let apiVersion ← record.withDefault 3 "anthropic_version" base.apiVersion Json.asString?
  let timeoutMs ← record.withDefault 4 "timeout_ms" base.timeoutMs (Json.asUnsigned? 64)
  let maxTokens ← record.withDefault 5 "max_tokens" base.maxTokens (Json.asUnsigned? 32)
  let temperature ← record.withDefault 6 "temperature" base.temperature Json.asFloat32?
  let proposalTtlSecs ←
    record.withDefault 7 "proposal_ttl_secs" base.proposalTtlSecs (Json.asUnsigned? 64)
  let cacheCapacity ← record.withDefault 8 "cache_capacity" base.cacheCapacity (Json.asUnsigned? 64)
  let promptKeyChars ←
    record.withDefault 9 "prompt_key_chars" base.promptKeyChars (Json.asUnsigned? 64)
  let summaryKeyChars ←
    record.withDefault 10 "summary_key_chars" base.summaryKeyChars (Json.asUnsigned? 64)
  let summaryChars ← record.withDefault 11 "summary_chars" base.summaryChars (Json.asUnsigned? 64)
  let directModeKeyword ←
    record.withDefault 12 "direct_mode_keyword" base.directModeKeyword Json.asString?
  return { apiKey, model, baseUrl, apiVersion, timeoutMs, maxTokens, temperature, proposalTtlSecs,
           cacheCapacity, promptKeyChars, summaryKeyChars, summaryChars, directModeKeyword }

/-- Reads settings from a JSON value. -/
def ofJson? (value : Json) : Option ProposalSettings :=
  (Record.ofJson? size value).bind ofRecord?

/-- Reads settings from a TOML value, of which a sequence may be longer than needed. -/
def ofToml? (value : Json) : Option ProposalSettings :=
  (Record.ofLongJson? value).bind ofRecord?

/-- The settings that environment variables ask for; a number that cannot be read is not set. -/
def ofEnvironment (lookup : String → Option String) : ProposalSettings :=
  -- An empty variable counts as one that is not set.
  let base := default
  let text (name : String) := (lookup name).filter (· ≠ "")
  let number (name : String) := (lookup name).bind fun text => readUnsigned? 64 text.toList
  { base with
    apiKey := (lookup "ANTHROPIC_API_KEY").filter (!isBlankText ·)
    model := (text "ANTHROPIC_MODEL").getD base.model
    baseUrl := (text "ANTHROPIC_BASE_URL").getD base.baseUrl
    timeoutMs := ((number "INTENT_TIMEOUT_MS").map (max 100)).getD base.timeoutMs
    proposalTtlSecs := (number "PROPOSAL_TTL_SECS").getD base.proposalTtlSecs
    cacheCapacity := (number "PROPOSAL_CACHE_CAPACITY").getD base.cacheCapacity }

end ProposalSettings

end Minigame
