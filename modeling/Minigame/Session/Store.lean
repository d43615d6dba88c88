import Minigame.Session.Record
import Minigame.Text.Utf8

/-! Where the records of games and their published pages are kept. -/

namespace Minigame

/-- Why a store did not do what it was asked for. -/
inductive StoreError where
  | unavailable (detail : String)
  | duplicate (id : GameId)
  deriving DecidableEq

/-- The text of a store error. -/
def StoreError.message : StoreError → String
  | .unavailable detail => "store unavailable: " ++ detail
  | .duplicate id => "duplicate record: " ++ id.text

/-- A store of records over contents of some type. -/
structure RecordStore (ρ : Type) where
  /-- Adds the record of a new game. -/
  insert : GameRecord → ρ → Except StoreError ρ
  get : GameId → ρ → Except StoreError (Option GameRecord)
  /-- Writes a record in place of the one that was there. -/
  put : GameRecord → ρ → Except StoreError ρ

/-- Records kept in memory, at most one for a game. -/
abbrev Records := List (GameId × GameRecord)

namespace Records

/-- The record of a game. -/
def get? (id : GameId) (records : Records) : Option GameRecord :=
  records.lookup id

/-- Writes a record in place of the one that was there. -/
def set (record : GameRecord) (records : Records) : Records :=
  (record.id, record) :: records.filter fun entry => entry.1 != record.id

/-- A record that was written is read back. -/
@[simp] theorem get?_set_self (record : GameRecord) (records : Records) :
    (records.set record).get? record.id = some record := by
  simp [get?, set]

/-- Writing a record leaves those of other games as they are. -/
theorem get?_set_ne {id : GameId} {record : GameRecord} (different : id ≠ record.id)
    (records : Records) : (records.set record).get? id = records.get? id := by
  -- The entries that go have the identifier of the record that is written.
  simp only [get?, set, List.lookup_cons, beq_false_of_ne different]
  induction records with
  | nil => rfl
  | cons entry rest ih =>
    by_cases gone : entry.1 = record.id
    · rw [List.filter_cons_of_neg (by simp [gone]), ih, List.lookup_cons,
        beq_false_of_ne (gone ▸ different)]
    · rw [List.filter_cons_of_pos (by simp [gone]), List.lookup_cons, List.lookup_cons, ih]

/-- What is found after writing a record is that record, or it was there before. -/
theorem of_get?_set {id : GameId} {record found : GameRecord} {records : Records}
    (there : (records.set record).get? id = some found) :
    id = record.id ∧ found = record ∨ records.get? id = some found := by
  by_cases same : id = record.id
  · subst same
    exact .inl ⟨rfl, Option.some.inj (there.symm.trans (get?_set_self record records))⟩
  · rw [get?_set_ne same] at there
    exact .inr there

end Records

/-- The store that keeps records in memory and is always available. -/
def RecordStore.memory : RecordStore Records where
  insert record records :=
    if (records.get? record.id).isSome then .error (.duplicate record.id)
    else .ok (records.set record)
  get id records := .ok (records.get? id)
  put record records := .ok (records.set record)

/-- A published page. -/
structure StoredPage where
  body : List UInt8
  contentType : String
  deriving DecidableEq

/-- The kind of content that pages are published with. -/
def htmlContentType : String := "text/html; charset=utf-8"

/-- Published pages by their paths. -/
abbrev Pages := List (String × StoredPage)

end Minigame
