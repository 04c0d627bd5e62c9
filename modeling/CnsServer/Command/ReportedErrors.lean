/-
What is said about a request that is refused.

* `ProtocolError.Reported`: an error code of the protocol, and a message;
* `parseSourceRequest_reported`, `resolveControlTarget_reported`: every error of the
  parsers and of the router is one;
* `requestIdOf_valid`, `parseEnvelope_requestId`: the request number that is kept is
  valid.
-/
import CnsServer.Command.DevicePolicy
import CnsServer.Command.Router

namespace CnsServer

/-- The error has an error code of the protocol, and a message. -/
def ProtocolError.Reported (error : ProtocolError) : Prop :=
  isValidErrorCode error.code = true ∧ error.message ≠ ""

instance (error : ProtocolError) : Decidable error.Reported :=
  inferInstanceAs (Decidable (_ ∧ _))

/-! ### Parsers -/

section

variable {error : ProtocolError}

/-- Each part of a body is refused with an error of the protocol. -/
lemma parseTarget_reported {value : Json} {kind : SourceKind}
    (h : parseTarget value kind = .error error) : error.Reported := by
  rw [parseTarget.eq_def] at h
  repeat' split at h
  all_goals cases h
  all_goals decide +kernel

lemma parseParameters_reported {value : Json} (h : parseParameters value = .error error) :
    error.Reported := by
  simp only [parseParameters] at h
  repeat' split at h
  all_goals cases h
  all_goals decide +kernel

lemma parseControlCommand_reported {root : Json} (h : parseControlCommand root = .error error) :
    error.Reported := by
  rw [parseControlCommand] at h
  repeat' split at h
  all_goals cases h
  all_goals decide +kernel

lemma parseControlParameters_reported {value : Json} {command : ControlCommand}
    (h : parseControlParameters value command = .error error) : error.Reported := by
  rw [parseControlParameters.eq_def] at h
  repeat' split at h
  all_goals cases h
  all_goals decide +kernel

/-- The request number that is kept of a refused body is a valid one. -/
lemma requestIdOf_valid {root : Json} {requestId : String} (h : requestIdOf root = some requestId) :
    isValidRequestId requestId = true := by
  rw [requestIdOf] at h
  split at h
  · split at h
    · cases h
      assumption
    · cases h
  · cases h

/-- A request number that is kept is valid, and an error is reported. -/
structure ParsedSourceRequest.Reported (parsed : ParsedSourceRequest) : Prop where
  requestId : ∀ requestId ∈ parsed.requestId, isValidRequestId requestId = true
  error : ∀ rejected, parsed = .rejected rejected → rejected.error.Reported

lemma ParsedSourceRequest.Reported.of_rejected {requestId : Option String}
    {comparisonPayload : Option Json}
    (hrequestId : ∀ id ∈ requestId, isValidRequestId id = true) (herror : error.Reported) :
    (ParsedSourceRequest.rejected ⟨requestId, comparisonPayload, error⟩).Reported :=
  ⟨hrequestId, fun _ hsame => by cases hsame; exact herror⟩

/-- What the envelope refuses keeps a valid number, if any. -/
lemma parseEnvelope_reported {allowed : List String} {root : Json} {kind : SourceKind}
    {rejected : RejectedSourceRequest} (h : parseEnvelope allowed root kind = .error rejected) :
    (ParsedSourceRequest.rejected rejected).Reported := by
  rw [parseEnvelope] at h
  split at h
  · cases h
    exact .of_rejected nofun (by decide +kernel)
  split at h
  · cases h
    exact .of_rejected nofun (by decide +kernel)
  next requestId hrequestId =>
  have hvalid : ∀ id ∈ some requestId, isValidRequestId id = true := by
    rintro id ⟨⟩
    exact requestIdOf_valid hrequestId
  split at h
  · cases h
    exact .of_rejected hvalid (by decide +kernel)
  split at h
  · cases h
    exact .of_rejected hvalid (by decide +kernel)
  split at h
  · cases h
    exact .of_rejected hvalid (by decide +kernel)
  split at h
  · next hfailed =>
      cases h
      exact .of_rejected hvalid (parseTarget_reported hfailed)
  · cases h

/-- An accepted envelope has a valid request number. -/
lemma parseEnvelope_requestId {allowed : List String} {root : Json} {kind : SourceKind}
    {requestId : String} {target : RequestTarget}
    (h : parseEnvelope allowed root kind = .ok (requestId, target)) :
    isValidRequestId requestId = true := by
  rw [parseEnvelope] at h
  repeat' split at h
  all_goals first | contradiction | skip
  cases h
  exact requestIdOf_valid (by assumption)

end

lemma parseSourceConfigJson_reported (root : Json) (kind : SourceKind) :
    (parseSourceConfigJson root kind).Reported := by
  rw [parseSourceConfigJson]
  split
  · next hfailed => exact parseEnvelope_reported hfailed
  · next requestId target henvelope =>
      have hvalid : ∀ id ∈ some requestId, isValidRequestId id = true := by
        rintro id ⟨⟩
        exact parseEnvelope_requestId henvelope
      split
      · exact .of_rejected hvalid (by decide +kernel)
      · split
        · next hfailed =>
            exact .of_rejected hvalid (parseParameters_reported hfailed)
        · exact ⟨hvalid, fun _ hnone => by cases hnone⟩

lemma parseSourceControlJson_reported (root : Json) (kind : SourceKind) :
    (parseSourceControlJson root kind).Reported := by
  rw [parseSourceControlJson]
  split
  · next hfailed => exact parseEnvelope_reported hfailed
  · next requestId target henvelope =>
      have hvalid : ∀ id ∈ some requestId, isValidRequestId id = true := by
        rintro id ⟨⟩
        exact parseEnvelope_requestId henvelope
      split
      · next hfailed =>
          exact .of_rejected hvalid (parseControlCommand_reported hfailed)
      · split
        · exact .of_rejected hvalid (by decide +kernel)
        · split
          · next hfailed =>
              exact .of_rejected hvalid (parseControlParameters_reported hfailed)
          · exact ⟨hvalid, fun _ hnone => by cases hnone⟩

/-- **Both kinds of requests.** -/
lemma parseSourceJson_reported (commandType : CommandType) (root : Json) (kind : SourceKind) :
    (parseSourceJson commandType root kind).Reported := by
  cases commandType with
  | config => exact parseSourceConfigJson_reported root kind
  | control => exact parseSourceControlJson_reported root kind

/-- **Every request that is parsed** has a valid number, if it has one, and is refused
with a reported error, if it is. -/
lemma parseSourceRequest_reported (commandType : CommandType) (json : Option Json)
    (kind : SourceKind) : (parseSourceRequest commandType json kind).Reported := by
  cases json with
  | none => exact .of_rejected nofun (by decide +kernel)
  | some root => exact parseSourceJson_reported commandType root kind

/-! ### The router -/

section

variable {source : CommandSource} {target : RequestTarget} {devices : DeviceRegistry}
  {error : ProtocolError}

/-- The router refuses with an error of the protocol. -/
lemma resolveConfigTarget_reported (h : resolveConfigTarget source target devices = .error error) :
    error.Reported := by
  simp only [resolveConfigTarget] at h
  repeat' split at h
  all_goals cases h
  all_goals decide +kernel

lemma resolveControlTarget_reported
    (h : resolveControlTarget source target devices = .error error) :
    error.Reported := by
  rw [resolveControlTarget] at h
  split at h
  · next hfailed =>
      cases h
      exact resolveConfigTarget_reported hfailed
  · repeat' split at h
    all_goals cases h
    decide +kernel

end

end CnsServer
