import LxdApi.FailurePropagation

set_option autoImplicit false

/- The HTTP status with which an error of LXD is answered, and what the raw downloads
   make of the replies that `request` refuses. -/
namespace LxdApi
open Interaction Program OrderedMap Json

def IsErrorStatus (code : Int) : Prop := 400 ≤ code ∧ code ≤ 599

theorem coded_status_iff (message : String) (code : Int) :
    IsErrorStatus (lxdErrToHttp (lxdErrorForStatus message code)).statusCode ↔
      code = 0 ∨ IsErrorStatus code := by
  rw [lxdErrToHttp_forStatus]
  unfold IsErrorStatus
  split_ifs <;> omega

theorem nonJson_status_iff (r : HttpReply) :
    IsErrorStatus (lxdErrToHttp (nonJsonError r)).statusCode ↔
      r.statusCode = 0 ∨ IsErrorStatus r.statusCode := by
  simp only [lxdErrToHttp, nonJsonError, codeMap, Option.getD_none]
  unfold IsErrorStatus
  split_ifs <;> omega

section Statuses
variable [Platform]

def RaisesOn (lxd : LXDClient) (wire : Wire) (exc : LXDError) : Prop :=
  ∃ method path body params,
    (lxd.request method path body params).Runs
      [⟨.lxd (lxd.sent method path body params), wire⟩] (.error (.lxd exc))

theorem raisesOn_iff (lxd : LXDClient) (wire : Wire) (exc : LXDError) :
    RaisesOn lxd wire exc ↔ lxd.received wire = .error (.lxd exc) := by
  constructor
  · intro raises
    obtain ⟨method, path, body, params, run⟩ := raises
    obtain ⟨other, shape, same⟩ := (request_runs_iff lxd _ _ _ _ _ _).mp run
    cases shape
    exact same.symm
  · intro received
    exact ⟨.GET, .root, .none, none,
      (request_runs_iff lxd _ _ _ _ _ _).mpr ⟨wire, rfl, received.symm⟩⟩

/- Whatever error is raised is answered with the status of an HTTP error: that of the
   envelope where it has one, except that 401 becomes 403, and 503 without a reply. -/
structure AnsweredRight (lxd : LXDClient) (wire : Wire) : Prop where
  isError : ∀ exc, RaisesOn lxd wire exc → IsErrorStatus (lxdErrToHttp exc).statusCode
  coded : ∀ r envelope exc, wire = .reply r → r.envelope = some envelope →
    envelope.isError = true → IsErrorStatus (effectiveCode envelope r.statusCode) →
    RaisesOn lxd wire exc → (lxdErrToHttp exc).statusCode =
      if effectiveCode envelope r.statusCode = 401 then 403
      else effectiveCode envelope r.statusCode
  unreachable : ∀ text exc, wire = .httpError text → RaisesOn lxd wire exc →
    (lxdErrToHttp exc).statusCode = 503

/- The replies for which this is so: the code of an error envelope, and the status of a
   reply that is no envelope, is that of an HTTP error, or 0. -/
def CarriesErrorStatus : Wire → Prop
  | .reply r =>
      (∀ envelope, r.envelope = some envelope → envelope.isError = true →
        effectiveCode envelope r.statusCode = 0 ∨
          IsErrorStatus (effectiveCode envelope r.statusCode)) ∧
      (r.body ≠ .empty → r.envelope = none → r.statusCode = 0 ∨ IsErrorStatus r.statusCode)
  | .httpError _ => True
  | .invalidUrl => True

theorem received_reply (lxd : LXDClient) (r : HttpReply) (exc : LXDError) :
    lxd.received (.reply r) = .error (.lxd exc) ↔ normalize r = .error exc := by
  simp only [LXDClient.received]
  cases normalize r <;> simp [Except.mapError]

theorem carriesErrorStatus_of_answered {lxd : LXDClient} {wire : Wire}
    (right : AnsweredRight lxd wire) : CarriesErrorStatus wire := by
  cases wire with
  | httpError text => trivial
  | invalidUrl => trivial
  | reply r =>
    constructor
    · intro envelope parsed isError
      apply (coded_status_iff (errorText envelope) _).mp
      apply right.isError
      exact (raisesOn_iff _ _ _).mpr
        ((received_reply _ _ _).mpr (normalize_of_error parsed isError))
    · intro some unparsed
      apply (nonJson_status_iff r).mp
      apply right.isError
      exact (raisesOn_iff _ _ _).mpr
        ((received_reply _ _ _).mpr (normalize_of_unparsed some unparsed))

theorem answered_of_carriesErrorStatus (lxd : LXDClient) {wire : Wire}
    (carries : CarriesErrorStatus wire) : AnsweredRight lxd wire := by
  constructor
  · intro exc raises
    rw [raisesOn_iff] at raises
    cases wire with
    | invalidUrl => cases raises
    | httpError text =>
      cases raises
      simp [LXDClient.connectionError, lxdErrToHttp, codeMap, IsErrorStatus]
    | reply r =>
      rcases refused_cases ((received_reply _ _ _).mp raises) with
          ⟨envelope, parsed, isError, same⟩ | ⟨some, unparsed, same⟩
      · rw [same, coded_status_iff]
        exact carries.1 envelope parsed isError
      · rw [same, nonJson_status_iff]
        exact carries.2 some unparsed
  · intro r envelope exc isReply parsed isError status raises
    rw [raisesOn_iff, isReply, received_reply, normalize_of_error parsed isError] at raises
    cases raises
    rw [lxdErrToHttp_forStatus]
    have nonzero : effectiveCode envelope r.statusCode ≠ 0 := by
      unfold IsErrorStatus at status
      omega
    simp only [nonzero, if_false]
  · intro text exc unreachable raises
    rw [raisesOn_iff, unreachable] at raises
    cases raises
    rfl

/- An error of `request` is answered with the right HTTP status exactly for the replies
   that carry the status of an error. -/
theorem answered_right_iff (lxd : LXDClient) (wire : Wire) :
    AnsweredRight lxd wire ↔ CarriesErrorStatus wire :=
  ⟨carriesErrorStatus_of_answered, answered_of_carriesErrorStatus lxd⟩

end Statuses

/-- A page of a proxy, delivered with status 200, raises an error that is answered with
    status 200. -/
theorem malformed_success_answered :
    ∃ exc, @RaisesOn plainPlatform ⟨{}⟩ (.reply ⟨200, .plain "<html>"⟩) exc ∧
      (lxdErrToHttp exc).statusCode = 200 ∧
      ¬ @AnsweredRight plainPlatform ⟨{}⟩ (.reply ⟨200, .plain "<html>"⟩) := by
  refine ⟨_, (@raisesOn_iff plainPlatform _ _ _).mpr rfl, rfl, ?_⟩
  intro right
  have carries := @carriesErrorStatus_of_answered plainPlatform _ _ right
  have status := carries.2 (by simp) rfl
  simp [IsErrorStatus] at status

def Call.disposition : Call → String
  | getInstanceLog _ filename _ => "inline; filename=" ++ filename
  | exportBackup name backup _ =>
      "attachment; filename=\"" ++ name ++ "-" ++ backup ++ ".tar.gz\""
  | _ => ""

def downloaded (lxd : LXDClient) (mediaType disposition : String) (wire : Wire) :
    Except Raised Answer :=
  ((lxd.receivedRaw wire).mapError toHttp).bind fun response =>
    if latin1 disposition then .ok (.stream response mediaType disposition)
    else .error (.unhandled "UnicodeEncodeError")

theorem downloaded_reply (lxd : LXDClient) (mediaType disposition : String) (r : HttpReply) :
    downloaded lxd mediaType disposition (.reply r) =
      if latin1 disposition then .ok (.stream r mediaType disposition)
      else .error (.unhandled "UnicodeEncodeError") := rfl

section Downloads
variable [Platform] (lxd : LXDClient)

/- A raw download starts its answer for a reply of success only, and answers an error
   envelope like every handler that looks at what `request` makes of it. -/
structure DownloadAgrees (call : Call) (r : HttpReply) : Prop where
  streams : ∀ trace reply mediaType disposition,
    (call.program lxd).Runs trace (.ok (.stream reply mediaType disposition)) →
    Received r trace → 200 ≤ r.statusCode ∧ r.statusCode < 300
  refuses : ∀ envelope, r.envelope = some envelope → envelope.isError = true →
    ∀ method path body params trace' exc,
      (orHttp (lxd.request method path body params)).Runs trace' (.error exc) →
      Received r trace' → ∀ trace outcome, (call.program lxd).Runs trace outcome →
        Received r trace → outcome = .error exc

/- The replies for which it does: no error envelope, and a status of success unless the
   name of the file cannot be written into a header. -/
def Downloadable (call : Call) (r : HttpReply) : Prop :=
  (∀ envelope, r.envelope = some envelope → envelope.isError = false) ∧
    (latin1 call.disposition = false ∨ 200 ≤ r.statusCode ∧ r.statusCode < 300)

theorem download_eq {call : Call} (raw : call.raw = true) :
    ∃ req mediaType, call.program lxd = .call (.lxd req) fun wire =>
      ofExcept (downloaded lxd mediaType call.disposition wire) := by
  cases call <;> try (cases raw)
  · exact ⟨_, _, streaming_eq _ _ _ _ _⟩
  · exact ⟨_, _, streaming_eq _ _ _ _ _⟩

theorem downloadable_of_agrees {call : Call} (raw : call.raw = true) {r : HttpReply}
    (agrees : DownloadAgrees lxd call r) : Downloadable call r := by
  obtain ⟨req, mediaType, program⟩ := download_eq lxd raw
  obtain ⟨trace, run, received⟩ :=
    one_request_receives req (downloaded lxd mediaType call.disposition) r
  rw [← program] at run
  have envelopeFree : ∀ envelope, r.envelope = some envelope → envelope.isError = false := by
    intro envelope parsed
    by_contra isError
    rw [Bool.not_eq_false] at isError
    obtain ⟨trace', run', received'⟩ :=
      one_request_receives (lxd.sent .GET .root .none none)
        (fun wire => (lxd.received wire).mapError toHttp) r
    rw [← orHttp_request_eq] at run'
    simp only [LXDClient.received, normalize_of_error parsed isError, Except.mapError] at run'
    have same := agrees.refuses envelope parsed isError _ _ _ _ _ _ run' received' _ _ run received
    rw [downloaded_reply] at same
    split at same
    · cases same
    · cases same
  refine ⟨envelopeFree, ?_⟩
  cases written : latin1 call.disposition with
  | false => exact Or.inl rfl
  | true =>
    right
    rw [downloaded_reply, written, if_pos rfl] at run
    exact agrees.streams _ _ _ _ run received

theorem agrees_of_downloadable {call : Call} (raw : call.raw = true) {r : HttpReply}
    (downloadable : Downloadable call r) : DownloadAgrees lxd call r := by
  obtain ⟨req, mediaType, program⟩ := download_eq lxd raw
  obtain ⟨envelopeFree, header⟩ := downloadable
  constructor
  · intro trace reply _ _ run received
    rw [program] at run
    have same := one_request_of_received run received
    rw [downloaded_reply] at same
    rcases header with unwritten | success
    · rw [unwritten] at same
      cases same
    · exact success
  · intro envelope parsed isError
    rw [envelopeFree envelope parsed] at isError
    cases isError

/- A raw download agrees with the other handlers exactly on the downloadable replies. -/
theorem download_agrees_iff (call : Call) (raw : call.raw = true) (r : HttpReply) :
    DownloadAgrees lxd call r ↔ Downloadable call r :=
  ⟨downloadable_of_agrees lxd raw, agrees_of_downloadable lxd raw⟩

end Downloads

def exportNightly : Call := .exportBackup "web1" "nightly" none

def missingBackup : HttpReply :=
  ⟨404, .json "" (.obj [("type", .str "error"), ("error", .str "Backup not found"),
    ("error_code", .int 404)])⟩

theorem tarball_agrees :
    @DownloadAgrees plainPlatform ⟨{}⟩ exportNightly ⟨200, .plain "tarball"⟩ := by
  refine (@download_agrees_iff plainPlatform ⟨{}⟩ exportNightly rfl _).mpr ⟨?_, Or.inr (by decide)⟩
  intro envelope parsed
  cases parsed

/-- The error envelope of a missing backup is streamed as the tarball. -/
theorem error_streamed_as_tarball :
    ∃ reply mediaType disposition,
      Program.run (answering fun _ => missingBackup)
        (@Call.program plainPlatform ⟨{}⟩ exportNightly) =
          .ok (.stream reply mediaType disposition) ∧
      ¬ @DownloadAgrees plainPlatform ⟨{}⟩ exportNightly missingBackup := by
  refine ⟨_, _, _, rfl, ?_⟩
  intro agrees
  have downloadable := @downloadable_of_agrees plainPlatform ⟨{}⟩ exportNightly rfl _ agrees
  have fine := downloadable.1 _ rfl
  cases fine

end LxdApi
