import LxdApi.DeviceSequences
import LxdApi.Library.Retries
import LxdApi.OperationLinks

set_option autoImplicit false

/- A client that repeats its attach and detach requests until they are answered. A request to
   LXD that is lost and one whose answer is lost look the same to the handler, and so to the
   client: the device map may have changed or not. -/
namespace LxdApi
open Interaction Program OrderedMap Json

def PatchRule.change (rule : PatchRule) (edit : DeviceEdit) (entries : String → Option Json) :
    String → Option Json :=
  match rule with
  | .replaces => Function.update entries edit.key edit.value
  | .merges => Function.update entries edit.key (edit.value.or (entries edit.key))

theorem change_denotes (rule : PatchRule) (edit : DeviceEdit) (devices : Dict) :
    get? (rule.apply devices (edit.apply devices)) = rule.change edit (get? devices) := by
  cases rule with
  | replaces => exact apply_denotes edit devices
  | merges =>
    funext key
    rw [merged_denotes, PatchRule.change, Function.update_apply]
    by_cases same : edit.key = key
    · rw [if_pos same, if_pos same.symm, same]
    · rw [if_neg same, if_neg (Ne.symm same)]

theorem change_idempotent (rule : PatchRule) (edit : DeviceEdit)
    (entries : String → Option Json) :
    rule.change edit (rule.change edit entries) = rule.change edit entries := by
  cases rule with
  | replaces => simp only [PatchRule.change, Function.update_idem]
  | merges =>
    simp only [PatchRule.change, Function.update_idem, Function.update_self]
    cases edit.value <;> rfl

def unheard (exc : String) : (effect : Effect) → effect.Reply
  | .lxd _ => .httpError exc
  | .connect _ => .error exc
  | .accept => ()
  | .close _ => ()
  | .sendText _ => ()

section Attempts
variable [Platform] (lxd : LXDClient) (rule : PatchRule) (server : DeviceServer)
  (project : Option String) (exc : String)

def attempt (request : DeviceRequest) (s : Dict × List Loss) :
    Except Raised Answer × (Dict × List Loss) :=
  ((request.call server.name project).program lxd).runFrom
    (lossy (server.serveBy rule) (unheard exc)) s

omit [Platform] in
theorem serveBy_lookup (devices : Dict) :
    server.serveBy rule devices (.lxd (lxd.sent .GET (instancePath server.name) .none
      (projectParams project))) = (.reply (server.lookup devices), devices) := by
  simp [DeviceServer.serveBy, DeviceServer.answerBy, LXDClient.sent]

omit [Platform] in
theorem serveBy_write (devices written : Dict) :
    server.serveBy rule devices (.lxd (lxd.sent .PATCH (instancePath server.name)
      (.fixed (.obj [("devices", .obj written)])) (projectParams project))) =
      (.reply server.receipt, rule.apply devices written) := by
  simp [DeviceServer.serveBy, DeviceServer.answerBy, LXDClient.sent, LXDRequest.newDevices?]

theorem attempted_write {answer : Answer}
    (accepted : finished lxd .ref (.reply server.receipt) = .ok answer) (edit : DeviceEdit)
    (devices : Dict) (losses : List Loss) :
    Attempted (fun s => get? s.1) (rule.change edit) (fun s => lossCount s.2) answer
      (devices, losses)
      ((writing lxd server project edit devices).runFrom
        (lossy (server.serveBy rule) (unheard exc)) (devices, losses)) := by
  obtain ⟨x, failed⟩ : ∃ x, finished lxd .ref (.httpError exc) = .error x := ⟨_, rfl⟩
  have made := change_denotes rule edit devices
  rw [writing, single_eq, runFrom]
  rcases lossy_cases (server.serveBy rule) (unheard exc) devices losses (.lxd (lxd.sent .PATCH
      (instancePath server.name) (.fixed (.obj [("devices", .obj (edit.apply devices))]))
      (projectParams project))) with
    ⟨later, fewer, heard⟩ | ⟨later, fewer, unmade | unheard⟩
  · rw [heard, serveBy_write, runFrom_ofExcept, accepted]
    exact .answered made fewer
  · rw [unmade]
    dsimp only [LxdApi.unheard]
    rw [runFrom_ofExcept, failed]
    exact .failed x (Or.inl rfl) fewer
  · rw [unheard, serveBy_write]
    dsimp only [LxdApi.unheard]
    rw [runFrom_ofExcept, failed]
    exact .failed x (Or.inr made) fewer

theorem attempted {answer : Answer}
    (accepted : finished lxd .ref (.reply server.receipt) = .ok answer) (request : DeviceRequest)
    (s : Dict × List Loss) :
    Attempted (fun s => get? s.1) (rule.change request.edit) (fun s => lossCount s.2) answer s
      (attempt lxd rule server project exc request s) := by
  obtain ⟨devices, losses⟩ := s
  obtain ⟨x, failed⟩ : ∃ x, ((lxd.received (.httpError exc)).mapError toHttp).bind devicesOf =
    .error x := ⟨_, rfl⟩
  rw [attempt, program_eq, patchDevices_eq, runFrom]
  rcases lossy_cases (server.serveBy rule) (unheard exc) devices losses (.lxd (lxd.sent .GET
      (instancePath server.name) .none (projectParams project))) with
    ⟨later, fewer, heard⟩ | ⟨later, fewer, unmade | unheard⟩
  · rw [heard, serveBy_lookup]
    dsimp only
    rw [lookup_received]
    have write := attempted_write lxd rule server project exc accepted request.edit devices later
    rw [writing, single_eq] at write
    exact write.after rfl fewer
  · rw [unmade]
    dsimp only [LxdApi.unheard]
    rw [failed]
    exact .failed x (Or.inl rfl) fewer
  · rw [unheard, serveBy_lookup]
    dsimp only [LxdApi.unheard]
    rw [failed]
    exact .failed x (Or.inl rfl) fewer

theorem inSequence_denotes (requests : List DeviceRequest) (devices : Dict) :
    get? (inSequence lxd rule server project
        (requests.map fun request => ⟨request, server.receipt⟩) devices) =
      requests.foldl (fun entries request => rule.change request.edit entries) (get? devices) := by
  induction requests generalizing devices with
  | nil => rfl
  | cons request rest ih =>
    rw [List.map_cons, inSequence, List.foldl_cons, List.foldl_cons, callOnce_eq,
      ← change_denotes]
    exact ih _

/- Whatever gets lost, if each of a sequence of requests is repeated until it is answered, each is
   in the end answered what LXD says to it, and the device map has the entries that the requests
   give when each is made once and nothing is lost. -/
theorem retried_requests_made_once {answer : Answer}
    (accepted : finished lxd .ref (.reply server.receipt) = .ok answer)
    (requests : List DeviceRequest) (devices : Dict) (losses : List Loss) {patience : Nat}
    (enough : lossCount losses ≤ patience) :
    let client := persist (attempt lxd rule server project exc) patience
    (Machine.record client (devices, losses) requests).map Machine.Entry.output =
        requests.map (fun _ => .ok answer) ∧
      get? (Machine.final client (devices, losses) requests).1 =
        get? (inSequence lxd rule server project
          (requests.map fun request => ⟨request, server.receipt⟩) devices) := by
  intro client
  rw [inSequence_denotes]
  exact persist_answered (fun request entries => change_idempotent rule request.edit entries)
    (fun request s => attempted lxd rule server project exc accepted request s) enough requests

end Attempts

/-- One volume is attached and another one detached; the answers of the first write and of the
    second lookup are lost. -/
theorem lost_answers_retried :
    let client := persist (@attempt plainPlatform ⟨{}⟩ .merges web1 none "timed out") 2
    let losses := [.none, .reply, .reply]
    let requests : List DeviceRequest := [.attachVolume "ssd" "a", .detachVolume "ssd" "b"]
    (Machine.record client ([], losses) requests).map Machine.Entry.output =
        requests.map (fun _ => .ok (.ref (operationRef "op"))) ∧
      get? (Machine.final client ([], losses) requests).1 =
        get? (@inSequence plainPlatform ⟨{}⟩ .merges web1 none
          (requests.map fun request => ⟨request, web1.receipt⟩) []) :=
  @retried_requests_made_once plainPlatform ⟨{}⟩ .merges web1 none "timed out" _ rfl _ []
    [.none, .reply, .reply] 2 (by decide)

end LxdApi
