import LxdApi.HandlerRuns
import LxdApi.Library.Pool
import LxdApi.Library.ReadModifyWrite

set_option autoImplicit false

/- Concurrent attach and detach requests on one instance. LXD keeps the device map and
   serves one request at a time; each handler reads the map, edits its copy and writes
   the whole copy back. -/
namespace LxdApi
open Interaction Program OrderedMap Json ReadModifyWrite

inductive DeviceRequest where
  | attachVolume (pool name : String)
  | detachVolume (pool name : String)
  | attachNic (name : String) (deviceName : Option String) (nicName : String)
  | detachNic (name : String) (deviceName : Option String)

namespace DeviceRequest

def call (instance' : String) (project : Option String) : DeviceRequest → Call
  | .attachVolume pool name => .attachVolume pool name instance' project
  | .detachVolume pool name => .detachVolume pool name instance' project
  | .attachNic name deviceName nicName => .attachNic name instance' deviceName nicName project
  | .detachNic name deviceName => .detachNic name instance' deviceName project

def edit : DeviceRequest → DeviceEdit
  | .attachVolume pool name => .put ("vol_" ++ name) (diskDevice pool name)
  | .detachVolume _ name => .pop ("vol_" ++ name)
  | .attachNic name deviceName nicName => .put (nicKey name deviceName) (nicDevice name nicName)
  | .detachNic name deviceName => .pop (nicKey name deviceName)

end DeviceRequest

def DeviceEdit.value : DeviceEdit → Option Json
  | .put _ device => some device
  | .pop _ => none

theorem apply_denotes (edit : DeviceEdit) (devices : Dict) :
    get? (edit.apply devices) = Function.update (get? devices) edit.key edit.value := by
  cases edit with
  | put key device => exact get?_denotes_set devices key device
  | pop key => exact get?_denotes_erase devices key

def LXDRequest.newDevices? (req : LXDRequest) : Option Dict :=
  match req.jsonBody with
  | .fixed (.obj fields) | .free (.obj fields) =>
      match get? fields "devices" with
      | some (.obj devices) => some devices
      | _ => none
  | _ => none

/-- LXD as the keeper of one instance: what else it says of the instance, and how it
    answers a change. -/
structure DeviceServer where
  name : String
  other : Dict
  receipt : HttpReply

namespace DeviceServer

def lookup (server : DeviceServer) (devices : Dict) : HttpReply :=
  ⟨200, .json "" (.obj [("type", .str "sync"),
    ("metadata", .obj (set server.other "devices" (.obj devices)))])⟩

def refusal : HttpReply :=
  ⟨404, .json "" (.obj [("type", .str "error"), ("error", .str "Instance not found"),
    ("error_code", .int 404)])⟩

/- A lookup tells the map, a change that carries a map replaces it. -/
def answer (server : DeviceServer) (devices : Dict) (req : LXDRequest) : HttpReply × Dict :=
  if req.path = instancePath server.name then
    match req.method with
    | .GET => (server.lookup devices, devices)
    | .PATCH => (server.receipt, req.newDevices?.getD devices)
    | _ => (refusal, devices)
  else (refusal, devices)

def serve (server : DeviceServer) (devices : Dict) : (e : Effect) → e.Reply × Dict
  | .lxd req => (.reply (server.answer devices req).1, (server.answer devices req).2)
  | .connect _ => (.ok (), devices)
  | .accept => ((), devices)
  | .close _ => ((), devices)
  | .sendText _ => ((), devices)

end DeviceServer

abbrev DevicePool (ι : Type) := Pool Effect Effect.Reply Raised Answer Dict ι

def pending? : Handler Answer → Option Dict
  | .call (.lxd req) _ => if req.method = .PATCH then req.newDevices? else none
  | _ => none

theorem answer_lookup (lxd : LXDClient) (server : DeviceServer) (project : Option String)
    (devices : Dict) :
    server.answer devices (lxd.sent .GET (instancePath server.name) .none
      (projectParams project)) = (server.lookup devices, devices) := by
  simp [DeviceServer.answer, LXDClient.sent]

theorem answer_write (lxd : LXDClient) (server : DeviceServer) (project : Option String)
    (devices written : Dict) :
    server.answer devices (lxd.sent .PATCH (instancePath server.name)
      (.fixed (.obj [("devices", .obj written)])) (projectParams project)) =
      (server.receipt, written) := by
  simp [DeviceServer.answer, LXDClient.sent, LXDRequest.newDevices?]

section Updates
variable [Platform] {ι : Type} (lxd : LXDClient) (server : DeviceServer)
  (project : Option String) (requests : ι → DeviceRequest)

def handlerOf (i : ι) : Handler Answer :=
  ((requests i).call server.name project).program lxd

def started (devices : Dict) : DevicePool ι := ⟨devices, handlerOf lxd server project requests⟩

def oneByOne (order : List ι) (devices : Dict) : Dict :=
  order.foldl (fun devices i =>
    ((handlerOf lxd server project requests i).runFrom server.serve devices).2) devices

/- The requests that have ended took effect as if one at a time, so each of them is
   still seen unless a later one was about the same key. -/
structure OneAtATime (initial : Dict) (pool : DevicePool ι) (order : List ι) : Prop where
  nodup : order.Nodup
  ended : ∀ i, i ∈ order ↔ (pool.threads i).Ended
  devices : get? pool.shared = get? (oneByOne lxd server project requests order initial)
  reflected : ∀ before i later, order = before ++ i :: later →
    (∀ j ∈ later, (requests j).edit.key ≠ (requests i).edit.key) →
    get? pool.shared (requests i).edit.key = (requests i).edit.value

/-- If the next step of a request is its write, the map that it writes has LXD's present
    entry under every key but its own. -/
def Undisturbed (pool : DevicePool ι) (i : ι) : Prop :=
  ∀ devices, pending? (pool.threads i) = some devices →
    ∀ key, key ≠ (requests i).edit.key → get? devices key = get? pool.shared key

def NeverDisturbed [DecidableEq ι] (pool : DevicePool ι) : List ι → Prop
  | [] => True
  | i :: rest => Undisturbed requests pool i ∧ NeverDisturbed (pool.step server.serve i) rest

theorem program_eq (name : String) (request : DeviceRequest) :
    (request.call name project).program lxd = patchDevices lxd name project request.edit := by
  cases request <;> rfl

theorem handlerOf_eq (i : ι) : handlerOf lxd server project requests i =
    patchDevices lxd server.name project (requests i).edit :=
  program_eq lxd project server.name (requests i)

def writing (edit : DeviceEdit) (devices : Dict) : Handler Answer :=
  single lxd .PATCH (instancePath server.name)
    (.fixed (.obj [("devices", .obj (edit.apply devices))])) (projectParams project) .ref

theorem lookup_received (devices : Dict) :
    ((lxd.received (.reply (server.lookup devices))).mapError toHttp).bind devicesOf =
      .ok devices := by
  have parsed : (server.lookup devices).envelope = some ⟨.sync, none, none, none,
      .obj (set server.other "devices" (.obj devices)), none, none⟩ := rfl
  have handed := normalize_of_accepted parsed rfl
  simp only [LXDClient.received, handed, payload, LXDResponse.isAsync, Except.mapError,
    Except.bind, devicesOf]
  simp [dictOf]

theorem pending_writing (edit : DeviceEdit) (devices : Dict) :
    pending? (writing lxd server project edit devices) = some (edit.apply devices) := by
  unfold writing
  rw [single_eq]
  simp [pending?, LXDClient.sent, LXDRequest.newDevices?]

theorem handlerOf_alone (i : ι) (devices : Dict) :
    ((handlerOf lxd server project requests i).runFrom server.serve devices).2 =
      (requests i).edit.apply devices := by
  rw [handlerOf_eq, patchDevices_eq]
  simp only [runFrom, DeviceServer.serve, answer_lookup, lookup_received, answer_write]
  cases finished lxd .ref (.reply server.receipt) <;> rfl

def Matches (i : ι) : Phase (String → Option Json) → Handler Answer → Prop
  | .idle, p => p = handlerOf lxd server project requests i
  | .read seen, p => ∃ devices, get? devices = seen ∧
      p = writing lxd server project (requests i).edit devices
  | .finished, p => p.Ended

/-- The pool as agents that read and later write a map from keys to devices. -/
structure Simulates (pool : DevicePool ι) (s : State (String → Option Json) ι) : Prop where
  shared : get? pool.shared = s.current
  threads : ∀ i, Matches lxd server project requests i (s.phase i) (pool.threads i)

def editOf : ι → (String → Option Json) → String → Option Json :=
  entryChange (fun i => (requests i).edit.key) fun i => (requests i).edit.value

theorem undisturbed_writing_iff {pool : DevicePool ι} {i : ι} {devices : Dict}
    (next : pool.threads i = writing lxd server project (requests i).edit devices) :
    Undisturbed requests pool i ↔
      get? ((requests i).edit.apply devices) = get? ((requests i).edit.apply pool.shared) := by
  have fresh := entryChange_eq_iff (fun i => (requests i).edit.key)
    (fun i => (requests i).edit.value) i (get? devices) (get? pool.shared)
  simp only [entryChange] at fresh
  rw [apply_denotes, apply_denotes, fresh]
  constructor
  · intro undisturbed key other
    have same := undisturbed _ (by rw [next, pending_writing]) key other
    rwa [apply_denotes, Function.update_of_ne other] at same
  · intro agree written pending key other
    rw [next, pending_writing] at pending
    cases pending
    rw [apply_denotes, Function.update_of_ne other]
    exact agree key other

theorem ended_iff {i : ι} {phase : Phase (String → Option Json)} {p : Handler Answer}
    (matched : Matches lxd server project requests i phase p) : p.Ended ↔ phase = .finished := by
  cases phase with
  | idle =>
    simp only [Matches] at matched
    rw [matched, handlerOf_eq, patchDevices_eq]
    simp [Ended]
  | read seen =>
    obtain ⟨devices, _, shape⟩ := matched
    rw [shape, writing, single_eq]
    simp [Ended]
  | finished => exact iff_of_true matched rfl

/-- Where LXD's map has not moved under a handler, its write is fresh. -/
theorem fresh_of_undisturbed {pool : DevicePool ι} {i : ι} {s : State (String → Option Json) ι}
    (simulates : Simulates lxd server project requests pool s)
    (undisturbed : Undisturbed requests pool i) : Fresh (editOf requests) s i := by
  intro seen phase
  have here := simulates.threads i
  rw [phase] at here
  obtain ⟨devices, denotes, shape⟩ := here
  have same := (undisturbed_writing_iff lxd server project requests shape).mp undisturbed
  rw [apply_denotes, apply_denotes, denotes, simulates.shared] at same
  exact same

section Steps
variable [DecidableEq ι] {pool : DevicePool ι} {i : ι}

theorem step_of_handler
    (next : pool.threads i = handlerOf lxd server project requests i) :
    pool.step server.serve i = ⟨pool.shared, Function.update pool.threads i
      (writing lxd server project (requests i).edit pool.shared)⟩ := by
  rw [handlerOf_eq, patchDevices_eq] at next
  rw [Pool.step_of_call server.serve next]
  simp only [DeviceServer.serve, answer_lookup, lookup_received, writing, single_eq]

theorem step_of_writing {edit : DeviceEdit} {devices : Dict}
    (next : pool.threads i = writing lxd server project edit devices) :
    pool.step server.serve i = ⟨edit.apply devices, Function.update pool.threads i
      (ofExcept (finished lxd .ref (.reply server.receipt)))⟩ := by
  unfold writing at next
  rw [single_eq] at next
  rw [Pool.step_of_call server.serve next]
  simp only [DeviceServer.serve, answer_write]

theorem simulates_step {s : State (String → Option Json) ι}
    (simulates : Simulates lxd server project requests pool s) (i : ι) :
    Simulates lxd server project requests (pool.step server.serve i)
      (ReadModifyWrite.step (editOf requests) s i) := by
  have here := simulates.threads i
  have others : ∀ (phase : Phase (String → Option Json)) (p : Handler Answer),
      Matches lxd server project requests i phase p → ∀ j,
      Matches lxd server project requests j (Function.update s.phase i phase j)
        (Function.update pool.threads i p j) := by
    intro phase p matched j
    by_cases same : j = i
    · subst j
      rw [Function.update_self, Function.update_self]
      exact matched
    · rw [Function.update_of_ne same, Function.update_of_ne same]
      exact simulates.threads j
  unfold ReadModifyWrite.step
  cases phase : s.phase i with
  | idle =>
    rw [phase] at here
    rw [step_of_handler lxd server project requests here]
    exact ⟨simulates.shared, others _ _ ⟨pool.shared, simulates.shared, rfl⟩⟩
  | read seen =>
    rw [phase] at here
    obtain ⟨devices, denotes, shape⟩ := here
    rw [step_of_writing lxd server project shape]
    refine ⟨?_, others _ _ (ended_ofExcept _)⟩
    rw [apply_denotes, denotes]
    rfl
  | finished =>
    rw [phase] at here
    rw [Pool.step_of_ended server.serve here]
    exact simulates

theorem run_simulates (schedule : List ι) {s : State (String → Option Json) ι}
    (simulates : Simulates lxd server project requests pool s)
    (never : NeverDisturbed server requests pool schedule) :
    Simulates lxd server project requests (pool.run server.serve schedule)
        (ReadModifyWrite.run (editOf requests) s schedule) ∧
      AllFresh (editOf requests) s schedule := by
  induction schedule generalizing pool s with
  | nil => exact ⟨simulates, trivial⟩
  | cons i rest ih =>
    have fresh := fresh_of_undisturbed lxd server project requests simulates never.1
    obtain ⟨after, later⟩ := ih (simulates_step lxd server project requests simulates i) never.2
    exact ⟨after, fresh, later⟩

end Steps

theorem oneByOne_denotes (order : List ι) (devices : Dict) :
    get? (oneByOne lxd server project requests order devices) =
      serial (editOf requests) order (get? devices) := by
  induction order generalizing devices with
  | nil => rfl
  | cons i rest ih =>
    have head := ih ((requests i).edit.apply devices)
    simp only [oneByOne, serial, List.foldl_cons, handlerOf_alone] at head ⊢
    rw [head, apply_denotes]
    rfl

/- Over any set of requests, any initial map and any interleaving of their steps: if no
   write finds the map moved under it, the map at every point is what the requests that
   have ended give one at a time, and none of them is lost. -/
theorem updates_one_at_a_time [DecidableEq ι] (initial : Dict) (schedule : List ι)
    (never : NeverDisturbed server requests (started lxd server project requests initial) schedule) :
    ∃ order, OneAtATime lxd server project requests initial
      ((started lxd server project requests initial).run server.serve schedule) order := by
  have start : Simulates lxd server project requests (started lxd server project requests initial)
      ⟨get? initial, fun _ => .idle⟩ := ⟨rfl, fun _ => rfl⟩
  obtain ⟨simulates, fresh⟩ := run_simulates lxd server project requests schedule start never
  obtain ⟨order, accounts⟩ := accounts_run schedule (accounts_idle (get? initial)) fresh
  refine ⟨order, accounts.nodup, ?_, ?_, ?_⟩
  · intro i
    rw [accounts.finished]
    exact (ended_iff lxd server project requests (simulates.threads i)).symm
  · rw [oneByOne_denotes, simulates.shared, accounts.current]
  · intro before i later shape last
    rw [simulates.shared, accounts.current, shape]
    exact serial_last _ _ _ last

end Updates

def web1 : DeviceServer :=
  ⟨"web1", [("name", .str "web1")], ⟨202, .json "" (.obj [("type", .str "async"),
    ("operation", .str "/1.0/operations/op"), ("metadata", .obj [("id", .str "op")])])⟩⟩

def twoVolumes (i : Fin 2) : DeviceRequest := .attachVolume "pool" (if i = 0 then "a" else "b")

/-- Attached one after the other, both are there. -/
theorem successive_attachments_kept :
    ∃ order, @OneAtATime plainPlatform (Fin 2) ⟨{}⟩ web1 none twoVolumes []
      ((@started plainPlatform (Fin 2) ⟨{}⟩ web1 none twoVolumes []).run web1.serve [0, 0, 1, 1])
      order := by
  refine @updates_one_at_a_time plainPlatform (Fin 2) ⟨{}⟩ web1 none twoVolumes _ [] [0, 0, 1, 1] ?_
  refine ⟨?_, ?_, ?_, ?_, trivial⟩
  · intro devices pending
    cases pending
  · intro devices pending key other
    cases pending
    change get? [("vol_a", diskDevice "pool" "a")] key = get? [] key
    rw [get?_cons, if_neg (Ne.symm other : "vol_a" ≠ key)]
  · intro devices pending
    cases pending
  · intro devices pending key other
    cases pending
    change get? [("vol_a", diskDevice "pool" "a"), ("vol_b", diskDevice "pool" "b")] key =
      get? [("vol_a", diskDevice "pool" "a")] key
    rw [get?_cons, get?_cons, get?_cons, if_neg (Ne.symm other : "vol_b" ≠ key)]

/-- Interleaved, both are answered 202 and the first one is lost. -/
theorem interleaved_attachment_lost :
    let final := (@started plainPlatform (Fin 2) ⟨{}⟩ web1 none twoVolumes []).run web1.serve
      [0, 1, 0, 1]
    final.shared = [("vol_b", diskDevice "pool" "b")] ∧
      (∀ i, ∃ ref, final.threads i = .done (.ref ref)) ∧
      ¬ ∃ order, @OneAtATime plainPlatform (Fin 2) ⟨{}⟩ web1 none twoVolumes [] final order := by
  refine ⟨rfl, ?_, ?_⟩
  · intro i
    match i with
    | 0 => exact ⟨_, rfl⟩
    | 1 => exact ⟨_, rfl⟩
  · intro serialized
    obtain ⟨order, outcome⟩ := serialized
    have ended := (@OneAtATime.ended plainPlatform _ _ _ _ _ _ _ _ outcome 0).mpr trivial
    obtain ⟨before, later, shape⟩ := List.append_of_mem ended
    have kept := @OneAtATime.reflected plainPlatform _ _ _ _ _ _ _ _ outcome before 0 later shape ?_
    · have lost : get? [("vol_b", diskDevice "pool" "b")] "vol_a" =
          some (diskDevice "pool" "a") := kept
      simp at lost
    · intro j member same
      have nodup := @OneAtATime.nodup plainPlatform _ _ _ _ _ _ _ _ outcome
      rw [shape] at nodup
      match j with
      | 0 => exact (List.nodup_cons.mp (List.nodup_append.mp nodup).2.1).1 member
      | 1 => cases same

end LxdApi
