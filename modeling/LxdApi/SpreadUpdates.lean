import LxdApi.DeviceSequences
import LxdApi.InstanceIsolation
import LxdApi.RoundTrips

set_option autoImplicit false

/- Concurrent attach and detach requests on different instances. What is lost between
   requests on one instance is never lost between these. -/
namespace LxdApi
open Interaction Program UriReference

def deviceAnswer (rule : PatchRule) (kept : DeviceServer × Dict) (req : LXDRequest)
    (target : Target) : HttpReply × (DeviceServer × Dict) :=
  if target.segments.length = 3 then
    match req.method with
    | .GET => (kept.1.lookup kept.2, kept)
    | .PATCH => (kept.1.receipt, (kept.1, (req.newDevices?.map (rule.apply kept.2)).getD kept.2))
    | _ => (DeviceServer.refusal, kept)
  else (DeviceServer.refusal, kept)

def deviceHost (rule : PatchRule) : LxdHost (List UInt8) (DeviceServer × Dict) :=
  instanceHost (deviceAnswer rule) fun _ _ => DeviceServer.refusal

section Spread
variable [Platform] (lxd : LXDClient) (rules : UrlRules) (rule : PatchRule)
  (project : Option String)
  {instances : List UInt8 → DeviceServer × Dict} {name : String}

theorem deviceHost_serve (req : LXDRequest) (path : req.path = instancePath name)
    (clean : Clean name.toList) (fits : rules.accepts (instancePath name).url = true) :
    ∃ target, target.segments.length = 3 ∧ (deviceHost rule).serve rules instances (.lxd req) =
      (.reply (deviceAnswer rule (instances (octets name.toList)) req target).1,
        Function.update instances (octets name.toList)
          (deviceAnswer rule (instances (octets name.toList)) req target).2) := by
  have clean' : ∀ arg ∈ req.path.args, Clean arg.toList := by
    rw [path]
    exact List.forall_mem_singleton.mpr clean
  have sound : req.path.Sound := ⟨by rw [path]; nofun, clean'⟩
  obtain ⟨target, sent⟩ : ∃ target, rules.target req = some target := by
    unfold UrlRules.target
    rw [path, if_pos fits]
    exact ⟨_, rfl⟩
  have denotes := ((addresses_iff rules sent).mpr sound).path
  refine ⟨target, ?_, ?_⟩
  · rw [← denotes.length_eq, path]
    rfl
  · exact LxdHost.serve_of_target rules (deviceHost rule) sent
      (target_instance rules path clean' sent) instances

theorem deviceHost_lookup (clean : Clean name.toList)
    (fits : rules.accepts (instancePath name).url = true) :
    (deviceHost rule).serve rules instances
        (.lxd (lxd.sent .GET (instancePath name) .none (projectParams project))) =
      (.reply ((instances (octets name.toList)).1.lookup (instances (octets name.toList)).2),
        instances) := by
  obtain ⟨target, whole, served⟩ := deviceHost_serve rules rule
    (lxd.sent .GET (instancePath name) .none (projectParams project)) rfl clean fits
  rw [served]
  simp [deviceAnswer, whole, LXDClient.sent]

theorem deviceHost_write (devices : Dict) (clean : Clean name.toList)
    (fits : rules.accepts (instancePath name).url = true) :
    (deviceHost rule).serve rules instances (.lxd (lxd.sent .PATCH (instancePath name)
        (.fixed (.obj [("devices", .obj devices)])) (projectParams project))) =
      (.reply (instances (octets name.toList)).1.receipt,
        Function.update instances (octets name.toList)
          ((instances (octets name.toList)).1,
            rule.apply (instances (octets name.toList)).2 devices)) := by
  obtain ⟨target, whole, served⟩ := deviceHost_serve rules rule
    (lxd.sent .PATCH (instancePath name) (.fixed (.obj [("devices", .obj devices)]))
      (projectParams project)) rfl clean fits
  rw [served]
  simp [deviceAnswer, whole, LXDClient.sent, LXDRequest.newDevices?]

theorem handler_on_host (edit : DeviceEdit) (clean : Clean name.toList)
    (fits : rules.accepts (instancePath name).url = true) :
    (patchDevices lxd name project edit).runFrom ((deviceHost rule).serve rules) instances =
      (finished lxd .ref (.reply (instances (octets name.toList)).1.receipt),
        Function.update instances (octets name.toList) ((instances (octets name.toList)).1,
          rule.apply (instances (octets name.toList)).2
            (edit.apply (instances (octets name.toList)).2))) := by
  rw [patchDevices_eq]
  simp only [runFrom, deviceHost_lookup lxd rules rule project clean fits, lookup_received,
    deviceHost_write lxd rules rule project _ clean fits, runFrom_ofExcept]

section Run
variable (instances) {ι : Type} [DecidableEq ι] (requests : ι → DeviceRequest)
  (names : ι → String)

def spread : Pool Effect Effect.Reply Raised Answer (List UInt8 → DeviceServer × Dict) ι :=
  ⟨instances, fun i => ((requests i).call (names i) project).program lxd⟩

omit [Platform] [DecidableEq ι] in
theorem call_instance (i : ι) :
    ((requests i).call (names i) project).instance? = some (names i, []) := by
  cases requests i <;> rfl

omit [Platform] in
theorem filter_names {names : ι → String} (distinct : Function.Injective names)
    (schedule : List ι) (i : ι) :
    (schedule.filter fun j => decide (names j = names i)) =
      List.replicate (schedule.count i) i := by
  simp only [distinct.eq_iff]
  exact List.filter_eq i

omit [DecidableEq ι] in
theorem spread_thread (i : ι) : (spread lxd project instances requests names).threads i =
    patchDevices lxd (names i) project (requests i).edit :=
  program_eq lxd project (names i) (requests i)

theorem solo_changed (i : ι) (clean : Clean (names i).toList)
    (fits : rules.accepts (instancePath (names i)).url = true) {turns : Nat} (enough : 2 ≤ turns) :
    let entry := instances (octets (names i).toList)
    let final := Pool.run ((deviceHost rule).serve rules)
      (spread lxd project instances requests names) (List.replicate turns i)
    final.shared (octets (names i).toList) =
        (entry.1, rule.apply entry.2 ((requests i).edit.apply entry.2)) ∧
      final.threads i = ofExcept (finished lxd .ref (.reply entry.1.receipt)) := by
  intro entry final
  have within : ((spread lxd project instances requests names).threads i).Within 2 := by
    rw [spread_thread]
    exact (patchDevices_costs lxd _ _ _).within
  have came : final.shared = _ ∧ final.threads i = _ := Pool.run_solo within enough
  rw [spread_thread, handler_on_host lxd rules rule project _ clean fits] at came
  exact ⟨(congrFun came.1 _).trans (Function.update_self _ _ _), came.2⟩

theorem solo_kept (i : ι) (clean : Clean (names i).toList)
    (fits : rules.accepts (instancePath (names i)).url = true) {turns : Nat} (few : turns < 2) :
    (Pool.run ((deviceHost rule).serve rules) (spread lxd project instances requests names)
      (List.replicate turns i)).shared = instances := by
  have start := spread_thread lxd project instances requests names i
  rw [patchDevices_eq] at start
  match turns, few with
  | 0, _ => rfl
  | 1, _ =>
    have stepped := Pool.step_of_call ((deviceHost rule).serve rules) start
    have shared := congrArg Pool.shared stepped
    rw [deviceHost_lookup lxd rules rule project clean fits] at shared
    exact shared

theorem spread_filter (clean : ∀ i, Clean (names i).toList) (schedule : List ι) (name : String) :
    Pool.LookAlike (fun i => decide (names i = name)) (fun kept => kept (octets name.toList))
      (Pool.run ((deviceHost rule).serve rules) (spread lxd project instances requests names)
        schedule)
      (Pool.run ((deviceHost rule).serve rules) (spread lxd project instances requests names)
        (schedule.filter fun i => decide (names i = name))) :=
  run_on_instance lxd rules (deviceAnswer rule) (fun _ _ => DeviceServer.refusal)
    (call_instance project requests names) (fun i => List.forall_mem_singleton.mpr (clean i))
    instances schedule name

/-- However attach and detach requests on different instances take turns, each instance has at any
    time the map that it had, or this map with the edit of its own request, once that has had its
    two turns; the other instances have theirs. -/
theorem spread_updates_kept (distinct : Function.Injective names)
    (clean : ∀ i, Clean (names i).toList)
    (fits : ∀ i, rules.accepts (instancePath (names i)).url = true) (schedule : List ι) :
    let start := spread lxd project instances requests names
    let final := Pool.run ((deviceHost rule).serve rules) start schedule
    (∀ i, final.shared (octets (names i).toList) =
      if 2 ≤ schedule.count i then
        ((instances (octets (names i).toList)).1,
          rule.apply (instances (octets (names i).toList)).2
            ((requests i).edit.apply (instances (octets (names i).toList)).2))
      else instances (octets (names i).toList)) ∧
    (∀ i, 2 ≤ schedule.count i → final.threads i =
      ofExcept (finished lxd .ref (.reply (instances (octets (names i).toList)).1.receipt))) ∧
    ∀ name : String, (∀ i, names i ≠ name) →
      final.shared (octets name.toList) = instances (octets name.toList) := by
  intro start final
  have lookAlike := spread_filter lxd rules rule project instances requests names clean schedule
  refine ⟨?_, ?_, ?_⟩
  · intro i
    have same := (lookAlike (names i)).shared
    rw [filter_names distinct] at same
    split_ifs with enough
    · exact same.trans (solo_changed lxd rules rule project instances requests names i (clean i)
        (fits i) enough).1
    · have kept := solo_kept lxd rules rule project instances requests names i (clean i) (fits i)
        (Nat.lt_of_not_le enough)
      exact same.trans (congrFun kept _)
  · intro i enough
    have same := (lookAlike (names i)).threads i (decide_eq_true rfl)
    rw [filter_names distinct] at same
    exact same.trans (solo_changed lxd rules rule project instances requests names i (clean i)
      (fits i) enough).2
  · intro name apart
    have same := (lookAlike name).shared
    have none : (schedule.filter fun i => decide (names i = name)) = [] := by
      rw [List.filter_eq_nil_iff]
      intro i _
      simp [apart i]
    rw [none] at same
    exact same

end Run
end Spread

def hosted : List UInt8 → DeviceServer × Dict := fun _ => (web1, [])

def volumesOn : Bool → DeviceRequest
  | false => .attachVolume "ssd" "a"
  | true => .attachVolume "ssd" "b"

def twoNames : Bool → String
  | false => "web1"
  | true => "db1"

/-- The two requests that lose one of their volumes on one instance. -/
theorem interleaved_attachments_kept :
    let start := @spread plainPlatform ⟨{}⟩ none hosted Bool volumesOn twoNames
    let final := Pool.run (@LxdHost.serve plainPlatform _ _ httpx (deviceHost .merges) _) start
      [false, true, false, true]
    (∀ i, final.shared (octets (twoNames i).toList) =
      if 2 ≤ [false, true, false, true].count i then
        (web1, PatchRule.merges.apply [] ((volumesOn i).edit.apply []))
      else (web1, [])) ∧
    (∀ i, 2 ≤ [false, true, false, true].count i → final.threads i =
      ofExcept (@finished plainPlatform ⟨{}⟩ .ref (.reply web1.receipt))) ∧
    ∀ name : String, (∀ i, twoNames i ≠ name) →
      final.shared (octets name.toList) = (web1, []) :=
  @spread_updates_kept plainPlatform ⟨{}⟩ httpx .merges none hosted _ _ volumesOn twoNames
    (by intro i j; cases i <;> cases j <;> decide)
    (by intro i; cases i <;> decide) (by intro i; cases i <;> decide)
    [false, true, false, true]

end LxdApi
