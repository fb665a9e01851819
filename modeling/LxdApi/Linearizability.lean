import LxdApi.ServerPrograms
import LxdApi.Admission
import LxdApi.Bcrypt

set_option autoImplicit false

/- Requests that run at once and come to at most one round trip after their guard. They
   have the effect and the answers they would have one after the other. -/
namespace LxdApi
open Interaction Program

theorem UserStore.getUserByUsername_grows {db after : UserStore} (grown : db.rows <+: after.rows)
    {username : String} {user : User} (found : db.getUserByUsername username = some user) :
    after.getUserByUsername username = some user := by
  rw [getUserByUsername_eq_some_iff] at found ⊢
  exact ⟨grown.subset found.1, found.2⟩

def ServerCall.Atomic : ServerCall → Prop
  | .route called _ => called.roundTrips = 1
  | _ => True

instance (call : ServerCall) : Decidable call.Atomic := by
  cases call <;> simp only [ServerCall.Atomic] <;> infer_instance

def Backend.Later {S : Type} (b after : Backend S) : Prop := b.db.rows <+: after.db.rows

theorem Backend.Later.refl {S : Type} (b : Backend S) : b.Later b := List.prefix_rfl

theorem Backend.Later.trans {S : Type} (b c d : Backend S) (first : b.Later c)
    (second : c.Later d) : b.Later d := List.IsPrefix.trans first second

section Linearizability
variable [Platform] {settings : Settings} {pwdContext : CryptContext} {decodeToken : DecodeToken}
  {lxd : LXDClient} {S : Type} {answer : S → (effect : Effect) → effect.Reply × S}

theorem restGuard_grows {db after : UserStore} (grown : db.rows <+: after.rows) {role : Role}
    {creds : Option String} {user : User}
    (admitted : restGuard decodeToken db role creds = .ok user) :
    restGuard decodeToken after role creds = .ok user := by
  rw [restGuard_ok_iff, getCurrentUser_ok_iff] at admitted ⊢
  obtain ⟨⟨token, payload, name, given, nonempty, decoded, access, sub, named, found, active⟩,
    enough⟩ := admitted
  exact ⟨⟨token, payload, name, given, nonempty, decoded, access, sub, named,
    db.getUserByUsername_grows grown found, active⟩, enough⟩

theorem backend_serve_later (b : Backend S) (effect : ServerEffect) :
    b.Later (Backend.serve pwdContext decodeToken answer b effect).2 := by
  cases effect with
  | user effect => exact serve_rows b.db effect
  | authenticate username password => exact List.prefix_rfl
  | refreshUser token => exact List.prefix_rfl
  | currentUser creds => exact List.prefix_rfl
  | wsGate role token => exact List.prefix_rfl
  | listUsers => exact List.prefix_rfl
  | outward effect => exact List.prefix_rfl

theorem guarded_postponable {role : Role} {creds : Option String}
    {rest : Except HTTPException User → ServerProgram}
    (refused : ∀ exc, (rest (.error exc)).Ended) (admitted : ∀ user, (rest (.ok user)).Within 1)
    (b : Backend S) :
    (Program.call (.user (.requireRole role creds)) rest : ServerProgram).Postponable
      (Backend.serve pwdContext decodeToken answer) Backend.Later b := by
  intro t _
  have served :
      (Backend.serve pwdContext decodeToken answer t (.user (.requireRole role creds))).1 =
      restGuard decodeToken t.db role creds := rfl
  rw [served]
  cases guard : restGuard decodeToken t.db role creds with
  | error exc => exact Or.inl (refused exc)
  | ok user =>
    refine Or.inr ⟨?_, postponable_of_within_one (admitted user) t⟩
    intro u grown
    have again : restGuard decodeToken u.db role creds = .ok user := restGuard_grows grown guard
    simp only [Backend.serve, UserStore.serve, guard, again]

omit [Platform] in
theorem ws_roundTrips {call : Call} {role : Role} (ws : call.guard = .ws role) :
    call.roundTrips ≠ 1 := by
  cases call <;> first | (cases ws; done) | exact Nat.succ_succ_ne_one _

theorem program_postponable {call : ServerCall} (atomic : call.Atomic) (b : Backend S) :
    (call.program settings lxd).Postponable (Backend.serve pwdContext decodeToken answer)
      Backend.Later b := by
  cases call with
  | login now username password => exact postponable_of_within_one (within_of_query _) b
  | refresh now refreshToken => exact postponable_of_within_one (within_of_query _) b
  | me creds => exact postponable_of_within_one (within_of_query _) b
  | register creds payload salt =>
    refine guarded_postponable ?_ ?_ b
    · intro exc
      trivial
    · intro admin
      exact register_within payload salt
  | listUsers creds =>
    refine guarded_postponable ?_ ?_ b
    · intro exc
      trivial
    · intro admin
      exact within_of_query _
  | route called creds =>
    have body : (outward (called.program lxd)).Within 1 :=
      embed_within ((handler_ends_within_iff lxd called 1).mpr (le_of_eq atomic))
    cases guard : called.guard with
    | «open» =>
      simp only [ServerCall.program, routeProgram, guard]
      exact postponable_of_within_one body b
    | rest role =>
      simp only [ServerCall.program, routeProgram, guard]
      refine guarded_postponable ?_ ?_ b
      · intro exc
        trivial
      · intro user
        exact body
    | ws role => exact absurd atomic (ws_roundTrips guard)

omit [Platform] in
theorem embed_running {body : Handler Answer} {calls : Nat} (costs : body.Costs (calls + 1)) :
    ¬ (outward body).Ended := by
  cases body with
  | done a => exact absurd ((costs 0).mp trivial) (by omega)
  | raise x => exact absurd ((costs 0).mp trivial) (by omega)
  | call effect rest => exact fun ended => ended

theorem program_running (call : ServerCall) : ¬ (call.program settings lxd).Ended := by
  cases call with
  | route called creds =>
    simp only [ServerCall.program, routeProgram]
    cases guard : called.guard with
    | «open» =>
      have healthDeep : called.roundTrips = 0 + 1 := by
        cases called <;> first | (cases guard; done) | rfl
      exact embed_running ((handler_costs lxd called).of_eq healthDeep)
    | rest role => exact fun ended => ended
    | ws role => exact fun ended => ended
  | _ => exact fun ended => ended

variable (settings pwdContext decodeToken lxd answer)
variable {ι : Type} [DecidableEq ι]

def servedAtOnce (calls : ι → ServerCall) (b : Backend S) (schedule : List ι) :
    Pool ServerEffect ServerEffect.Reply Raised ServerAnswer (Backend S) ι :=
  Pool.run (Backend.serve pwdContext decodeToken answer)
    ⟨b, fun i => (calls i).program settings lxd⟩ schedule

/-- However many round trips of other requests are served in between, a request is answered
    once it has had its own. -/
theorem requests_wait_free (calls : ι → ServerCall) (b : Backend S) (schedule : List ι) (i : ι)
    (served : (calls i).roundTrips ≤ schedule.count i) :
    ∃ outcome, (servedAtOnce settings pwdContext decodeToken lxd answer calls b schedule).threads i =
      ofExcept outcome :=
  (ended_iff_outcome _).mp (Pool.run_ended _ (program_within settings lxd (calls i)) served)

/- The requests that have been answered, taken one after the other in this order, explain
   all that has been answered and all that has changed; a request that was answered before
   another began comes before it. -/
structure InTurn (calls : ι → ServerCall) (b : Backend S) (schedule order : List ι) : Prop where
  once : order.Nodup
  answered : ∀ i, i ∈ order ↔
    ((servedAtOnce settings pwdContext decodeToken lxd answer calls b schedule).threads i).Ended
  inTime : ∀ before after i j, schedule = before ++ after →
    ((servedAtOnce settings pwdContext decodeToken lxd answer calls b before).threads i).Ended →
    j ∉ before → j ∈ order → [i, j].Sublist order
  state : (servedAtOnce settings pwdContext decodeToken lxd answer calls b schedule).shared =
    Machine.final (fun b call => call.alone settings pwdContext decodeToken lxd answer b) b
      (order.map calls)
  answers :
    order.map (servedAtOnce settings pwdContext decodeToken lxd answer calls b schedule).threads =
      ((Machine.record (fun b call => call.alone settings pwdContext decodeToken lxd answer b) b
        (order.map calls)).map Machine.Entry.output).map ofExcept

/-- However the round trips of atomic requests are interleaved, the requests are served in
    turn: in the order in which they are answered. -/
theorem requests_linearizable (calls : ι → ServerCall) (atomic : ∀ i, (calls i).Atomic)
    (b : Backend S) (schedule : List ι) :
    ∃ order, InTurn settings pwdContext decodeToken lxd answer calls b schedule order := by
  have running : ∀ i, ¬ ((calls i).program settings lxd).Ended := fun i => program_running (calls i)
  have linearized := linearized_of_postponable Backend.Later.refl Backend.Later.trans
    (@backend_serve_later _ pwdContext decodeToken S answer) b
    (fun i => @program_postponable _ settings pwdContext decodeToken lxd S answer _ (atomic i) b)
    schedule
  have alone : alone (Backend.serve pwdContext decodeToken answer)
      (fun i => (calls i).program settings lxd) =
      fun b i => (calls i).alone settings pwdContext decodeToken lxd answer b := by
    funext b i
    exact program_runFrom (calls i) b
  obtain ⟨state, answers⟩ := linearized
  rw [alone] at state answers
  refine ⟨Pool.finishers (Backend.serve pwdContext decodeToken answer)
    ⟨b, fun i => (calls i).program settings lxd⟩ schedule, Pool.finishers_nodup _ schedule,
    ?_, ?_, ?_, ?_⟩
  · intro i
    rw [Pool.mem_finishers_iff]
    exact and_iff_right (running i)
  · intro before after i j split ended idle finishes
    subst split
    exact Pool.finishers_in_time _ (running i) ended idle finishes
  · rw [servedAtOnce, state]
    exact Machine.final_comap _ calls b _
  · rw [← Machine.outputs_comap _ calls b, List.map_map]
    exact answers

end Linearizability

def newViewer : UserCreate where
  username := "bob"
  password := "long enough"
  usernameLength := by decide
  usernamePattern := List.all_eq_true.mp (by decide)
  passwordLength := by decide

def mixedCalls : Fin 3 → ServerCall
  | 0 => .register (some "t") newViewer "salt"
  | 1 => .login 0 "bob" "long enough"
  | 2 => .route (.createProject [("name", .str "p")]) (some "t")

def countingLxd (count : Nat) (effect : Effect) : effect.Reply × Nat :=
  (answering (fun _ => deletedReply (.str "op")) effect, count + 1)

/-- The login is served between the two round trips of the registration, and comes before it. -/
theorem mixed_requests_in_turn :
    ∃ order, @InTurn plainPlatform {} prefixContext adminToken ⟨{}⟩ Nat countingLxd (Fin 3) _
      mixedCalls ⟨seededStore, 0⟩ [0, 2, 1, 2, 0] order :=
  @requests_linearizable plainPlatform {} prefixContext adminToken ⟨{}⟩ Nat countingLxd (Fin 3) _
    mixedCalls (by decide) ⟨seededStore, 0⟩ [0, 2, 1, 2, 0]

theorem login_answered :
    ∃ outcome, (@servedAtOnce plainPlatform {} prefixContext adminToken ⟨{}⟩ Nat countingLxd (Fin 3) _
      mixedCalls ⟨seededStore, 0⟩ [0, 2, 1]).threads 1 = ofExcept outcome :=
  @requests_wait_free plainPlatform {} prefixContext adminToken ⟨{}⟩ Nat countingLxd (Fin 3) _
    mixedCalls ⟨seededStore, 0⟩ [0, 2, 1] 1 (by decide)

end LxdApi
