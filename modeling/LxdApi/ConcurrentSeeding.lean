import LxdApi.UserPrograms
import LxdApi.Admission
import LxdApi.Bcrypt

set_option autoImplicit false

/- `main.py`'s lifespan in several workers at once: each seeds the admin, all of them
   in one user table, and their round trips come in any order. -/
namespace LxdApi
open Interaction Program

section Seeding
variable [Platform] {ι : Type} [DecidableEq ι] {pwdContext : CryptContext}
  {decodeToken : DecodeToken} {settings : Settings} {salt : ι → String}

def seedName (settings : Settings) : String := strip settings.SEED_ADMIN_USERNAME

def SeedConfigured (settings : Settings) : Prop :=
  seedName settings ≠ "" ∧ settings.SEED_ADMIN_PASSWORD ≠ ""

abbrev Workers (ι : Type) := Pool UserEffect UserEffect.Reply String Unit UserStore ι

def startUp (settings : Settings) (salt : ι → String) (db : UserStore) : Workers ι :=
  ⟨db, fun i => seedAdminProgram settings (salt i)⟩

omit [Platform] [DecidableEq ι] in
@[simp] theorem startUp_shared (db : UserStore) : (startUp settings salt db).shared = db := rfl

omit [Platform] [DecidableEq ι] in
theorem startUp_threads (db : UserStore) (i : ι) :
    (startUp settings salt db).threads i = seedAdminProgram settings (salt i) := by
  simp only [startUp]

def startedUp (pwdContext : CryptContext) (decodeToken : DecodeToken) (settings : Settings)
    (salt : ι → String) (db : UserStore) (schedule : List ι) : Workers ι :=
  (startUp settings salt db).run (UserStore.serve pwdContext decodeToken) schedule

/- Every worker has returned, one row has the name, and one that had it before is as
   it was. -/
structure SeededOnce (settings : Settings) (db : UserStore) (pool : Workers ι) : Prop where
  returned : ∀ i, pool.threads i = .done ()
  once : (pool.shared.rows.map User.username).count (seedName settings) = 1
  kept : ∀ user ∈ db.rows, user.username = seedName settings → user ∈ pool.shared.rows

omit [Platform] [DecidableEq ι] in
theorem seedAdminProgram_configured (configured : SeedConfigured settings) (text : String) :
    seedAdminProgram settings text =
      .call (.getUserByUsername (seedName settings)) (seedUnlessExisting settings text) := by
  have given : ¬ (strip settings.SEED_ADMIN_USERNAME = "" ∨ settings.SEED_ADMIN_PASSWORD = "") :=
    not_or.mpr configured
  simp only [seedAdminProgram, if_neg given, seedName]

variable (pwdContext decodeToken) in
theorem step_looking (configured : SeedConfigured settings) {pool : Workers ι} {i : ι}
    (looking : pool.threads i = seedAdminProgram settings (salt i)) :
    (pool.step (UserStore.serve pwdContext decodeToken) i).shared = pool.shared ∧
      ((pool.shared.Taken (seedName settings) ∧
        (pool.step (UserStore.serve pwdContext decodeToken) i).threads i = .done ()) ∨
      (¬ pool.shared.Taken (seedName settings) ∧
        (pool.step (UserStore.serve pwdContext decodeToken) i).threads i =
          seedUnlessExisting settings (salt i) none)) := by
  rw [seedAdminProgram_configured configured] at looking
  rw [Pool.step_of_call _ looking]
  refine ⟨rfl, ?_⟩
  dsimp only
  rw [Function.update_self]
  cases found : pool.shared.getUserByUsername (seedName settings) with
  | none =>
    refine Or.inr ⟨(pool.shared.getUserByUsername_eq_none_iff _).mp found, ?_⟩
    simp only [UserStore.serve, found]
  | some user =>
    obtain ⟨member, named⟩ := (pool.shared.getUserByUsername_eq_some_iff _ user).mp found
    refine Or.inl ⟨(pool.shared.taken_iff _).mpr ⟨user, member, named⟩, ?_⟩
    simp only [UserStore.serve, found, seedUnlessExisting]

variable (decodeToken) in
theorem step_creating (rejects : RejectsNul pwdContext) {pool : Workers ι} {i : ι}
    (creating : pool.threads i = seedUnlessExisting settings (salt i) none) :
    ((HasNul settings.SEED_ADMIN_PASSWORD ∨ pool.shared.Taken (seedName settings)) ∧
      (pool.step (UserStore.serve pwdContext decodeToken) i).shared = pool.shared ∧
      ∃ exc, (pool.step (UserStore.serve pwdContext decodeToken) i).threads i = .raise exc) ∨
    (¬ HasNul settings.SEED_ADMIN_PASSWORD ∧ ¬ pool.shared.Taken (seedName settings) ∧
      (∃ user, user.username = seedName settings ∧
        (pool.step (UserStore.serve pwdContext decodeToken) i).shared.rows =
          pool.shared.rows ++ [user]) ∧
      (pool.step (UserStore.serve pwdContext decodeToken) i).threads i = .done ()) := by
  rw [Pool.step_of_call _ creating]
  dsimp only
  rw [Function.update_self]
  rcases pool.shared.createUser_cases pwdContext (seedName settings) settings.SEED_ADMIN_PASSWORD
      Role.ADMIN.value (salt i) with
    ⟨exc, hash, refused⟩ | ⟨_, exc, _, taken, refused⟩ | ⟨hashed, after, hash, free, created, rows⟩
  · have nul := (rejects.refused_iff _ _).mp ⟨exc, hash⟩
    simp only [seedName] at refused
    simp only [UserStore.serve, refused]
    exact Or.inl ⟨Or.inl nul, trivial, exc, rfl⟩
  · simp only [seedName] at refused
    simp only [UserStore.serve, refused]
    exact Or.inl ⟨Or.inr taken, trivial, exc, rfl⟩
  · simp only [seedName] at created rows
    simp only [UserStore.serve, created]
    exact Or.inr ⟨rejects.fine_of_ok hash, free, ⟨_, rfl, rows⟩, rfl⟩

/- The row is there, and no worker can come to create it again. -/
structure Settled (settings : Settings) (salt : ι → String) (db : UserStore) (pool : Workers ι) :
    Prop where
  taken : pool.shared.Taken (seedName settings)
  grown : db.rows <+: pool.shared.rows
  phase : ∀ i, pool.threads i = seedAdminProgram settings (salt i) ∨ pool.threads i = .done ()

theorem settled_step (configured : SeedConfigured settings) {db : UserStore} (pool : Workers ι)
    (i : ι) (settled : Settled settings salt db pool) :
    Settled settings salt db (pool.step (UserStore.serve pwdContext decodeToken) i) := by
  have grown : pool.shared.rows <+:
      (pool.step (UserStore.serve pwdContext decodeToken) i).shared.rows := step_rows pool i
  refine ⟨UserStore.taken_of_prefix grown settled.taken, settled.grown.trans grown, ?_⟩
  intro j
  by_cases own : j = i
  · subst own
    rcases settled.phase j with looking | done
    · rcases (step_looking pwdContext decodeToken configured looking).2 with
        ⟨_, returned⟩ | ⟨free, _⟩
      · exact Or.inr returned
      · exact absurd settled.taken free
    · rw [Pool.step_keeps_ended _ (by rw [done]; trivial)]
      exact Or.inr done
  · rw [Pool.step_other _ own]
    exact settled.phase j

theorem settled_run (configured : SeedConfigured settings) {db : UserStore} {pool : Workers ι}
    (settled : Settled settings salt db pool) (schedule : List ι) :
    Settled settings salt db (pool.run (UserStore.serve pwdContext decodeToken) schedule) :=
  Pool.run_induction (settled_step configured) settled schedule

omit [Platform] [DecidableEq ι] in
theorem settled_seeded {db : UserStore} {pool : Workers ι}
    (settled : Settled settings salt db pool) (configured : SeedConfigured settings)
    (complete : ∀ i, (pool.threads i).Ended) : SeededOnce settings db pool := by
  refine ⟨?_, List.count_eq_one_of_mem pool.shared.unique settled.taken, ?_⟩
  · intro i
    rcases settled.phase i with looking | done
    · have ended := complete i
      rw [looking, seedAdminProgram_configured configured] at ended
      exact ended.elim
    · exact done
  · intro user member _
    exact settled.grown.subset member

/- Some worker has raised or will: two are about to create the row, or one is and the
   row is there. -/
inductive Doomed (settings : Settings) (salt : ι → String) (pool : Workers ι) : Prop where
  | both (i j : ι) (distinct : i ≠ j)
      (first : pool.threads i = seedUnlessExisting settings (salt i) none)
      (second : pool.threads j = seedUnlessExisting settings (salt j) none)
  | late (i : ι) (creating : pool.threads i = seedUnlessExisting settings (salt i) none)
      (taken : pool.shared.Taken (seedName settings))
  | raised (i : ι) (exc : String) (error : pool.threads i = .raise exc)

theorem doomed_step (rejects : RejectsNul pwdContext) (pool : Workers ι) (k : ι)
    (doomed : Doomed settings salt pool) :
    Doomed settings salt (pool.step (UserStore.serve pwdContext decodeToken) k) := by
  -- When one of two creates the row, the other one comes too late.
  have created : ∀ i, k ≠ i → pool.threads k = seedUnlessExisting settings (salt k) none →
      pool.threads i = seedUnlessExisting settings (salt i) none →
      Doomed settings salt (pool.step (UserStore.serve pwdContext decodeToken) k) := by
    intro i distinct own other
    rcases step_creating decodeToken rejects own with
      ⟨_, _, exc, error⟩ | ⟨_, _, ⟨user, named, rows⟩, _⟩
    · exact .raised k exc error
    · refine .late i ?_ ?_
      · rw [Pool.step_other _ (Ne.symm distinct)]
        exact other
      · exact (UserStore.taken_append rows _).mpr (Or.inr named)
  cases doomed with
  | both i j distinct first second =>
    by_cases own : k = i
    · subst own
      exact created j distinct first second
    · by_cases other : k = j
      · subst other
        exact created i (Ne.symm distinct) second first
      · refine .both i j distinct ?_ ?_
        · rw [Pool.step_other _ (Ne.symm own)]
          exact first
        · rw [Pool.step_other _ (Ne.symm other)]
          exact second
  | late i creating taken =>
    by_cases own : k = i
    · subst own
      rcases step_creating decodeToken rejects creating with ⟨_, _, exc, error⟩ | ⟨_, free, _, _⟩
      · exact .raised k exc error
      · exact absurd taken free
    · refine .late i ?_ (UserStore.taken_of_prefix (step_rows pool k) taken)
      rw [Pool.step_other _ (Ne.symm own)]
      exact creating
  | raised i exc error =>
    refine .raised i exc ?_
    rw [Pool.step_keeps_ended _ (by rw [error]; trivial)]
    exact error

theorem doomed_run (rejects : RejectsNul pwdContext) {pool : Workers ι}
    (doomed : Doomed settings salt pool) (schedule : List ι) :
    Doomed settings salt (pool.run (UserStore.serve pwdContext decodeToken) schedule) :=
  Pool.run_induction (doomed_step rejects) doomed schedule

omit [Platform] [DecidableEq ι] in
theorem doomed_not_seeded {db : UserStore} {pool : Workers ι}
    (doomed : Doomed settings salt pool) : ¬ SeededOnce settings db pool := by
  intro seeded
  cases doomed with
  | both i j distinct first second =>
    rw [seeded.returned i] at first
    cases first
  | late i creating taken =>
    rw [seeded.returned i] at creating
    cases creating
  | raised i exc error =>
    rw [seeded.returned i] at error
    cases error

omit [Platform] [DecidableEq ι] in
theorem seeded_taken {db : UserStore} {pool : Workers ι} (seeded : SeededOnce settings db pool) :
    pool.shared.Taken (seedName settings) := by
  apply List.count_pos_iff.mp
  rw [seeded.once]
  exact Nat.one_pos

omit [Platform] [DecidableEq ι] in
theorem seedAdminProgram_within (settings : Settings) (text : String) :
    (seedAdminProgram settings text).Within 2 := by
  rcases Classical.em (SeedConfigured settings) with configured | missing
  · rw [seedAdminProgram_configured configured]
    intro existing
    cases existing with
    | some user => trivial
    | none =>
      intro created
      cases created <;> trivial
  · have blank : strip settings.SEED_ADMIN_USERNAME = "" ∨ settings.SEED_ADMIN_PASSWORD = "" := by
      by_contra given
      exact missing (not_or.mp given)
    simp only [seedAdminProgram, if_pos blank, Program.Within]

theorem startedUp_ended (db : UserStore) (schedule : List ι) {i : ι}
    (enough : 2 ≤ schedule.count i) :
    ((startedUp pwdContext decodeToken settings salt db schedule).threads i).Ended := by
  have within : ∀ i, ((startUp settings salt db).threads i).Within 2 := by
    intro i
    simp only [startUp_threads, seedAdminProgram_within]
  exact Pool.run_ended _ (within i) enough

theorem first_step (configured : SeedConfigured settings) {db : UserStore}
    (free : ¬ db.Taken (seedName settings)) (i : ι) :
    ((startUp settings salt db).step (UserStore.serve pwdContext decodeToken) i).shared = db ∧
    ((startUp settings salt db).step (UserStore.serve pwdContext decodeToken) i).threads i =
      seedUnlessExisting settings (salt i) none ∧
    ∀ j, j ≠ i →
      ((startUp settings salt db).step (UserStore.serve pwdContext decodeToken) i).threads j =
        seedAdminProgram settings (salt j) := by
  obtain ⟨same, phase⟩ := step_looking pwdContext decodeToken configured
    (@startUp_threads ι settings salt db i)
  rw [startUp_shared] at same phase
  refine ⟨same, ?_, ?_⟩
  · rcases phase with ⟨taken, _⟩ | ⟨_, creating⟩
    · exact absurd taken free
    · exact creating
  · intro j other
    rw [Pool.step_other _ other, startUp_threads]

theorem startedUp_cons_cons (db : UserStore) (i j : ι) (rest : List ι) :
    startedUp pwdContext decodeToken settings salt db (i :: j :: rest) =
      (((startUp settings salt db).step (UserStore.serve pwdContext decodeToken) i).step
        (UserStore.serve pwdContext decodeToken) j).run
          (UserStore.serve pwdContext decodeToken) rest := by
  simp only [startedUp, Pool.run, List.foldl_cons]

variable (decodeToken salt) in
theorem settled_after_both (rejects : RejectsNul pwdContext)
    (configured : SeedConfigured settings) (fine : ¬ HasNul settings.SEED_ADMIN_PASSWORD)
    {db : UserStore} (free : ¬ db.Taken (seedName settings)) (i : ι) :
    Settled settings salt db
      (((startUp settings salt db).step (UserStore.serve pwdContext decodeToken) i).step
        (UserStore.serve pwdContext decodeToken) i) := by
  obtain ⟨same, creating, others⟩ :=
    @first_step _ _ _ pwdContext decodeToken settings salt configured db free i
  rcases step_creating decodeToken rejects creating with
    ⟨refused, _⟩ | ⟨_, _, ⟨user, named, rows⟩, returned⟩
  · rw [same] at refused
    exact absurd refused (not_or.mpr ⟨fine, free⟩)
  · rw [same] at rows
    refine ⟨(UserStore.taken_append rows _).mpr (Or.inr named), ?_, ?_⟩
    · exact ⟨[user], rows.symm⟩
    · intro j
      by_cases own : j = i
      · subst own
        exact Or.inr returned
      · refine Or.inl ?_
        rw [← others j own]
        exact Pool.step_other _ own

variable (decodeToken salt) in
theorem doomed_after_both (rejects : RejectsNul pwdContext)
    (configured : SeedConfigured settings) {db : UserStore}
    (free : ¬ db.Taken (seedName settings)) {i j : ι}
    (bad : HasNul settings.SEED_ADMIN_PASSWORD ∨ j ≠ i) :
    Doomed settings salt
      (((startUp settings salt db).step (UserStore.serve pwdContext decodeToken) i).step
        (UserStore.serve pwdContext decodeToken) j) := by
  obtain ⟨same, creating, others⟩ :=
    @first_step _ _ _ pwdContext decodeToken settings salt configured db free i
  by_cases own : j = i
  · subst own
    have nul := bad.resolve_right (fun distinct => distinct rfl)
    rcases step_creating decodeToken rejects creating with
      ⟨_, _, exc, error⟩ | ⟨fine, _⟩
    · exact .raised j exc error
    · exact absurd nul fine
  · have looked := step_looking pwdContext decodeToken configured (others j own)
    rw [same] at looked
    rcases looked.2 with ⟨taken, _⟩ | ⟨_, second⟩
    · exact absurd taken free
    · refine .both i j (Ne.symm own) ?_ second
      rw [← creating]
      exact Pool.step_other _ (Ne.symm own)

theorem seeded_free_iff (rejects : RejectsNul pwdContext) (configured : SeedConfigured settings)
    {db : UserStore} (free : ¬ db.Taken (seedName settings)) (schedule : List ι)
    (complete : ∀ i,
      ((startedUp pwdContext decodeToken settings salt db schedule).threads i).Ended) :
    SeededOnce settings db (startedUp pwdContext decodeToken settings salt db schedule) ↔
      ¬ HasNul settings.SEED_ADMIN_PASSWORD ∧ ∃ i rest, schedule = i :: i :: rest := by
  rcases schedule with _ | ⟨i, _ | ⟨j, rest⟩⟩
  · refine iff_of_false (fun seeded => free (seeded_taken seeded)) ?_
    rintro ⟨_, _, _, shape⟩
    cases shape
  · obtain ⟨same, _⟩ :=
      @first_step _ _ _ pwdContext decodeToken settings salt configured db free i
    refine iff_of_false ?_ ?_
    · intro seeded
      have there := seeded_taken seeded
      simp only [startedUp, Pool.run, List.foldl_cons, List.foldl_nil, same] at there
      exact free there
    · rintro ⟨_, _, _, shape⟩
      cases shape
  · rw [startedUp_cons_cons] at complete ⊢
    by_cases good : ¬ HasNul settings.SEED_ADMIN_PASSWORD ∧ j = i
    · obtain ⟨fine, same⟩ := good
      subst same
      have start := settled_after_both decodeToken salt rejects configured fine free j
      have seeded := settled_seeded (settled_run configured start rest) configured complete
      exact iff_of_true seeded ⟨fine, j, rest, rfl⟩
    · have bad : HasNul settings.SEED_ADMIN_PASSWORD ∨ j ≠ i := by tauto
      have start := doomed_after_both decodeToken salt rejects configured free bad
      refine iff_of_false (doomed_not_seeded (doomed_run rejects start rest)) ?_
      rintro ⟨fine, _, _, shape⟩
      cases shape
      exact good ⟨fine, rfl⟩

/- However the round trips of the workers are ordered, every worker with two round trips
   has ended; and when all have ended, the admin is seeded once and no worker has failed
   exactly if the row was there, or the password can be hashed and the first worker to
   look for the row creates it before another looks. -/
theorem seeded_once_iff (rejects : RejectsNul pwdContext) (configured : SeedConfigured settings)
    (decodeToken : DecodeToken) (salt : ι → String) (db : UserStore) (schedule : List ι) :
    (∀ i, 2 ≤ schedule.count i →
      ((startedUp pwdContext decodeToken settings salt db schedule).threads i).Ended) ∧
    ((∀ i, ((startedUp pwdContext decodeToken settings salt db schedule).threads i).Ended) →
      (SeededOnce settings db (startedUp pwdContext decodeToken settings salt db schedule) ↔
        db.Taken (seedName settings) ∨
        ¬ HasNul settings.SEED_ADMIN_PASSWORD ∧ ∃ i rest, schedule = i :: i :: rest)) := by
  constructor
  · intro i enough
    exact startedUp_ended db schedule enough
  · intro complete
    by_cases taken : db.Taken (seedName settings)
    · have start : Settled settings salt db (startUp settings salt db) :=
        ⟨taken, List.prefix_rfl, fun i => Or.inl (startUp_threads db i)⟩
      have settled : Settled settings salt db
          (startedUp pwdContext decodeToken settings salt db schedule) :=
        settled_run configured start schedule
      exact iff_of_true (settled_seeded settled configured complete) (Or.inl taken)
    · rw [seeded_free_iff rejects configured taken schedule complete, or_iff_right taken]

end Seeding

def imageStart (schedule : List (Fin 4)) : Workers (Fin 4) :=
  @startedUp plainPlatform _ _ prefixContext adminToken seedSettings (fun _ => "salt") .empty
    schedule

theorem seedSettings_configured : SeedConfigured seedSettings :=
  ⟨by decide, by decide⟩

/-- One worker seeds before the others look: all four start. -/
theorem staggered_workers_start :
    SeededOnce seedSettings .empty (imageStart [2, 2, 0, 1, 3, 0, 1, 3]) := by
  obtain ⟨ends, seeded⟩ := @seeded_once_iff plainPlatform (Fin 4) _ prefixContext seedSettings
    prefixContext_bcrypt.toRejectsNul seedSettings_configured adminToken (fun _ => "salt") .empty
    [2, 2, 0, 1, 3, 0, 1, 3]
  exact (seeded fun i => ends i (by revert i; decide)).mpr
    (Or.inr ⟨by decide, 2, [0, 1, 3, 0, 1, 3], rfl⟩)

/-- All look before one creates: every worker has ended, but three of them by raising. -/
theorem simultaneous_workers_fail :
    (∀ i, ((imageStart [0, 1, 2, 3, 0, 1, 2, 3]).threads i).Ended) ∧
    (imageStart [0, 1, 2, 3, 0, 1, 2, 3]).threads 1 = .raise "username 'admin' already exists" ∧
    ¬ SeededOnce seedSettings .empty (imageStart [0, 1, 2, 3, 0, 1, 2, 3]) := by
  have failed : (imageStart [0, 1, 2, 3, 0, 1, 2, 3]).threads 1 =
      .raise "username 'admin' already exists" := rfl
  refine ⟨?_, failed, ?_⟩
  · intro i
    have enough : ∀ i : Fin 4, 2 ≤ [0, 1, 2, 3, 0, 1, 2, 3].count i := by decide
    apply @startedUp_ended plainPlatform
    exact enough i
  · intro seeded
    rw [seeded.returned 1] at failed
    cases failed

end LxdApi
