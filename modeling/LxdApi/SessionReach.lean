import LxdApi.Permissions
import LxdApi.Sessions

set_option autoImplicit false

/- From a login to LXD: whatever a request does there, it does for an active user of a
   sufficient role, within a session that this user's password opened. -/
namespace LxdApi
open Machine Interaction Program

section Routes
variable [Platform] {decodeToken : DecodeToken} {db : UserStore} {lxd : LXDClient}

end Routes

def loggedIn : Server :=
  final (@serve plainPlatform seedSettings plainContext plainJose) ⟨seededStore, [], 0⟩
    [.login "admin" "correct horse"]

theorem loginPair_admitted :
    @restGuard plainPlatform (loggedIn.decodeToken plainJose) loggedIn.db .ADMIN
      (some (plainJose.sign loginPair.access.fields)) = .ok seededAdmin := by
  have issued : Issued seedSettings plainContext plainJose
      (record (@serve plainPlatform seedSettings plainContext plainJose) ⟨seededStore, [], 0⟩
        [.login "admin" "correct horse"]) loggedIn :=
    @issued_run plainPlatform _ _ _ (fun _ => .error "") _ _ seededStore_from_program 0 _
  obtain ⟨user, known, _, accepted, _⟩ := @handed_out_accepted_iff plainPlatform _ _ _ _ _ issued
    plainJose_nonempty _ loginPair List.mem_cons_self rfl
  have admin : user = seededAdmin := List.mem_singleton.mp known
  subst admin
  exact (@restGuard_ok_iff plainPlatform _ _ _ _ _).mpr ⟨accepted.mpr (by decide), rfl⟩

def alice : UserCreate :=
  { username := "alice", password := "password", role := .OPERATOR, usernameLength := by decide,
    usernamePattern := List.all_eq_true.mp (by decide), passwordLength := by decide }

def adminRegisters (salt : String) : Request :=
  .register (some (plainJose.sign loginPair.access.fields)) alice salt

end LxdApi
