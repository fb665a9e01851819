import LxdApi.Library.Pool
import LxdApi.PasswordLogins
import LxdApi.SessionReach

set_option autoImplicit false

/- What viewers leave behind: nothing. Whoever has no higher role, or no valid token, gets no
   further than to read. -/
namespace LxdApi
open Interaction Program

/-- A request that only reads, a subscription to events, or a word to the client. -/
def Effect.reads : Effect → Bool
  | .lxd req => req.method = .GET
  | .connect url =>
    match url.path with
    | .under .events _ => true
    | _ => false
  | .accept => true
  | .close _ => true
  | .sendText _ => true

section Routes
variable [Platform] {decodeToken : DecodeToken} {db : UserStore} (lxd : LXDClient)

end Routes

end LxdApi
