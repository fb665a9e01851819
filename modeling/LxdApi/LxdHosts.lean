import LxdApi.Library.Keepers
import LxdApi.RequestTargets

set_option autoImplicit false

/- LXD as a keeper of parts: of each request that reaches it, it is LXD that decides from the
   target which part of its state this is about. -/
namespace LxdApi
open Interaction

structure LxdHost (K S : Type) where
  part : Target → Option K
  answer : S → LXDRequest → Target → HttpReply × S
  elsewhere : LXDRequest → Target → HttpReply

namespace LxdHost
variable [Platform] {K S : Type} (rules : UrlRules) (host : LxdHost K S)

def key : Effect → Option K
  | .lxd req => (rules.target req).bind host.part
  | _ => none

def answerTo (s : S) : (effect : Effect) → effect.Reply × S
  | .lxd req =>
    match rules.target req with
    | none => (.invalidUrl, s)
    | some target => (.reply (host.answer s req target).1, (host.answer s req target).2)
  | .connect _ => (.ok (), s)
  | .accept => ((), s)
  | .close _ => ((), s)
  | .sendText _ => ((), s)

def otherwise : (effect : Effect) → effect.Reply
  | .lxd req =>
    match rules.target req with
    | none => .invalidUrl
    | some target => .reply (host.elsewhere req target)
  | .connect _ => .ok ()
  | .accept => ()
  | .close _ => ()
  | .sendText _ => ()

def keeper : Keeper Effect Effect.Reply K S :=
  ⟨host.key rules, host.answerTo rules, host.otherwise rules⟩

def serve [DecidableEq K] : (K → S) → (effect : Effect) → effect.Reply × (K → S) :=
  (host.keeper rules).serve

theorem staysAt_of_target {k : K} {req : LXDRequest}
    (reached : ∀ target, rules.target req = some target → host.part target = some k) :
    (host.keeper rules).StaysAt k (.lxd req) := by
  intro other its
  obtain ⟨target, sent, part⟩ := Option.bind_eq_some_iff.mp its
  rw [reached target sent] at part
  exact (Option.some.inj part).symm

theorem serve_of_target [DecidableEq K] {k : K} {req : LXDRequest} {target : Target}
    (sent : rules.target req = some target) (part : host.part target = some k) (parts : K → S) :
    host.serve rules parts (.lxd req) =
      (.reply (host.answer (parts k) req target).1,
        Function.update parts k (host.answer (parts k) req target).2) := by
  have its : (host.keeper rules).key (.lxd req) = some k := by
    simp only [keeper, key, sent, Option.bind_some, part]
  simp only [serve, Keeper.serve, its]
  simp only [keeper, answerTo, sent]

end LxdHost
end LxdApi
