import Mathlib.Data.Rat.Defs

set_option autoImplicit false

/- `core/config.py`: the settings that the modelled code reads. -/
namespace LxdApi

inductive ConnectionMode where
  | local
  | remote
  deriving DecidableEq, Repr

def ConnectionMode.text : ConnectionMode → String
  | .local => "local"
  | .remote => "remote"

structure Settings where
  LXD_CONNECTION_MODE : ConnectionMode := .local
  LXD_TIMEOUT : Rat := 30
  JWT_ACCESS_TOKEN_EXPIRE_MINUTES : Int := 30
  JWT_REFRESH_TOKEN_EXPIRE_DAYS : Int := 7
  SEED_ADMIN_USERNAME : String := ""
  SEED_ADMIN_PASSWORD : String := ""

end LxdApi
