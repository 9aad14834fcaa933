import AlarmRelay.Duration
import AlarmRelay.Failure

/-!
# Hub configuration

One setting, the interval between snapshot reconciliations, which must not be
empty.
-/

set_option autoImplicit false

namespace AlarmRelay

structure HubConfig where
  snapshotInterval : Duration
  deriving DecidableEq, Repr

namespace HubConfig

def standard : HubConfig := ⟨.ofMillis 5000⟩

instance : Inhabited HubConfig := ⟨standard⟩

/-- A configuration is valid when its interval is not empty. -/
def validate (config : HubConfig) : Except HubError Unit :=
  if config.snapshotInterval.isZero then
    .error (.invalidConfig "snapshot interval must be non-zero")
  else .ok ()

def inspect (config : HubConfig) : String :=
  "HubConfig \x7b snapshot_interval: " ++ config.snapshotInterval.text ++ " \x7d"

end HubConfig
end AlarmRelay
