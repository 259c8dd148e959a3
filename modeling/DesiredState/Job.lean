/-!
# Jobs

A job is work that a device does on its own time: it is submitted, or only
watched, and then polled.  Six jobs are known by name; any other name makes a
custom job, and a custom job is never the same as a known one, whatever its
name.
-/

namespace DesiredState

/-- A kind of asynchronous work on a device. -/
inductive Job where
  | applyPolicy
  | installSoftware
  | awaitReboot
  | restoreConfig
  | configReload
  | settleProvisioning
  | custom (name : String)
deriving Inhabited, Repr, DecidableEq

namespace Job

/-- The jobs that are known by name. -/
def known : List Job :=
  [.applyPolicy, .installSoftware, .awaitReboot, .restoreConfig, .configReload,
    .settleProvisioning]

/-- The name of a job. -/
def name : Job → String
  | .applyPolicy => "apply-policy"
  | .installSoftware => "install-software"
  | .awaitReboot => "await-reboot"
  | .restoreConfig => "restore-config"
  | .configReload => "config-reload"
  | .settleProvisioning => "settle-provisioning"
  | .custom name => name

/-- The known job of a name. -/
def known? (name : String) : Option Job :=
  known.find? fun job => job.name == name

/-- The job of a name: the known one, or else a custom one. -/
def ofName (name : String) : Job :=
  (known? name).getD (.custom name)

end Job
end DesiredState
