import JobDispatch.Config.Load

/-!
The configuration file that the program comes with. It has every section and leaves only the address
of the store open.
-/

namespace JobDispatch.Config

/-- The lines of the standard file. -/
def standardLines : List String :=
  [ "# Job coordinator default configuration.",
    "# Override with config/local.toml or JC__SECTION__KEY environment variables.",
    "",
    "shutdown_timeout_secs = 30",
    "",
    "[database]",
    "# Required: set JC__DATABASE__URL",
    "url = \"\"",
    "max_connections = 10",
    "min_connections = 1",
    "connect_timeout_secs = 10",
    "idle_timeout_secs = 600",
    "",
    "[logging]",
    "level = \"info\"",
    "format = \"json\"",
    "",
    "[election]",
    "# Generated from HOSTNAME when empty",
    "instance_id = \"\"",
    "renewal_interval_secs = 10",
    "lease_duration_secs = 30",
    "",
    "[scheduler]",
    "interval_secs = 30",
    "time_zone = \"UTC\"",
    "safety_margin_secs = 300",
    "",
    "[worker]",
    "idle_interval_ms = 1000",
    "lock_timeout_ms = 5000",
    "",
    "[results]",
    "retention_days = 30",
    "# Empty disables the purge job",
    "purge_schedule = \"0 4 * * *\"" ]

/-- The text of the standard file `config/default.toml`. -/
def standardFile : String := "\n".intercalate standardLines ++ "\n"

end JobDispatch.Config
