import ProxySteward.Supervisor.State
import ProxySteward.Usage.Display

/-!
# What the dashboard shows

The snapshot of the supervisor and the list of keys as JSON values.
-/

namespace ProxySteward

/-- A record of the key list as part of a snapshot. -/
def KeyRecord.toJson (r : KeyRecord) : Json :=
  .record [("key", .text r.key), ("note", .text r.note), ("enabled", .bool r.enabled)]

/-- A record of the key list with its mask. -/
def KeyRecord.toMaskedJson (r : KeyRecord) : Json :=
  .record [("key", .text r.key), ("masked", .text r.masked), ("note", .text r.note),
    ("enabled", .bool r.enabled)]

/-- The status of the proxy. -/
def ServiceStatus.toJson (s : ServiceStatus) : Json :=
  .record [("running", .bool s.running), ("pid", .ofInt? (s.pid.map Int.ofNat)),
    ("detail", .ofText? s.detail)]

/-- A line of the log. -/
def LogEntry.toJson (e : LogEntry) : Json :=
  .record [("text", .text e.text), ("is_error", .bool e.isError)]

/-- The end of an action. -/
def Outcome.toJson (o : Outcome) : Json :=
  .record [("message", .text o.message), ("key", .ofText? o.key)]

/-- A snapshot. -/
def Snapshot.toJson (s : Snapshot) : Json :=
  .record [
    ("config_path", .ofText? s.configPath),
    ("base_url", .text s.baseUrl),
    ("monitor_enabled", .bool s.monitoring),
    ("refreshing", .bool s.refreshing),
    ("service", s.service.toJson),
    ("keys", .array (s.keys.map KeyRecord.toJson)),
    ("usage", match s.usage with
      | some u => u.toJson
      | none => .null),
    ("usage_error", .ofText? s.usageError),
    ("action_message", .ofText? s.actionMessage),
    ("logs", .array (s.logs.map LogEntry.toJson)),
    ("crash_count", .int s.crashCount),
    ("last_crash_at", .ofInt? (s.lastCrashAt.map Int.ofNat)),
    ("last_poll_at", .ofInt? (s.lastPollAt.map Int.ofNat)),
    ("title", .text s.title)]

end ProxySteward
