import FieldClock.Instant.Iso
import FieldClock.Json
import FieldClock.Round

/-!
# Reports as JSON

A report is one object on a line of its own. Members that an outcome has nothing for are left out.
-/

namespace FieldClock

/-- A device time as a JSON object: its two numbers. -/
def DeviceTime.json (d : DeviceTime) : Json :=
  .object <| .cons "epoch_seconds_2000" (.number d.seconds.toNat) <|
    .cons "milliseconds" (.number d.milliseconds.toNat) .nil

/-- A device time in a report: its instant, then its two numbers. -/
def DeviceTime.reportJson (d : DeviceTime) : Json :=
  .object <| .cons "iso" (.text d.toInstant.iso) <|
    .cons "epoch_seconds_2000" (.number d.seconds.toNat) <|
    .cons "milliseconds" (.number d.milliseconds.toNat) .nil

/-- A failure in a report. -/
def Failure.json (f : Failure) : Json :=
  .object <| .cons "kind" (.text f.kind) <| .cons "message" (.text f.message) .nil

/-- The name of how far an exchange got. -/
def Outcome.status : Outcome → String
  | .synced _ _ _ => "synced"
  | .unverified _ _ _ => "unverified"
  | .failed _ _ _ => "failed"

namespace Report

/-- A report as a JSON object. -/
def json (r : Report) : Json :=
  .object <| .cons "host" (.text r.target.host) <|
    .cons "port" (.number r.target.port.toNat) <|
    .cons "unit_id" (.number r.target.unitId.toNat) <|
    .cons "status" (.text r.outcome.status) <|
    (Members.optional "before" DeviceTime.reportJson r.outcome.before).append <|
    (Members.optional "host_time" DeviceTime.reportJson r.outcome.host).append <|
    (Members.optional "after" DeviceTime.reportJson r.outcome.after).append <|
    (Members.optional "offset_ms" Json.number r.outcome.offset).append <|
    Members.optional "error" Failure.json r.outcome.failure

/-- The line of a report. -/
def jsonLine (r : Report) : String := r.json.render ++ "\n"

end Report

end FieldClock
