import Switchboard.Http.Response
import Switchboard.Json.Fields
import Switchboard.Json.Writer
import Switchboard.Store

/-!
What a serving store says about itself: whether it still runs, at `/health`, and its counts, at
`/stats`.
-/
namespace Switchboard

open Http Json

def Stats.toValue (stats : Stats) : Value :=
  .object [("things", .ofNat stats.things), ("channels", .ofNat stats.channels),
    ("connections", .ofNat stats.connections), ("bridge_backlog", .ofNat stats.backlog)]

namespace Status

def resource? (stopped : Bool) (stats : Stats) (path : String) : Option Response :=
  if path = "/health" then
    some (if stopped then .plainText 503 "stopping" else .plainText 200 "ok")
  else if path = "/stats" then some (.json stats.toValue.render)
  else none

def answer (store : Store) (method path : String) : Response :=
  .ofResource method (resource? store.isStopped store.stats path)

end Status
end Switchboard
