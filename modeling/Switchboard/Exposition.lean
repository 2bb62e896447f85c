import Switchboard.Http.Response
import Switchboard.Store

/-!
Counts in the exposition format of metrics: for every family a line of help, a line with its type
and a line for each sample, the families in the order of their names and the samples in the order
of their labels. A family without samples is left out. An event kind has a sample from its first
event on.
-/
namespace Switchboard

inductive MetricType where
  | gauge | counter
  deriving DecidableEq, Repr

def MetricType.label : MetricType → String
  | .gauge => "gauge"
  | .counter => "counter"

/-- A family of metrics. A sample has the kind of event that it counts or stands for all. -/
structure MetricFamily where
  name : String
  help : String
  type : MetricType
  samples : List (Option EventKind × Nat)

namespace MetricFamily

def sampleLine (name : String) (sample : Option EventKind × Nat) : String :=
  let label :=
    match sample.1 with
    | none => ""
    | some kind => "\x7bkind=\"" ++ kind.label ++ "\"\x7d"
  name ++ label ++ " " ++ Decimal.text sample.2

def lines (family : MetricFamily) : List String :=
  if family.samples.isEmpty then []
  else
    ["# HELP " ++ family.name ++ " " ++ family.help,
      "# TYPE " ++ family.name ++ " " ++ family.type.label]
      ++ family.samples.map (sampleLine family.name)

end MetricFamily

namespace Exposition

def kinds : List EventKind := [.channelRemoved, .connect, .disconnect]

/-- The samples of the kinds that were counted at all. -/
def kindSamples (counts : KindCounts) : List (Option EventKind × Nat) :=
  (kinds.map fun kind => (some kind, counts.get kind)).filter fun sample => sample.2 != 0

def families (gauges : Stats) (tally : Tally) : List MetricFamily :=
  [⟨"thingstore_bridge_backlog", "Connection events waiting on the bridge.", .gauge,
      [(none, gauges.backlog)]⟩,
    ⟨"thingstore_bridge_events_applied_total", "Connection events applied, labeled by kind.",
      .counter, kindSamples tally.applied⟩,
    ⟨"thingstore_bridge_events_emitted_total", "Connection events emitted, labeled by kind.",
      .counter, kindSamples tally.emitted⟩,
    ⟨"thingstore_channels", "Number of channels currently stored.", .gauge,
      [(none, gauges.channels)]⟩,
    ⟨"thingstore_connections", "Number of channel/thing connections.", .gauge,
      [(none, gauges.connections)]⟩,
    ⟨"thingstore_rejected_batches_total",
      "Total number of save or remove batches that failed.", .counter,
      [(none, tally.rejected)]⟩,
    ⟨"thingstore_things", "Number of things currently stored.", .gauge,
      [(none, gauges.things)]⟩]

def lines (gauges : Stats) (tally : Tally) : List String :=
  (families gauges tally).flatMap MetricFamily.lines

def resource? (gauges : Stats) (tally : Tally) (path : String) : Option Http.Response :=
  if path = "/metrics" then
    some ⟨200, some "text/plain; version=0.0.4",
      String.join ((lines gauges tally).map (· ++ "\n"))⟩
  else none

end Exposition

def Stats.unset : Stats := ⟨0, 0, 0, 0⟩

end Switchboard
