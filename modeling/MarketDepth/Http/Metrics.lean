/-
MarketDepth/Http/Metrics.lean

The page of metrics.

Every count is shown with a line of help and a line that gives its type, and
only once there was something to count; the number of dropped messages is
shown from the first report of it, even if that was zero.
-/
import MarketDepth.Market

namespace MarketDepth.Http

/-- One metric on the page. -/
structure Metric where
  name : String
  help : String
  /-- The word for its type. -/
  kind : String
  /-- What follows the name on a line, and the count. -/
  samples : List (String × Nat)

namespace Metric

/-- A count that is shown if `shown` says so. -/
def counter (name help : String) (shown : Bool) (n : Nat) : Metric :=
  ⟨name, help, "counter", if shown then [("", n)] else []⟩

def lines (m : Metric) : List String :=
  if m.samples.isEmpty then []
  else
    ["# HELP " ++ m.name ++ " " ++ m.help, "# TYPE " ++ m.name ++ " " ++ m.kind] ++
      m.samples.map fun (suffix, n) => m.name ++ suffix ++ " " ++ toString n

end Metric

/-- The sum of a count over all books. -/
def total (m : Market) (f : Channel → Nat) : Nat :=
  m.channels.foldl (fun n p => n + f p.2) 0

/-- A sample for a reason that came up. -/
def reasonSample (label : String) (n : Nat) : List (String × Nat) :=
  if n = 0 then [] else [("\x7breason=\"" ++ label ++ "\"\x7d", n)]

/-- The reasons for which books needed new snapshots. -/
def desyncSamples (m : Market) : List (String × Nat) :=
  reasonSample "sequence_gap" (total m (·.meters.sequenceGaps)) ++
  reasonSample "checksum_mismatch" (total m (·.meters.checksumMismatches)) ++
  reasonSample "buffer_overflow" (total m (·.meters.tooManyHeld)) ++
  reasonSample "unknown_level" (total m (·.meters.unknownLevels))

def metrics (m : Market) : List Metric :=
  let positive (name help : String) (n : Nat) : Metric := .counter name help (n ≠ 0) n
  [⟨"depth_process_latency_ms", "Depth update processing latency in milliseconds", "summary",
      if m.messages = 0 then [] else [("_count", m.messages)]⟩,
   positive "depth_updates_applied_total" "Total number of depth updates applied"
      (total m (·.stats.applied)),
   positive "depth_updates_buffered_total"
      "Total number of depth updates buffered before a snapshot" (total m (·.stats.held)),
   .counter "depth_updates_discarded_total"
      "Total number of depth updates discarded as stale or during resync"
      (total m (·.meters.discardReports) ≠ 0) (total m (·.stats.discarded)),
   positive "depth_snapshots_loaded_total" "Total number of snapshots loaded"
      (total m (·.stats.snapshots)),
   ⟨"depth_resyncs_total", "Total number of resyncs triggered", "counter", desyncSamples m⟩,
   positive "depth_buffer_overflows_total" "Total number of pre-sync buffer overflows"
      (total m (·.meters.tooManyHeld)),
   positive "node_pool_allocations_total" "Total number of ladder nodes allocated"
      m.pool.allocated,
   positive "node_pool_reuses_total" "Total number of ladder nodes reused" m.pool.reused,
   positive "node_pool_purged_total" "Total number of expired ladder nodes purged" m.pool.purged]

/-- The lines of the page. -/
def metricLines (m : Market) : List String := (metrics m).flatMap Metric.lines

end MarketDepth.Http
