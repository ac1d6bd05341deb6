import DmaReadout.Journal.Metric
import DmaReadout.Journal.Record

/-!
# Journals
-/

namespace DmaReadout

/-- What a channel has reported and counted, in order. -/
structure Journal where
  records : Array LogRecord := #[]
  metrics : Array Metric := #[]
deriving DecidableEq

namespace Journal

def note (record : LogRecord) (journal : Journal) : Journal :=
  { journal with records := journal.records.push record }

def count (metric : Metric) (journal : Journal) : Journal :=
  { journal with metrics := journal.metrics.push metric }

/-- Counts the superpages that were moved off links; a link that lost none is not
mentioned. -/
def countMoves (moves : List (LinkId × Nat)) (journal : Journal) : Journal :=
  let touched := moves.filter fun move => move.2 > 0
  { journal with
    metrics := journal.metrics ++ touched.map fun move => Metric.superpagesReady move.1 move.2 }

end Journal

end DmaReadout
