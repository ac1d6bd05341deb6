import DmaReadout.Lifecycle
import DmaReadout.Link.Id

/-!
# Metrics

What a channel counts. Every event adds to one series, which has a name and a label, and
`Metric.totals` sums the series.
-/

namespace DmaReadout

/-- A countable event. -/
inductive Metric
  /-- The card took the descriptor of a superpage. -/
  | superpagePushed (link : LinkId)
  /-- Completed superpages were moved to the ready queue. -/
  | superpagesReady (link : LinkId) (count : Nat)
  /-- The card counted more completions than superpages were outstanding. -/
  | protocolViolation (link : LinkId)
  /-- A transition was timed. How long it took is not kept. -/
  | transition (kind : Transition)
deriving DecidableEq

/-- What metrics are summed under. -/
structure Series where
  name : String
  label : String
deriving DecidableEq

/-- The order of series: by name, then by label, as texts. -/
def Series.precedes (a b : Series) : Bool :=
  a.name < b.name || (a.name == b.name && a.label < b.label)

namespace Metric

def series : Metric → Series
  | superpagePushed link => ⟨"superpages_pushed_total", s!"link={link}"⟩
  | superpagesReady link _ => ⟨"superpages_ready_total", s!"link={link}"⟩
  | protocolViolation link => ⟨"protocol_violations_total", s!"link={link}"⟩
  | transition kind =>
    ⟨"channel_transition_duration_seconds", s!"transition={kind.name}"⟩

/-- How much the event adds to its series. -/
def amount : Metric → Nat
  | superpagesReady _ count => count
  | superpagePushed _ | protocolViolation _ | transition _ => 1

/-- Adds to a series in an ordered list of totals. -/
def addTotal (series : Series) (amount : Nat) : List (Series × Nat) → List (Series × Nat)
  | [] => [(series, amount)]
  | (head, total) :: rest =>
    if series = head then (head, total + amount) :: rest
    else if series.precedes head then (series, amount) :: (head, total) :: rest
    else (head, total) :: addTotal series amount rest

/-- The sum of every series that was touched, in order. -/
def totals (metrics : List Metric) : List (Series × Nat) :=
  metrics.foldl (fun sums metric => addTotal metric.series metric.amount sums) []

end Metric

end DmaReadout
