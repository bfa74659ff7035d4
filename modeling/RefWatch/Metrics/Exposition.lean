import RefWatch.Metrics

namespace RefWatch.Metrics.Exposition

-- Positive numbers change to powers of ten sooner than others do.
def valueText (x : Float) : String :=
  if x.isNaN then "NaN"
  else if x.isInf then if x < 0 then "-Inf" else "+Inf"
  else if 0 < x then Number.floatText x { highest := 5 }
  else Number.floatText x

def escape (s : String) : String :=
  ((s.replace "\\" "\\\\").replace "\n" "\\n").replace "\"" "\\\""

def labelText (name value : String) : String := name ++ "=\"" ++ escape value ++ "\""

def sample (name : String) (labels : List (String × String)) (x : Float) : String :=
  name ++ "\x7b" ++ ",".intercalate (labels.map fun l => labelText l.1 l.2) ++ "\x7d " ++
    valueText x ++ "\n"

-- The comments of a family: what it counts, and how.
def heading (name help type : String) : String :=
  "# HELP " ++ name ++ " " ++ help ++ "\n# TYPE " ++ name ++ " " ++ type ++ "\n"

def counterText (name help : String) (labels : List String) (c : Counter) : String :=
  heading name help "counter" ++
    String.join (c.map fun e => sample name (labels.zip e.1) e.2.toFloat)

def boundTexts : List String := bounds.map valueText ++ ["+Inf"]

def histogramSamples (name : String) (labels : List (String × String)) (h : Histogram) : String :=
  String.join ((boundTexts.zip h.cumulative).map fun b =>
    sample (name ++ "_bucket") (labels ++ [("le", b.1)]) b.2.toFloat) ++
  sample (name ++ "_count") labels h.count.toFloat ++ sample (name ++ "_sum") labels h.sum

def histogramText (name help : String) (labels : List String) (s : Series Histogram) : String :=
  heading name help "histogram" ++
    String.join (s.map fun e => histogramSamples name (labels.zip e.1) e.2)

end Exposition

open Exposition in
def text (m : Metrics) : String :=
  counterText "scm_events_notifications_received_total"
    "Total number of webhook notifications received" ["kind"] m.received ++
  counterText "scm_events_notifications_dropped_total"
    "Total number of notifications dropped before scheduling" ["kind", "reason"] m.dropped ++
  counterText "scm_events_notifications_scheduled_total"
    "Total number of head events scheduled for delayed delivery" ["change_type", "kind"]
    m.scheduled ++
  counterText "scm_events_deliveries_total"
    "Total number of head events delivered to a matching configuration" ["kind", "target"]
    m.deliveries ++
  counterText "scm_events_heads_resolved_total" "Total number of heads reported to sources"
    ["head_kind"] m.heads ++
  counterText "scm_events_listener_failures_total" "Total number of listener callbacks that raised"
    ["listener"] m.failures ++
  histogramText "scm_events_delivery_lag_seconds"
    "Seconds between notification receipt and delivery" ["kind"] m.lag

-- Metrics that have not been set up leave nothing to collect.
def collect (m : Option Metrics) : String := (m.map text).getD ""

end RefWatch.Metrics
