import ChangeFeed.Proofs.Interpretation
import ChangeFeed.Session

/-!
# Sessions: Transcripts

What a session is there to deliver: the events of its records, one record after the other. A record
that fails ends the transcript, and its successors do not count.
-/

namespace ChangeFeed

namespace Interpreter

variable {t : Interpreter}

/-- The events of records in their order, up to the first record that fails. -/
def transcript (t : Interpreter) : List LogRecord → List PlacedEvent
  | [] => []
  | r :: records =>
    match t.eventsOf r with
    | .ok events => events ++ t.transcript records
    | .error _ => []

@[simp] theorem transcript_nil (t : Interpreter) : t.transcript [] = [] := rfl

theorem transcript_cons_of_ok {r : LogRecord} {events : List PlacedEvent}
    (h : t.eventsOf r = .ok events) (records : List LogRecord) :
    t.transcript (r :: records) = events ++ t.transcript records := by
  simp only [transcript, h]

end Interpreter

/-! ## Scripts -/

/-- The record that a step of a script hands over. -/
def EngineStep.record? : EngineStep → Option LogRecord
  | .record r _ => some r
  | _ => none

/-- The records of a script, the first first. -/
def EngineStep.records (script : List EngineStep) : List LogRecord :=
  script.filterMap EngineStep.record?

@[simp] theorem EngineStep.records_record (r : LogRecord) (isLenient : Bool)
    (script : List EngineStep) :
    EngineStep.records (.record r isLenient :: script) = r :: records script := rfl

theorem EngineStep.records_of_none {step : EngineStep} (h : step.record? = none)
    (script : List EngineStep) : records (step :: script) = records script := by
  simp only [records, List.filterMap_cons, h]

end ChangeFeed
