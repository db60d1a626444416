import TriggerScript.Report.Diagnostic

/-!
# Queues of diagnostics

One batch of declarations or one script under assembly reports into a queue. The queue
keeps what is reported in order, but leaves out errors beyond a limit and reports that
repeat an earlier one.
-/

namespace TriggerScript
namespace Report

/-- What a queue leaves out. -/
structure Limits where
  /-- How many errors count before the rest is left out; zero lets all of them in. -/
  errorLimit : Nat
  /-- Whether a report with the code, message and
  source of an earlier one is left out. -/
  deduplicate : Bool
deriving DecidableEq

namespace Limits

def standard : Limits := ⟨100, true⟩

def unlimited : Limits := ⟨0, false⟩

end Limits

/-- What two reports share if one repeats the other. -/
structure RepeatKey where
  code : Code
  message : String
  source : Option String
deriving DecidableEq

def Diagnostic.repeatKey
    (d : Diagnostic) : RepeatKey :=
  ⟨d.code, d.message, d.source⟩

/-- The diagnostics of one batch, in the order of their reports. -/
structure Queue where
  limits : Limits
  kept : List Diagnostic
  /-- The keys of the reports that got past the limit. -/
  reported : List RepeatKey
  /-- How many errors were reported, kept or not. -/
  errorCount : Nat

namespace Queue

/-- A queue without reports. -/
def empty
    (limits : Limits) : Queue :=
  ⟨limits, [], [], 0⟩

def errorCountWith
    (q : Queue) (d : Diagnostic) : Nat :=
  if d.isError then q.errorCount + 1 else q.errorCount

/-- Whether a report is an error beyond the limit. -/
def overLimit
    (q : Queue) (d : Diagnostic) : Bool :=
  d.isError && q.limits.errorLimit != 0 && q.limits.errorLimit < q.errorCount + 1

/-- Whether a report is left out as a repeat. -/
def repeats
    (q : Queue) (d : Diagnostic) : Bool :=
  q.limits.deduplicate && q.reported.contains d.repeatKey

/-- Report a diagnostic; the answer tells whether it was kept. -/
def add
    (q : Queue) (d : Diagnostic) : Bool × Queue :=
  if q.overLimit d then
    (false, { q with errorCount := q.errorCountWith d })
  else if q.repeats d then
    (false, { q with errorCount := q.errorCountWith d })
  else
    (true,
      { q with
        kept := q.kept ++ [d]
        reported := d.repeatKey :: q.reported
        errorCount := q.errorCountWith d })

def push
    (q : Queue) (d : Diagnostic) : Queue :=
  (q.add d).2

def extend
    (q : Queue) (ds : List Diagnostic) : Queue :=
  ds.foldl push q

/-- Whether an error was reported, kept or not. -/
def hasErrors
    (q : Queue) : Bool :=
  q.errorCount != 0

def size
    (q : Queue) : Nat :=
  q.kept.length

def isEmpty
    (q : Queue) : Bool :=
  q.kept.isEmpty

/-- Hand over what is kept, and start a new batch. -/
def flush
    (q : Queue) : List Diagnostic × Queue :=
  (q.kept, empty q.limits)

end Queue

end Report
end TriggerScript
