import Mathlib.Data.List.Forall2
import TextScan.Comparison
import TextScan.Operation

/-! Runs on a family of streams: one stream and every window cut from it or from its
windows. A call names the stream it is made on. The windows it answers join the family, and
a fault leaves the other streams as they are. -/

namespace TextScan

/-- What is asked of a stream: an operation, a comparison with the stream on the left or
on the right, or a new stream on a part of it. -/
inductive Request where
  | perform (operation : Operation)
  | compare (relation : Relation) (swapped : Bool) (operand : Value)
  | part (start stop : Value)

/-- A request to the stream at a place of the family, in the configuration then in force. -/
structure Call where
  place : Nat
  environment : Environment
  request : Request

/-- The windows that an outcome holds: a stream, or each of the lines. -/
def Outcome.windows : Outcome → List Stream
  | .value (.stream window) => [window]
  | .value (.lines lines) => lines.toList
  | _ => []

namespace Stream

/-- The comparison with the stream on the left, or on the right. -/
def comparison (stream : Stream) (relation : Relation) (swapped : Bool) (operand : Value) :
    Except Fault Bool :=
  if swapped then Value.compare relation operand (.stream stream)
  else Value.compare relation (.stream stream) operand

/-- What a stream answers to a request, and the stream it leaves. -/
def react (environment : Environment) (stream : Stream) :
    Request → Except Fault (Outcome × Stream)
  | .perform operation => stream.perform environment operation
  | .compare relation swapped operand => do
    let answer ← stream.comparison relation swapped operand
    pure (.value (.bool answer), stream)
  | .part start stop => do
    let window ← stream.part start stop
    pure (.value (.stream window), stream)

/-- The stream as a request that faults leaves it. Trimming is done at the front before its
characters are read again for the back. -/
def halted (environment : Environment) (stream : Stream) : Request → Stream
  | .perform (.trim chars) =>
    match stream.perform environment (.trimFront chars) with
    | .ok (_, rest) => rest
    | .error _ => stream
  | _ => stream

end Stream

/-- A stream as a call found it, what it answered, and the stream as a fault leaves it. -/
structure Report where
  receiver : Stream
  result : Except Fault (Outcome × Stream)
  halted : Stream

def Stream.report (environment : Environment) (stream : Stream) (request : Request) : Report :=
  ⟨stream, stream.react environment request, stream.halted environment request⟩

namespace Report

def rest (report : Report) : Stream :=
  match report.result with
  | .ok (_, rest) => rest
  | .error _ => report.halted

def windows (report : Report) : List Stream :=
  match report.result with
  | .ok (outcome, _) => outcome.windows
  | .error _ => []

end Report

namespace Family

/-- Makes one call. A call on no stream of the family does nothing. -/
def call (family : List Stream) (call : Call) : Option Report × List Stream :=
  match family[call.place]? with
  | none => (none, family)
  | some receiver =>
    let report := receiver.report call.environment call.request
    (some report, family.set call.place report.rest ++ report.windows)

def run : List Stream → List Call → List (Option Report) × List Stream
  | family, [] => ([], family)
  | family, first :: rest =>
    let (report, next) := call family first
    let (reports, last) := run next rest
    (report :: reports, last)

section Pair

variable {related : Stream → Stream → Prop} {agreeing : Report → Report → Prop}
  {family family' : List Stream}

theorem related_getElem? (families : List.Forall₂ related family family') (place : Nat) :
    Option.Rel related family[place]? family'[place]? := by
  induction families generalizing place with
  | nil => exact .none
  | cons first rest ih =>
    cases place with
    | zero => exact .some first
    | succ place => simpa using ih place

theorem related_set (families : List.Forall₂ related family family') (place : Nat)
    {rest rest' : Stream} (left : related rest rest') :
    List.Forall₂ related (family.set place rest) (family'.set place rest') := by
  induction families generalizing place with
  | nil => exact .nil
  | cons first others ih =>
    cases place with
    | zero => exact .cons left others
    | succ place => exact .cons first (ih place)

variable (keeps : ∀ report report', agreeing report report' →
  related report.rest report'.rest ∧ List.Forall₂ related report.windows report'.windows)

include keeps

theorem call_related {given : Call} (families : List.Forall₂ related family family')
    (agrees : ∀ first second, related first second →
      agreeing (first.report given.environment given.request)
        (second.report given.environment given.request)) :
    Option.Rel agreeing (call family given).1 (call family' given).1 ∧
      List.Forall₂ related (call family given).2 (call family' given).2 := by
  have found := related_getElem? families given.place
  unfold call
  generalize family[given.place]? = receiver at found
  generalize family'[given.place]? = receiver' at found
  cases found with
  | none => exact ⟨.none, families⟩
  | some pair =>
    have same := agrees _ _ pair
    obtain ⟨left, windows⟩ := keeps _ _ same
    exact ⟨.some same, List.rel_append (related_set families _ left) windows⟩

/-- The same calls on two related families are answered alike and leave related families. -/
theorem run_related {calls : List Call} (families : List.Forall₂ related family family')
    (agrees : ∀ given ∈ calls, ∀ first second, related first second →
      agreeing (first.report given.environment given.request)
        (second.report given.environment given.request)) :
    List.Forall₂ (Option.Rel agreeing) (run family calls).1 (run family' calls).1 ∧
      List.Forall₂ related (run family calls).2 (run family' calls).2 := by
  induction calls generalizing family family' with
  | nil => exact ⟨.nil, families⟩
  | cons given calls ih =>
    obtain ⟨report, next⟩ := call_related keeps families (agrees given List.mem_cons_self)
    obtain ⟨reports, last⟩ := ih next fun other member =>
      agrees other (List.mem_cons_of_mem _ member)
    exact ⟨.cons report reports, last⟩

end Pair

end Family

end TextScan
