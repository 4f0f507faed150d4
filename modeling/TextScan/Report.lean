import TextScan.Argument.Bound
import TextScan.Log

namespace TextScan

/-- The report of a failed assertion, the place of the caller in it. -/
structure AssertionReport where
  message : Value
  line : Value
  file : Value

namespace AssertionReport

def signature : Signature := ⟨"StreamAssertionError.__init__", ["message"], 2⟩

def ofValues (values : List Value) : Except Fault AssertionReport := do
  signature.admit values.length
  pure ⟨values.headD .null, values[1]?.getD .null, values[2]?.getD .null⟩

/-- A line is left out if it is nothing, a file if it counts as false. -/
def shown (report : AssertionReport) : Text :=
  let line := match report.line with
    | .null => none
    | line => some line.plain
  let file := if report.file.truth then some report.file.plain else none
  assertionReport report.message.plain line file

end AssertionReport

/-- The report of what does not fit a unit. -/
structure UnitReport where
  name : Value
  message : Value

namespace UnitReport

def signature : Signature := ⟨"UnitError.__init__", ["unit_name", "message"], 0⟩

def ofValues (values : List Value) : Except Fault UnitReport := do
  signature.admit values.length
  pure ⟨values.headD .null, values[1]?.getD .null⟩

def shown (report : UnitReport) : Text :=
  Fault.unitMessage report.name.plain report.message.plain

end UnitReport

namespace Value

/-- The report of an error without a form of its own: nothing, its only argument, or all
of them. -/
def report : List Value → Text
  | [] => []
  | [message] => message.plain
  | messages => (tuple messages).shown

/-- What a location is made of. -/
def locationSignature : Signature :=
  ⟨"SourceLocation.__init__", ["lineno", "col_offset"], 2⟩

/-- A location of any values. The offset is zero and the file nothing where they are left
out. -/
def locationOf (values : List Value) : Except Fault Value := do
  locationSignature.admit values.length
  pure (.location (values.headD .null) (values[1]?.getD .null) (values[2]?.getD (.int 0))
    (values[3]?.getD .null))

/-- The name of the logger that a value names. -/
def loggerName : Value → Except Fault Value
  | text name => .ok (.text (TextScan.loggerName name))
  | bytes _ => .error .textAmongBytes
  | byteArray _ => .error .textAmongBytes
  | value => .error (.missing value.fullTypeName "startswith")

end Value

end TextScan
