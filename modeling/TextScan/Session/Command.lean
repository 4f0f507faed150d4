import TextScan.Log
import TextScan.Operation.Method
import TextScan.Session.Term

namespace TextScan.Session

inductive Command where
  /-- A new stream over a source. -/
  | create (arguments : List Term)
  /-- A method of the stream, or of the lines, in a register. -/
  | call (on : String) (method : Method) (arguments : List Term)
  /-- A comparison with the stream on the left, or on the right if swapped. -/
  | compare (on : String) (relation : Relation) (swapped : Bool) (operand : Term)
  | sameBuffer (on : String) (other : Term)
  | same (on : String) (other : Term)
  /-- A walk over the units of a stream or over lines. -/
  | walk (on : String)
  | next (on : String)
  | append (on : String) (code : Term)
  | withFile (on : String) (file : Term)
  | properties (on : String)
  /-- The fields given, in order. -/
  | setConfig (fields : List (String × Term))
  | resetConfig
  | readConfig
  | pushConfig (scope : String) (fields : List (String × Term))
  | popConfig (scope : String)
  | setPlatform (platform : String)

/-- A step performs a command and may keep its result in a register, or takes steps of
its own whose configuration stays inside: a fresh one, or the one in force. -/
inductive Step where
  | act (command : Command) (keep : Option String)
  | fork (fresh : Bool) (steps : List Step)
deriving Inhabited

inductive Result where
  | value (value : Value)
  | itself
  | walk
  | stopped
  | properties (start stop : Value) (unit : CharUnit)

/-- The answer to a step: its result or its fault, the window of the stream it was asked
of as it was left, and what was logged. -/
inductive Answer where
  | act (result : Except Fault Result) (window : Option (Value × Value)) (log : List Event)
  | fork (answers : List Answer)

end TextScan.Session
