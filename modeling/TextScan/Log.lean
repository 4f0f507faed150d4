import TextScan.Config
import TextScan.Error

namespace TextScan

/-- The name of a logger, placed under the library's own unless it stands there. -/
def loggerName (name : Text) : Text :=
  let library := Text.ofString "libstream"
  let inside := Text.ofString "libstream."
  if name = library || inside.isPrefixOf name then name else inside ++ name

/-- Something a session logs. -/
inductive Event where
  | configSet (config : Config)
  | configPushed (config : Config)
  | assertionFailed (check : Check)

namespace Event

/-- The level, the logger and the message of an event. -/
def line : Event → Text
  | configSet config =>
    Text.ofString "DEBUG libstream.config: Stream config set: " ++ config.shown
  | configPushed config =>
    Text.ofString "DEBUG libstream.config: Stream config pushed: " ++ config.shown
  | assertionFailed check =>
    Text.ofString "ERROR libstream.stream: " ++ assertionReport check.message none none

end Event

/-- A fault is logged when a checked assertion raised it. -/
def Fault.events : Fault → List Event
  | .assertion check => [.assertionFailed check]
  | _ => []

end TextScan
