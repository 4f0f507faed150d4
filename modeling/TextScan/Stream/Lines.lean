import TextScan.Stream.Advance

namespace TextScan

/-- A window to be cut into lines, and the separator that cuts it. The forms tell how
the separator was written, as far as it was given in numbers. -/
structure Lines where
  stream : Stream
  separator : List Nat
  forms : List NumberForm
deriving DecidableEq

namespace Lines

/-- Cuts a window at separators, each looked for from the end of the one before. No more
than `tries` of them are looked for. -/
def cut (separator : List Nat) : (tries : Nat) → (rest : Stream) → List Stream
  | 0, rest => [rest]
  | tries + 1, rest =>
    match rest.findText? separator rest.start with
    | some (some place) =>
      rest.upTo place :: cut separator tries (rest.onFrom (place + separator.length))
    | _ => [rest]

/-- The pieces between separators. An empty separator makes each unit a piece. A separator
has at least one unit, so no more of them are looked for than there are units. -/
def pieces (lines : Lines) : List Stream :=
  let whole := lines.stream
  if lines.separator.isEmpty then
    (List.range whole.size).map fun offset =>
      whole.between (whole.start + offset) (whole.start + offset + 1)
  else cut lines.separator whole.size whole

def toList (lines : Lines) : List Stream := if lines.stream.isEmpty then [] else lines.pieces

end Lines

end TextScan
