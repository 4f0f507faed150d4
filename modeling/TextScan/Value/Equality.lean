import TextScan.Value

namespace TextScan.Value

/-- Whether two item sequences hold the same numbers. -/
def sameItems (first second : List Value) : Bool :=
  first.length == second.length &&
    (first.zip second).all fun pair =>
      match pair.1.number?, pair.2.number? with
      | some number, some number' => number.sameAmount number'
      | _, _ => false

/-- Whether two numbers, truth values among them, have one amount. -/
def sameNumber (first second : Value) : Bool :=
  match first.number?, second.number? with
  | some number, some number' => number.sameAmount number'
  | _, _ => false

/-- The numbers a holder of bytes or items holds, one by one. -/
def heldItems? : Value → Option (List Value)
  | bytes codes => some ((Buffer.byteCodes codes).map fun (code : Nat) => int code)
  | byteArray codes => some ((Buffer.byteCodes codes).map fun (code : Nat) => int code)
  | array typed => some (typed.items.map ofItem)
  | memory view => some (view.items.map ofItem)
  | _ => none

/-- The bytes in memory of a holder of bytes or items. -/
def heldBytes? : Value → Option (List UInt8)
  | bytes codes => some codes
  | byteArray codes => some codes
  | array typed => typed.bytes?
  | memory view => some view.bytes
  | _ => none

/-- Two holders are compared item by item where one is a view, byte by byte where one is
a byte array, and as arrays or byte strings if they are of one sort; no other two agree. -/
def sameHolding (first second : Value) : Bool :=
  let itemwise := match first.heldItems?, second.heldItems? with
    | some items, some items' => sameItems items items'
    | _, _ => false
  let bytewise := match first.heldBytes?, second.heldBytes? with
    | some held, some held' => held == held'
    | _, _ => false
  match first, second with
  | memory _, _ => itemwise
  | byteArray _, _ => bytewise
  | _, byteArray _ => bytewise
  | _, memory _ => itemwise
  | bytes _, bytes _ => bytewise
  | array _, array _ => itemwise
  | _, _ => false

/-- Named tests are equal to themselves, built ones to no other. -/
def sameTest : CharTest Value → CharTest Value → Bool
  | .inClass charClass, .inClass charClass' => charClass == charClass'
  | .ownCode, .ownCode => true
  | _, _ => false

mutual

def equal : Value → Value → Bool
  | null, null => true
  | text points, text points' => points == points'
  | list members, list members' => equalAll members members'
  | tuple members, tuple members' => equalAll members members'
  | set members, set members' => members.length == members'.length && within members members'
  | set members, frozenSet members' =>
    members.length == members'.length && within members members'
  | frozenSet members, set members' =>
    members.length == members'.length && within members members'
  | frozenSet members, frozenSet members' =>
    members.length == members'.length && within members members'
  | range start stop, range start' stop' =>
    (decide (stop ≤ start) && decide (stop' ≤ start')) || (start == start' && stop == stop')
  | slice start stop step, slice start' stop' step' =>
    equal start start' && equal stop stop' && equal step step'
  | function test, function test' => sameTest test test'
  | stream window, stream window' => window.equalsStream window'
  | generator walk _, generator walk' _ => walk == walk'
  | location line column offset file, location line' column' offset' file' =>
    equal line line' && equal column column' && equal offset offset' && equal file file'
  | config assertions lineSeparator whitespace, config assertions' lineSeparator' whitespace' =>
    equal assertions assertions' && equal lineSeparator lineSeparator' &&
      equal whitespace whitespace'
  | first, second => sameNumber first second || sameHolding first second

def equalAll : List Value → List Value → Bool
  | [], [] => true
  | member :: rest, member' :: rest' => equal member member' && equalAll rest rest'
  | _, _ => false

/-- Whether each member of the first list is equal to one of the second. -/
def within : List Value → List Value → Bool
  | [], _ => true
  | member :: rest, others => (others.any fun other => equal member other) && within rest others

end

end TextScan.Value
