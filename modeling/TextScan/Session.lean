import TextScan.Argument.Holder
import TextScan.Comparison
import TextScan.Session.Command
import TextScan.Subscript

/-! Sessions: streams in registers, with the configuration in force around them. A step
that faults moves no stream and changes no setting, and the session goes on after it; only
a walk that was gone through before the fault stays at its end, and a front that was trimmed
stays trimmed where the characters could not be read again for the back. -/

namespace TextScan

structure Session where
  store : Session.Store
  registers : List (String × Session.Object)
  /-- What is configured; it is read anew at each use. -/
  settings : Settings Session.Object
  /-- For each scope ever entered, the settings to go back to while it is not left. -/
  scopes : List (String × Option (Settings Session.Object))
  platform : String
  /-- What is configured outside the forks underway. -/
  outer : List (Settings Session.Object)

namespace Session

def defaultSettings : Settings Object := Config.default.map .value

def start (platform : String) : Session := ⟨.empty, [], defaultSettings, [], platform, []⟩

/-- What a step changed and answered, and what a register may keep of it. -/
structure Effect where
  session : Session
  result : Result
  kept : Object

def lookup (session : Session) (name : String) : Except Fault Object :=
  match session.registers.lookup name with
  | some object => .ok object
  | none => .error (.unknownRegister name)

def keep (session : Session) (name : String) (object : Object) : Session :=
  { session with
    registers := (name, object) :: session.registers.filter fun entry => entry.1 != name }

def streamOf? (session : Session) (cursor : Nat) : Option Stream :=
  (session.store.cursors[cursor]?).map session.store.stream

def valueOf (session : Session) : Object → Value
  | .stream cursor => ((session.streamOf? cursor).map Value.stream).getD .null
  | .lines window separator forms => .lines ⟨session.store.stream window, separator, forms⟩
  | .walk id =>
    .generator id (((session.store.walks[id]?).map fun walk =>
      (session.store.left walk).map session.store.shown).getD [])
  | .buffer id => .ofBuffer (session.store.buffer id)
  | .streams cursors => .list (cursors.map fun id => session.store.shown (.stream id))
  | .value value => value
  | .made value _ => value

/-- The configuration in force, as it reads now, and the platform. -/
def environment (session : Session) : Environment :=
  ⟨session.settings.map session.valueOf, session.platform⟩

def eval (session : Session) (term : Term) : Except Fault Value :=
  term.eval fun name => (session.lookup name).map session.valueOf

def evalMany (session : Session) (terms : List Term) : Except Fault (List Value) :=
  evalAll (fun name => (session.lookup name).map session.valueOf) terms

/-- A value that was made of terms refers to what is in the registers they name. -/
def made (session : Session) (value : Value) (terms : List Term) : Object :=
  .ofValue value ((namesAmong terms).flatMap fun name =>
    ((session.registers.lookup name).map Object.parts).getD [])

/-- What a term names: what a register holds, or else a value. -/
def hold (session : Session) : Term → Except Fault Object
  | .register name => session.lookup name
  | term => (session.eval term).map fun value => session.made value [term]

/-- The cursor in a register, which must hold a stream for `member` to be asked of it. -/
def cursorIn (session : Session) (name member : String) : Except Fault (Nat × Cursor) := do
  match ← session.lookup name with
  | .stream id =>
    match session.store.cursors[id]? with
    | some cursor => pure (id, cursor)
    | none => throw .badValue
  | object => throw (.missing (session.valueOf object).fullTypeName member)

def answer (session : Session) (value : Value) : Effect :=
  ⟨session, .value value, .value value⟩

/-- Puts a new cursor into the store and answers its stream. -/
def answerStream (session : Session) (cursor : Cursor) : Effect :=
  let (store, id) := session.store.addCursor cursor
  ⟨{ session with store }, .value (.stream (session.store.stream cursor)), .stream id⟩

/-- Puts units of a buffer into the store as a buffer of their own. Memory of a buffer that
lies in memory is a view of the same; a text or byte string taken whole is itself. -/
def holdContent (session : Session) (id : Nat) (content : Buffer) : Session × Object :=
  let own := session.store.buffer id
  let isWhole := (own.backing == .text || own.backing == .bytes) && content == own
  if isWhole then (session, .buffer id)
  else
    let exporter := match content.backing with
      | .memory .. => some (session.store.exporter id)
      | _ => none
    let (store, new) := session.store.addBuffer ⟨content, exporter⟩
    ({ session with store }, .buffer new)

/-- The effect of an answer that shows units of a buffer, if it is a buffer itself. -/
def answerContent (session : Session) (id : Nat) (value : Value) : Effect :=
  match value.buffer with
  | .ok content =>
    let (after, object) := session.holdContent id content
    ⟨after, .value value, object⟩
  | .error _ => session.answer value

/-- What is kept of a value that an operation answered for a cursor: its streams and lines
stay on the buffer of the cursor, and what is a buffer itself is put into the store. A location
refers to the file it was given. -/
def answerFrom (session : Session) (cursor : Cursor) (method : Method) (arguments : List Term)
    (value : Value) : Effect :=
  match value with
  | .stream stream => session.answerStream (.ofStream cursor.buffer cursor.pinned stream)
  | .lines lines =>
    ⟨session, .value value,
      .lines (.ofStream cursor.buffer cursor.pinned lines.stream) lines.separator lines.forms⟩
  | value =>
    if method = .buffer then ⟨session, .value value, .buffer cursor.buffer⟩
    else if method = .text ∨ method = .view then session.answerContent cursor.buffer value
    else if method = .location then ⟨session, .value value, session.made value arguments⟩
    else session.answer value

/-- What a method gives of a value that is no stream: its written forms, truth, length,
elements, copies, and the number it is looked up by. No other method is one of all values. -/
def ask (value : Value) (method : Method) : Except Fault Value :=
  match method, value with
  | .shown, value => .ok (.text value.shown)
  | .plain, value => .ok (.text value.plain)
  | .truth, value => .ok (.bool value.truth)
  | .toList, value =>
    match value.elements? with
    | some members => .ok (.list members)
    | none => .error (.notIterable value.fullTypeName)
  | .length, value =>
    match value.length? with
    | some length => .ok (.int length)
    | none => .error (.notSized value.fullTypeName)
  | .copy, .byteArray codes => .ok (.byteArray codes)
  | .copy, .list members => .ok (.list members)
  | .copy, .set members => .ok (.set members)
  | .duplicate, .generator _ _ => .error (.notCopied "'generator' object")
  | .duplicate, .memory _ => .error (.notCopied "memoryview objects")
  | .duplicate, value => .ok value
  | .hash, value =>
    match value.hashed? with
    | some number => .ok (.int number)
    | none => value.hashable?.bind fun _ => .error .badValue
  | method, value => .error (.missing value.fullTypeName method.name)

/-- What a method gives of a value that is no stream; only an item is looked up by a key. -/
def askWith (value : Value) (method : Method) (arguments : List Value) : Except Fault Value :=
  match method, arguments with
  | .item, key :: _ => value.subscript key
  | method, _ => ask value method

/-- What a walk over something that is no stream would give. -/
def yields (session : Session) : Object → List Yield
  | .lines window separator _ => session.store.left (.waiting (.lines window separator))
  | .walk id => ((session.store.walks[id]?).map session.store.left).getD []
  | .streams cursors => cursors.map .stream
  | _ => []

/-- What is kept of a list: the streams in it, or else values. -/
def answerList (session : Session) (value : Value) : List Yield → Effect
  | [] => session.answer value
  | .value _ :: _ => session.answer value
  | yields =>
    let (store, cursors) := session.store.gather yields
    ⟨{ session with store }, .value value, .streams cursors⟩

/-- What is kept of an item of a list of streams, or of several items of it. -/
def answerAmong (session : Session) (cursors : List Nat) (key value : Value) : Effect :=
  match Value.places .list cursors.length key with
  | .ok (.one offset) =>
    match cursors[offset]? with
    | some id => ⟨session, .value value, .stream id⟩
    | none => session.answer value
  | .ok (.some offsets) => ⟨session, .value value, .streams (Value.pick cursors offsets)⟩
  | .error _ => session.answer value

/-- What is kept of a value that was asked of something that is no stream: what is itself a
buffer, a walk or a list of streams stays one. -/
def answerOther (session : Session) (object : Object) (method : Method) (key value : Value) :
    Effect :=
  match object, method with
  | .buffer id, .item => session.answerContent id value
  | .buffer id, .copy => session.answerContent id value
  | .buffer id, .duplicate => session.answerContent id value
  | .streams cursors, .item => session.answerAmong cursors key value
  | .streams cursors, .copy => ⟨session, .value value, .streams cursors⟩
  | object, .duplicate => ⟨session, .value value, object⟩
  | object, .toList => session.answerList value (session.yields object)
  | _, _ => session.answer value

/-- Performs a method on a stream, or asks it of another value. -/
def call (session : Session) (on : String) (method : Method) (arguments : List Term) :
    Except Fault Effect := do
  let object ← session.lookup on
  let values ← session.evalMany arguments
  match object with
  | .stream id =>
    match session.store.cursors[id]? with
    | none => throw .badValue
    | some cursor =>
      let operation ← method.bind values
      let (outcome, rest) ← (session.store.stream cursor).perform session.environment operation
      let moved := { session with
        store := session.store.setCursor id (.ofStream cursor.buffer cursor.pinned rest) }
      match outcome with
      | .itself => pure ⟨moved, .itself, .stream id⟩
      | .value value => pure (moved.answerFrom cursor method arguments value)
  | object =>
    let answer ← askWith (session.valueOf object) method values
    pure (session.answerOther object method (values.headD .null) answer)

def creation : Signature := ⟨"Stream.__init__", [], 3⟩

/-- What a new stream is made over: what the first argument names, or else the empty text. -/
def sourceOf (session : Session) : List Term → Except Fault Object
  | term :: _ => session.hold term
  | [] => .ok (.value (.text []))

/-- Growable buffers are pinned while assertions are checked. -/
def pins (session : Session) (buffer : Buffer) : Bool :=
  session.environment.checksAssertions && buffer.backing.isGrowable

/-- A new stream over a window of another stream, over a buffer that another stream has, or
over the buffer a value is. -/
def createOver (session : Session) (object : Object) (values : List Value) :
    Except Fault Effect :=
  let start := values[1]?.getD (.int 0)
  let stop := values[2]?.getD .null
  match object with
  | .stream id =>
    match session.store.cursors[id]? with
    | some cursor => do
      let window ← (session.store.stream cursor).part start stop
      pure (session.answerStream (.ofStream cursor.buffer cursor.pinned window))
    | none => .error .badValue
  | .buffer id => do
    let buffer := session.store.buffer id
    let window ← buffer.window start stop
    pure (session.answerStream (.ofStream id (session.pins buffer) window))
  | _ => do
    let buffer ← (values.headD (.text [])).buffer.mapError (.unit none)
    let (store, id) := session.store.addBuffer ⟨buffer, none⟩
    let window ← buffer.window start stop
    pure ({ session with store }.answerStream (.ofStream id (session.pins buffer) window))

def create (session : Session) (arguments : List Term) : Except Fault Effect := do
  let values ← session.evalMany arguments
  creation.admit values.length
  let object ← session.sourceOf arguments
  session.createOver object values

/-- Everything a session keeps: what is in registers, and what is configured or will be
again. -/
def kept (session : Session) : List Object :=
  session.registers.map Prod.snd ++ session.settings.toList ++
    (session.scopes.flatMap fun entry => (entry.2.map Settings.toList).getD []) ++
    session.outer.flatMap Settings.toList

def isExported (session : Session) (id : Nat) : Bool :=
  session.kept.any fun object => object.parts.any (session.store.partHolds id)

/-- The fault of a unit that is in range for a buffer which may not grow. -/
def pinnedFault (buffer : Buffer) (code : Int) : Except Fault Fault :=
  match buffer.backing with
  | .array format _ _ =>
    match format.refusing? code with
    | some range => .error (.itemRange range code)
    | none => .ok .pinnedItems
  | _ => if 0 ≤ code ∧ code < 256 then .ok .pinnedBytes else .error .byteRange

/-- Grows a buffer of the store by one unit, unless something keeps it from growing. -/
def grow (session : Session) (id : Nat) (value : Value) : Except Fault Effect :=
  let buffer := session.store.buffer id
  if !buffer.backing.isGrowable then
    .error (.missing (Value.ofBuffer buffer).fullTypeName "append")
  else
    match value.int? with
    | none => .error (.notInteger value.fullTypeName)
    | some code => do
      let pinned ← pinnedFault buffer code
      if session.isExported id then throw pinned
      else if fits : 0 ≤ code ∧ code.toNat ≤ buffer.unit.maxValue then
        let store := session.store.setBuffer id (buffer.push code.toNat fits.2)
        pure ({ session with store }.answer .null)
      else throw .badValue

def append (session : Session) (on : String) (code : Term) : Except Fault Effect := do
  let (_, cursor) ← session.cursorIn on "buffer"
  let value ← session.eval code
  session.grow cursor.buffer value

/-- Puts a new walk into the store, which looks at nothing before it is asked for the first
value. -/
def startWalk (session : Session) (walk : Walk) : Effect :=
  let (store, id) := session.store.addWalk walk
  ⟨{ session with store }, .walk, .walk id⟩

/-- A new walk over what was named. A walk over a walk is that walk. -/
def walkOver (session : Session) : Object → Except Fault Effect
  | .stream id => .ok (session.startWalk (.waiting (.units id)))
  | .lines window separator _ => .ok (session.startWalk (.waiting (.lines window separator)))
  | .walk id => .ok ⟨session, .walk, .walk id⟩
  | .buffer id => .ok (session.startWalk (.buffer id 0))
  | .streams cursors => .ok (session.startWalk (.streams cursors 0))
  | object =>
    let value := session.valueOf object
    match value.elements? with
    | some values => .ok (session.startWalk (.values values))
    | none => .error (.notIterable value.fullTypeName)

def walk (session : Session) (on : String) : Except Fault Effect := do
  let object ← session.lookup on
  session.walkOver object

/-- The effect of what a walk gives next, with the walk behind it. Where there is nothing more
the walk is over. -/
def advance (session : Session) (id : Nat) : Option (Yield × Walk) → Effect
  | none =>
    ⟨{ session with store := session.store.setWalk id .finished }, .stopped,
      .value (.text (Text.ofString "<stop>"))⟩
  | some (given, later) =>
    let moved := { session with store := session.store.setWalk id later }
    match given with
    | .value value => moved.answer value
    | .line window => moved.answerStream window
    | .stream cursor => ⟨moved, .value (moved.store.shown given), .stream cursor⟩

def next (session : Session) (on : String) : Except Fault Effect := do
  match ← session.lookup on with
  | .walk id =>
    match session.store.walks[id]? with
    | some walk => pure (session.advance id (session.store.next? walk))
    | none => throw .badValue
  | object => throw (.notIterator (session.valueOf object).fullTypeName)

/-- The settings a caller gives, field by field; the rest are the default ones. -/
def settingsOf (session : Session) (fields : List (String × Term)) :
    Except Fault (Settings Object) := do
  let given ← fields.mapM fun field => do
    let object ← session.hold field.2
    pure (field.1, object)
  pure (defaultSettings.ofFields given)

/-- Leaves a scope, which brings back the settings from before it was entered. Leaving it
once more changes nothing. -/
def leave (session : Session) (scope : String) : Session :=
  match session.scopes.lookup scope with
  | some (some settings) =>
    { session with
      settings
      scopes := (scope, none) :: session.scopes.filter fun entry => entry.1 != scope }
  | _ => session

/-- Enters a scope with new settings. A scope of that name that was not left is left
before. -/
def enter (session : Session) (scope : String) (settings : Settings Object) : Session :=
  let outside := session.leave scope
  { outside with
    settings
    scopes := (scope, some outside.settings) ::
      outside.scopes.filter fun entry => entry.1 != scope }

/-- Whether a value is one of those of which there is only one: nothing, truth values,
small numbers, and the shortest texts and byte strings. -/
def isUnique : Value → Bool
  | .null => true
  | .bool _ => true
  | .int code => decide (-5 ≤ code) && decide (code ≤ 256)
  | .text points => Store.isUnique (.ofText points)
  | .bytes codes => Store.isUnique (.ofBytes codes)
  | .tuple members => members.isEmpty
  | _ => false

/-- Whether two operands are one object. Cursors, buffers and walks may have several
names; of other values only unique ones are the same under two names. -/
def same (session : Session) (on : String) (other : Term) : Except Fault Effect := do
  let object ← session.lookup on
  let second ← session.hold other
  let own := session.valueOf object
  let value := session.valueOf second
  let answer := match object, second with
    | .stream first, .stream second => first == second
    | .buffer first, .buffer second => first == second
    | .walk first, .walk second => first == second
    | _, _ =>
      (match other with
        | .register name => on == name
        | _ => false) || (isUnique own && own.typeName == value.typeName && own.equal value)
  pure (session.answer (.bool answer))

def sameBuffer (session : Session) (on : String) (other : Term) : Except Fault Effect := do
  let (_, first) ← session.cursorIn on "buffer"
  let value ← session.eval other
  match other with
  | .register name =>
    let (_, second) ← session.cursorIn name "buffer"
    pure (session.answer (.bool (first.buffer == second.buffer)))
  | _ => throw (.missing value.fullTypeName "buffer")

/-- The answer of a comparison with an operand, which may be the receiver itself. What has
no content to compare is equal to itself alone. -/
def compared (isItself : Bool) (relation : Relation) (swapped : Bool) (own value : Value) :
    Except Fault Bool :=
  if isItself && relation = .eq then .ok true
  else if isItself && relation = .ne then .ok false
  else if swapped then value.compare relation own
  else own.compare relation value

def compare (session : Session) (on : String) (relation : Relation) (swapped : Bool)
    (operand : Term) : Except Fault Effect := do
  let object ← session.lookup on
  let value ← session.eval operand
  let isItself := match operand, object with
    | .register name, .lines .. => on == name
    | _, _ => false
  let answer ← compared isItself relation swapped (session.valueOf object) value
  pure (session.answer (.bool answer))

def effect (session : Session) : Command → Except Fault Effect
  | .create arguments => session.create arguments
  | .call on method arguments => session.call on method arguments
  | .compare on relation swapped operand => session.compare on relation swapped operand
  | .sameBuffer on other => session.sameBuffer on other
  | .same on other => session.same on other
  | .walk on => session.walk on
  | .next on => session.next on
  | .append on code => session.append on code
  | .withFile on file => do
    let object ← session.lookup on
    let value ← session.eval file
    match session.valueOf object with
    | .location line column offset former =>
      let moved := (Value.location line column offset former).withFile value
      pure ⟨session, .value moved, session.made moved [file]⟩
    | other => throw (.missing other.fullTypeName "with_file")
  | .properties on => do
    let (_, cursor) ← session.cursorIn on "start"
    let stream := session.store.stream cursor
    pure ⟨session, .properties (.startOf stream) (.stopOf stream) stream.unit, .value .null⟩
  | .setConfig fields => do
    let settings ← session.settingsOf fields
    pure ({ session with settings }.answer .null)
  | .resetConfig => .ok ({ session with settings := defaultSettings }.answer .null)
  | .readConfig =>
    let value := session.environment.config.toValue
    .ok ⟨session, .value value, .ofValue value (session.settings.toList.flatMap Object.parts)⟩
  | .pushConfig scope fields => do
    let settings ← session.settingsOf fields
    pure ((session.enter scope settings).answer .null)
  | .popConfig scope =>
    match session.scopes.lookup scope with
    | some _ => .ok ((session.leave scope).answer (.bool false))
    | none => .error (.unknownScope scope)
  | .setPlatform platform =>
    let moved := { session with platform }
    .ok (moved.answer (.text moved.environment.platformSeparator))

/-- What a command logs when it succeeds. -/
def events (session : Session) : Command → List Event
  | .setConfig _ => [.configSet session.environment.config]
  | .pushConfig _ _ => [.configPushed session.environment.config]
  | _ => []

def receiver? : Command → Option String
  | .call on _ _ => some on
  | .compare on _ _ _ => some on
  | .sameBuffer on _ => some on
  | .same on _ => some on
  | .walk on => some on
  | .next on => some on
  | .append on _ => some on
  | .withFile on _ => some on
  | .properties on => some on
  | _ => none

def window? (session : Session) (object : Option Object) : Option (Value × Value) :=
  match object with
  | some (.stream id) =>
    (session.streamOf? id).map fun stream => (.startOf stream, .stopOf stream)
  | _ => none

/-- The walks that a method goes through, its arguments being read. -/
def walksCalled (session : Session) (on : String) (method : Method) (arguments : List Term) :
    Except Fault (List Nat) := do
  match ← session.lookup on with
  | .stream id =>
    let some stream := session.streamOf? id | pure []
    let operation ← method.bind (← session.evalMany arguments)
    pure (stream.walksRead session.environment operation)
  | .walk id => pure (if method = .toList then [id] else [])
  | _ => pure []

def walksUsed (session : Session) : Command → List Nat
  | .call on method arguments =>
    ((session.walksCalled on method arguments).toOption).getD []
  | .compare on _ _ operand =>
    match session.lookup on, session.eval operand with
    | .ok object, .ok value => Value.walksCompared (session.valueOf object) value
    | _, _ => []
  | _ => []

/-- The session as a command that faults leaves it, the walks it went through apart. Trimming
is done at the front before its characters are read again for the back. -/
def halted (session : Session) : Command → Session
  | .call on .trim arguments =>
    match session.call on .trimFront arguments with
    | .ok done => done.session
    | .error _ => session
  | _ => session

def finish (session : Session) (walks : List Nat) : Session :=
  { session with store := walks.foldl (fun store id => store.setWalk id .finished) session.store }

/-- Performs a command, ends the walks it went through, keeps what it gave, and answers
it. -/
def act (session : Session) (command : Command) (name : Option String) : Session × Answer :=
  let asked := (receiver? command).bind fun on => session.registers.lookup on
  let walks := session.walksUsed command
  match session.effect command with
  | .error fault =>
    let halted := session.halted command
    (halted.finish walks, .act (.error fault) (halted.window? asked) fault.events)
  | .ok done =>
    let done := { done with session := done.session.finish walks }
    let after := match name with
      | some name => done.session.keep name done.kept
      | none => done.session
    (after, .act (.ok done.result) (after.window? asked) (after.events command))

/-- A session within a fork, where the configuration is a fresh one or the one in force. -/
def forked (session : Session) (fresh : Bool) : Session :=
  { session with
    settings := if fresh then defaultSettings else session.settings
    outer := session.settings :: session.outer }

mutual

def step (session : Session) : Step → Session × Answer
  | .act command name => session.act command name
  | .fork fresh steps =>
    let (after, answers) := run (session.forked fresh) steps
    ({ after with settings := session.settings, outer := session.outer }, .fork answers)

def run (session : Session) : List Step → Session × List Answer
  | [] => (session, [])
  | first :: rest =>
    let (next, answer) := step session first
    let (last, answers) := run next rest
    (last, answer :: answers)

end

end Session

end TextScan
