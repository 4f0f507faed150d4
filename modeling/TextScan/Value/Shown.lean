import TextScan.Text.Quoted
import TextScan.Value

namespace TextScan

def bracketed (opening closing : String) (members : List Text) : Text :=
  Text.ofString opening ++ Text.joinWith (Text.ofString ", ") members ++ Text.ofString closing

/-- A tuple of one keeps a comma. -/
def shownTuple : List Text → Text
  | [member] => bracketed "(" ",)" [member]
  | members => bracketed "(" ")" members

def shownInt (value : Int) : Text := Text.ofString (toString value)

/-- The digits of a number without the zeros it ends with. -/
def significantDigits (value : Nat) : List Char :=
  (((toString value).toList.reverse).dropWhile fun c => c = '0').reverse

/-- The digits of a decimal around its point, `before` of them in front of it; at least
one digit stands on either side. -/
def aroundPoint (digits : List Char) (before : Int) : List Char :=
  if before ≤ 0 then
    ['0', '.'] ++ List.replicate before.natAbs '0' ++ digits
  else
    let count := before.toNat
    let whole := digits.take count ++ List.replicate (count - digits.length) '0'
    let rest := digits.drop count
    whole ++ ['.'] ++ (if rest.isEmpty then ['0'] else rest)

/-- The digits of a decimal with one in front of the point, and its exponent, a sign and
at least two digits. -/
def withExponent (digits : List Char) (exponent : Int) : List Char :=
  let fraction := if digits.length ≤ 1 then [] else '.' :: digits.drop 1
  let magnitude := (toString exponent.natAbs).toList
  digits.take 1 ++ fraction ++ ['e', if exponent < 0 then '-' else '+']
    ++ List.replicate (2 - magnitude.length) '0' ++ magnitude

/-- A decimal stands around its point while its first digit counts at least a
ten-thousandth and less than ten to the sixteenth, and has an exponent otherwise. -/
def shownFraction (mantissa : Int) (places : Nat) : Text :=
  let sign := if mantissa < 0 then ['-'] else []
  let digits := significantDigits mantissa.natAbs
  let exponent : Int := ((toString mantissa.natAbs).length : Int) - places - 1
  let amount :=
    if mantissa = 0 then ['0', '.', '0']
    else if -4 ≤ exponent ∧ exponent < 16 then aroundPoint digits (exponent + 1)
    else withExponent digits exponent
  Text.ofString (String.ofList (sign ++ amount))

/-- The items of an array, which are left out when there are none; characters stand as
one text. -/
def shownArray (format : ItemFormat) (items : List Item) : Text :=
  let name := Text.ofString "array(" ++ Quoted.text (Text.ofString format.name)
  let characters := items.filterMap fun item =>
    match item with
    | .char point => some point
    | _ => none
  let shownItem : Item → Text
    | .int code => shownInt code
    | .fraction mantissa places => shownFraction mantissa places
    | .char point => Quoted.text [point]
  if items.isEmpty then name ++ Text.ofString ")"
  else if characters.length = items.length then
    name ++ Text.ofString ", " ++ Quoted.text characters ++ Text.ofString ")"
  else name ++ Text.ofString ", " ++ bracketed "[" "])" (items.map shownItem)

def shownForm (form : NumberForm) (code : Nat) : Text :=
  match form with
  | .truth => Text.ofString (if code = 0 then "False" else "True")
  | .number => shownInt code

/-- Numbers in their forms, those without one as numbers. -/
def shownForms : List NumberForm → List Nat → List Text
  | form :: forms, code :: codes => shownForm form code :: shownForms forms codes
  | _, codes => codes.map fun (code : Nat) => shownInt code

/-- The units of a text argument as its unit writes them. -/
def CharUnit.shownText (unit : CharUnit) (forms : List NumberForm) (codes : List Nat) : Text :=
  match unit with
  | .wide => Quoted.text (Text.ofCodes codes)
  | .narrow => Quoted.bytes codes
  | _ => shownTuple (shownForms forms codes)

namespace Stream

/-- Units held as text or bytes are quoted, those of arrays and views listed; the window
follows. -/
def shown (stream : Stream) : Text :=
  let content := match stream.buffer.backing with
    | .text => Quoted.text (Text.ofCodes stream.content)
    | .bytes => Quoted.bytes stream.content
    | .byteArray => Quoted.bytes stream.content
    | _ => shownTuple (stream.content.map fun (code : Nat) => shownInt code)
  Text.ofString "Stream(" ++ content ++ Text.ofString ", "
    ++ shownForm stream.startForm stream.start ++ Text.ofString ":"
    ++ shownForm stream.stopForm stream.stop ++ Text.ofString ")"

end Stream

def Lines.shown (lines : Lines) : Text :=
  Text.ofString "Lines(" ++ lines.stream.shown ++ Text.ofString ", separator="
    ++ lines.stream.unit.shownText lines.forms lines.separator ++ Text.ofString ")"

namespace Value

mutual

def shown : Value → Text
  | null => Text.ofString "None"
  | bool value => Text.ofString (if value then "True" else "False")
  | int value => shownInt value
  | fraction mantissa places => shownFraction mantissa places
  | text points => Quoted.text points
  | bytes codes => Quoted.bytes (Buffer.byteCodes codes)
  | byteArray codes => Quoted.byteArray (Buffer.byteCodes codes)
  | array typed => shownArray typed.format typed.items
  | memory _ => Text.ofString "<memory>"
  | released => Text.ofString "<released memory>"
  | list members => bracketed "[" "]" (shownAll members)
  | tuple members => shownTuple (shownAll members)
  | set members =>
    if members.isEmpty then Text.ofString "set()"
    else bracketed "\x7b" "\x7d" (shownAll members)
  | frozenSet members =>
    if members.isEmpty then Text.ofString "frozenset()"
    else bracketed "frozenset(\x7b" "\x7d)" (shownAll members)
  | range start stop => bracketed "range(" ")" [shownInt start, shownInt stop]
  | slice start stop step => bracketed "slice(" ")" [shown start, shown stop, shown step]
  | function _ => Text.ofString "<function>"
  | stream window => window.shown
  | lines pieces => pieces.shown
  | generator _ _ => Text.ofString "<generator>"
  | location line column offset file =>
    Text.ofString "SourceLocation(lineno=" ++ shown line
      ++ Text.ofString ", col_offset=" ++ shown column
      ++ Text.ofString ", offset=" ++ shown offset
      ++ Text.ofString ", source_file=" ++ shown file ++ Text.ofString ")"
  | config assertions lineSeparator whitespace =>
    Text.ofString "StreamConfig(assertions=" ++ shown assertions
      ++ Text.ofString ", line_separator=" ++ shown lineSeparator
      ++ Text.ofString ", whitespace=" ++ shown whitespace ++ Text.ofString ")"

def shownAll : List Value → List Text
  | [] => []
  | member :: rest => shown member :: shownAll rest

end

/-- The plain form: a text is its own, a stream has that of its content, and a location
reads as a place: the line and the column, after the file if that counts as true. -/
def plain : Value → Text
  | text points => points
  | stream window =>
    match ofBuffer window.extract with
    | text points => points
    | content => content.shown
  | location line column _ file =>
    let place := plain line ++ Text.ofString ":" ++ plain column
    if file.truth then plain file ++ Text.ofString ":" ++ place else place
  | value => value.shown

end Value

end TextScan
