import TextScan.Value.Shown

namespace TextScan

/-- The three fields of a configuration, with contents of one type. -/
structure Settings (α : Type) where
  assertions : α
  lineSeparator : α
  whitespace : α

namespace Settings

variable {α β : Type}

/-- The given fields, and the rest from a base. Other names are passed over. -/
def ofFields (base : Settings α) (fields : List (String × α)) : Settings α :=
  ⟨(fields.lookup "assertions").getD base.assertions,
    (fields.lookup "line_separator").getD base.lineSeparator,
    (fields.lookup "whitespace").getD base.whitespace⟩

def map (change : α → β) (settings : Settings α) : Settings β :=
  ⟨change settings.assertions, change settings.lineSeparator, change settings.whitespace⟩

def toList (settings : Settings α) : List α :=
  [settings.assertions, settings.lineSeparator, settings.whitespace]

end Settings

/-- A configuration holds any values; each is judged where it is used. -/
abbrev Config := Settings Value

namespace Config

/-- Space, tab, line feed, carriage return, vertical tab and form feed. -/
def asciiWhitespace : Text := Text.ofCodes [0x20, 0x09, 0x0A, 0x0D, 0x0B, 0x0C]

/-- Assertions are not checked, and lines end as they do on the platform. -/
def default : Config := ⟨.bool false, .null, .text asciiWhitespace⟩

instance : Inhabited Config := ⟨default⟩

def toValue (config : Config) : Value :=
  .config config.assertions config.lineSeparator config.whitespace

def shown (config : Config) : Text := config.toValue.shown

end Config

/-- The configuration in force and the platform a stream runs on. -/
structure Environment where
  config : Config
  platform : String

namespace Environment

/-- Whether assertions are checked: anything that counts as true turns them on. -/
def checksAssertions (environment : Environment) : Bool := environment.config.assertions.truth

/-- Windows ends its lines with two characters, every other platform with one. -/
def platformSeparator (environment : Environment) : Text :=
  Text.ofString (if environment.platform = "win32" then "\r\n" else "\n")

/-- The configured separator, or the one of the platform where there is none. -/
def lineSeparator (environment : Environment) : Value :=
  match environment.config.lineSeparator with
  | .null => .text environment.platformSeparator
  | separator => separator

/-- What separates lines: what is given, or else what is configured. -/
def separating (environment : Environment) : Value → Value
  | .null => environment.lineSeparator
  | separator => separator

/-- What is trimmed: what is given, or else the configured whitespace. -/
def trimmed (environment : Environment) : Value → Value
  | .null => environment.config.whitespace
  | chars => chars

end Environment

end TextScan
