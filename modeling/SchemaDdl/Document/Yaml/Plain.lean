import SchemaDdl.Text.Blank

/-!
# Texts that need no quotation marks

A text may be written as a plain scalar when no reader takes it for anything
else: not for a null, a boolean or a number, and not for the beginning of some
structure. The rules are stricter than the reader of this library needs,
because readers differ, and a key and a value differ in the characters that
would end them.
-/

namespace SchemaDdl.Yaml.Plain

/-! ## Texts that look like numbers -/

def isHexDigit (c : Char) : Bool :=
  c.isDigit || ('a' ≤ c && c ≤ 'f') || ('A' ≤ c && c ≤ 'F')

def isOctalDigit (c : Char) : Bool := '0' ≤ c && c ≤ '7'

def isBinaryDigit (c : Char) : Bool := c = '0' || c = '1'

/-- One or more digits of a base or underscores, and nothing else. -/
def areDigits (isDigit : Char → Bool) (cs : List Char) : Bool :=
  !cs.isEmpty && cs.all fun c => isDigit c || c = '_'

/-- An exponent or nothing. -/
def isExponent : List Char → Bool
  | [] => true
  | c :: r =>
    (c = 'e' || c = 'E') &&
      match r with
      | '+' :: ds | '-' :: ds => areDigits Char.isDigit ds
      | ds => areDigits Char.isDigit ds

def isDigitOrGap (c : Char) : Bool := c.isDigit || c = '_'

/-- Whether a decimal number with an optional fraction and exponent is spelled. -/
def isDecimal : List Char → Bool
  | '.' :: c :: r => c.isDigit && isExponent (r.dropWhile isDigitOrGap)
  | c :: r =>
    c.isDigit &&
      match r.dropWhile isDigitOrGap with
      | '.' :: r => isExponent (r.dropWhile isDigitOrGap)
      | r => isExponent r
  | [] => false

def dropSign : List Char → List Char
  | '+' :: r | '-' :: r => r
  | cs => cs

def isNumber (cs : List Char) : Bool :=
  match dropSign cs with
  | '0' :: 'x' :: r => areDigits isHexDigit r
  | '0' :: 'o' :: r => areDigits isOctalDigit r
  | '0' :: 'b' :: r => areDigits isBinaryDigit r
  | cs => isDecimal cs

/-! ## Keys and values -/

def constants : List String := ["null", "true", "false"]

/-- Whether the text is a null, a boolean or a number to every reader. -/
def isResolved (s : String) : Bool :=
  let word := Text.lowerAscii s
  s = "" || s = "~" || constants.contains word ||
    [['.', 'n', 'a', 'n'], ['.', 'i', 'n', 'f']].contains (dropSign word.toList) ||
    isNumber s.toList

def isIndicator (c : Char) : Bool :=
  "-?:[]\x7b\x7d#&*!|>\x27\"%@\x60".toList.contains c

def isControl (c : Char) : Bool := c.toNat < 0x20 || (0x7f ≤ c.toNat && c.toNat < 0xa0)

def startsPlain (s : String) : Bool :=
  match s.toList with
  | [] => false
  | c :: _ => !(c = ' ' || isIndicator c)

def endsKey (c : Char) : Bool := c = ':' || c = '#' || c = ','

/-- Whether a key may be written plain. -/
def isKey (s : String) : Bool :=
  !isResolved s && startsPlain s && s.toList.all fun c => !(endsKey c || isControl c)

/-- Booleans to older readers only. -/
def oldFlags : List String := ["y", "yes", "on", "true", "n", "no", "off", "false"]

def numberWords : List String := ["nan", "inf", "+inf", "-inf"]

def endsValue (c : Char) : Bool := ",[]\x7b\x7d#".toList.contains c

/-- Whether the text could be read as a key with something after it. -/
def hasKeyMark : List Char → Bool
  | [] => false
  | [_] => false
  | c :: d :: r => (c = ':' && d = ' ') || hasKeyMark (d :: r)

/-- Whether a value may be written plain. -/
def isValue (s : String) : Bool :=
  let trimmed := Text.trim s.toList
  !isResolved s && startsPlain s &&
    !oldFlags.contains (Text.lowerAscii (.ofList trimmed)) &&
    !numberWords.contains (Text.lowerAscii s) &&
    !hasKeyMark s.toList && trimmed.getLast? ≠ some ':' &&
    s.toList.all fun c => !(endsValue c || isControl c)

end SchemaDdl.Yaml.Plain
