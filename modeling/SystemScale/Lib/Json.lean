import Mathlib.Data.List.Basic
import Mathlib.Tactic.SplitIfs

set_option autoImplicit false

/-!
# JSON texts

Writers differ in the characters they escape and in the blanks they leave, readers in what they
make of half a surrogate pair and in how deep they go. Every reader reads what any writer wrote.
-/

namespace Json

/-! ## Values -/

def isDigits (text : List Char) : Bool := !text.isEmpty && text.all Char.isDigit

def isExponent : List Char → Bool
  | [] => true
  | mark :: '+' :: rest => (mark = 'e' || mark = 'E') && isDigits rest
  | mark :: '-' :: rest => (mark = 'e' || mark = 'E') && isDigits rest
  | mark :: rest => (mark = 'e' || mark = 'E') && isDigits rest

def isFraction : List Char → Bool
  | '.' :: rest =>
    !(rest.takeWhile Char.isDigit).isEmpty && isExponent (rest.dropWhile Char.isDigit)
  | rest => isExponent rest

def isUnsigned : List Char → Bool
  | '0' :: rest => isFraction rest
  | text => !(text.takeWhile Char.isDigit).isEmpty && isFraction (text.dropWhile Char.isDigit)

def isNumber : List Char → Bool
  | '-' :: rest => isUnsigned rest
  | text => isUnsigned text

/-- The characters that numbers are written with. -/
def numeric (c : Char) : Bool :=
  c.isDigit || c = '-' || c = '+' || c = '.' || c = 'e' || c = 'E'

structure Number where
  literal : List Char
  spelled : literal.all numeric = true
  wellFormed : isNumber literal = true
  deriving DecidableEq

inductive Value where
  | null
  | bool (value : Bool)
  | number (number : Number)
  | string (text : String)
  | array (items : List Value)
  | object (fields : List (String × Value))

/-- The value of a key. Of several with one name the last one counts. -/
def lookup (key : String) (fields : List (String × Value)) : Option Value :=
  (fields.reverse.find? fun field => field.1 = key).map Prod.snd

/-- Arrays and objects stand in each other at most this deep. -/
def Value.Within : Nat → Value → Prop
  | 0, .array _ => False
  | 0, .object _ => False
  | nesting + 1, .array items => ∀ item ∈ items, item.Within nesting
  | nesting + 1, .object fields => ∀ field ∈ fields, field.2.Within nesting
  | _, _ => True

/-! ## Characters of strings -/

def shorthand (c : Char) : Option Char :=
  if c = '"' then some '"'
  else if c = '\\' then some '\\'
  else if c = '\n' then some 'n'
  else if c = '\r' then some 'r'
  else if c = '\t' then some 't'
  else if c = '\x08' then some 'b'
  else if c = '\x0C' then some 'f'
  else none

def expand (c : Char) : Option Char :=
  if c = '"' then some '"'
  else if c = '\\' then some '\\'
  else if c = '/' then some '/'
  else if c = 'n' then some '\n'
  else if c = 'r' then some '\r'
  else if c = 't' then some '\t'
  else if c = 'b' then some '\x08'
  else if c = 'f' then some '\x0C'
  else none

def unicode (unit : Nat) : List Char :=
  ['\\', 'u', (unit / 4096).digitChar, (unit / 256 % 16).digitChar, (unit / 16 % 16).digitChar,
    (unit % 16).digitChar]

def hexValue (c : Char) : Option Nat :=
  if c.isDigit then some (c.toNat - 48)
  else if 'a' ≤ c ∧ c ≤ 'f' then some (c.toNat - 87)
  else if 'A' ≤ c ∧ c ≤ 'F' then some (c.toNat - 55)
  else none

def readHex : List Char → Option (Nat × List Char)
  | a :: b :: c :: d :: rest => do
    let a ← hexValue a
    let b ← hexValue b
    let c ← hexValue c
    let d ← hexValue d
    some (a * 4096 + b * 256 + c * 16 + d, rest)
  | _ => none

/-- The second half of a surrogate pair, if it follows. -/
def readLow : List Char → Option (Nat × List Char)
  | '\\' :: 'u' :: text =>
    (readHex text).filter fun (unit, _) => 0xDC00 ≤ unit ∧ unit < 0xE000
  | _ => none

/-- `lone` stands for half a surrogate pair, where a reader takes it. -/
def readUnicode (lone : Option Char) (text : List Char) : Option (Char × List Char) := do
  let (unit, rest) ← readHex text
  if 0xD800 ≤ unit ∧ unit < 0xDC00 then
    match readLow rest with
    | some (low, rest) =>
      some (Char.ofNat (0x10000 + (unit - 0xD800) * 0x400 + (low - 0xDC00)), rest)
    | none => lone.map (·, rest)
  else if 0xDC00 ≤ unit ∧ unit < 0xE000 then lone.map (·, rest)
  else some (Char.ofNat unit, rest)

def readChar (lone : Option Char) (text : List Char) : Option (Char × List Char) :=
  match text with
  | [] => none
  | c :: rest =>
    if c = '"' ∨ c.toNat < 0x20 then none
    else if c = '\\' then
      match rest with
      | [] => none
      | mark :: rest =>
        if mark = 'u' then readUnicode lone rest else (expand mark).map (·, rest)
    else some (c, rest)

/-! ## Writing -/

def blank (c : Char) : Bool := c = ' ' || c = '\t' || c = '\n' || c = '\r'

/-- How a writer writes: the characters it leaves as they are, unless they have a shorthand, and
what it puts after commas and colons. -/
structure Style where
  raw : Char → Bool
  space : List Char
  printable : ∀ c, raw c = true → 0x20 ≤ c.toNat
  gap : ∀ c ∈ space, c = ' '

variable (style : Style)

def Style.escape (c : Char) : List Char :=
  match shorthand c with
  | some mark => ['\\', mark]
  | none =>
    if style.raw c then [c]
    else if c.toNat < 0x10000 then unicode c.toNat
    else unicode (0xD800 + (c.toNat - 0x10000) / 0x400) ++
      unicode (0xDC00 + (c.toNat - 0x10000) % 0x400)

def Style.quote (text : String) : List Char := '"' :: text.toList.flatMap style.escape ++ ['"']

def Style.separate : List (List Char) → List Char
  | [] => []
  | [member] => member
  | member :: rest => member ++ ',' :: style.space ++ separate rest

mutual

def Value.write : Value → List Char
  | .null => ['n', 'u', 'l', 'l']
  | .bool true => ['t', 'r', 'u', 'e']
  | .bool false => ['f', 'a', 'l', 's', 'e']
  | .number number => number.literal
  | .string text => style.quote text
  | .array items => '[' :: style.separate (writeItems items) ++ [']']
  | .object fields => '{' :: style.separate (writeFields fields) ++ ['}']

def writeItems : List Value → List (List Char)
  | [] => []
  | item :: rest => item.write :: writeItems rest

def writeFields : List (String × Value) → List (List Char)
  | [] => []
  | (key, value) :: rest =>
    (style.quote key ++ ':' :: style.space ++ value.write) :: writeFields rest

end

/-! ## Reading -/

def skip (text : List Char) : List Char := text.dropWhile blank

def readQuotation : List Char → Option (List Char × List Char)
  | '"' :: rest => some ([], rest)
  | _ => none

def readChars (lone : Option Char) : Nat → List Char → Option (List Char × List Char)
  | 0, _ => none
  | fuel + 1, text =>
    match readChar lone text with
    | some (c, rest) => (readChars lone fuel rest).map fun (cs, rest) => (c :: cs, rest)
    | none => readQuotation text

def readString (lone : Option Char) (text : List Char) : Option (String × List Char) :=
  (readChars lone (text.length + 1) text).map fun (cs, rest) => (String.ofList cs, rest)

def readNumber (text : List Char) : Option (Value × List Char) :=
  let literal := text.takeWhile numeric
  if checked : literal.all numeric = true ∧ isNumber literal = true then
    some (.number ⟨literal, checked.1, checked.2⟩, text.dropWhile numeric)
  else none

def readScalar (lone : Option Char) (text : List Char) : Option (Value × List Char) :=
  match text with
  | '"' :: rest => (readString lone rest).map fun (text, rest) => (.string text, rest)
  | 'n' :: 'u' :: 'l' :: 'l' :: rest => some (.null, rest)
  | 't' :: 'r' :: 'u' :: 'e' :: rest => some (.bool true, rest)
  | 'f' :: 'a' :: 'l' :: 's' :: 'e' :: rest => some (.bool false, rest)
  | _ => readNumber text

section Members

variable {M : Type} (member : List Char → Option (M × List Char)) (close : Char)

def readRest : Nat → List Char → Option (List M × List Char)
  | 0, _ => none
  | fuel + 1, text => do
    let (first, text) ← member text
    match skip text with
    | [] => none
    | c :: text =>
      if c = ',' then
        let (rest, text) ← readRest fuel (skip text)
        some (first :: rest, text)
      else if c = close then some ([first], text)
      else none

def readMembers (text : List Char) : Option (List M × List Char) :=
  match skip text with
  | [] => none
  | c :: rest =>
    if c = close then some ([], rest) else readRest member close text.length (c :: rest)

end Members

def readField (lone : Option Char) (value : List Char → Option (Value × List Char))
    (text : List Char) : Option ((String × Value) × List Char) :=
  match text with
  | '"' :: text => do
    let (key, text) ← readString lone text
    match skip text with
    | ':' :: text =>
      let (value, text) ← value (skip text)
      some ((key, value), text)
    | _ => none
  | _ => none

def readValue (lone : Option Char) : Nat → List Char → Option (Value × List Char)
  | 0, text => readScalar lone text
  | nesting + 1, text =>
    match text with
    | '[' :: rest =>
      (readMembers (readValue lone nesting) ']' rest).map fun (items, rest) => (.array items, rest)
    | '{' :: rest =>
      (readMembers (readField lone (readValue lone nesting)) '}' rest).map fun (fields, rest) =>
        (.object fields, rest)
    | text => readScalar lone text

structure Reader where
  lone : Option Char
  nesting : Nat

def Reader.first (reader : Reader) (text : List Char) : Option Value :=
  (readValue reader.lone reader.nesting (skip text)).map Prod.fst

def Reader.read (reader : Reader) (text : List Char) : Option Value :=
  match readValue reader.lone reader.nesting (skip text) with
  | some (value, rest) => if (skip rest).isEmpty then some value else none
  | none => none

end Json
