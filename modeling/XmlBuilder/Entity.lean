import XmlBuilder.Error
import XmlBuilder.Table

/-!
References in text. `&name;` stands for a character if the name is predefined or gives a code
point, and otherwise for the text declared for the name, whose own references are expanded too.
What a reference has put into the text is not looked at again.
-/
namespace XmlBuilder.Entity

/-- The characters that documents may contain. -/
def isXmlChar (code : Nat) : Bool :=
  code == 0x9 || code == 0xA || code == 0xD || (0x20 ≤ code && code ≤ 0xD7FF) ||
    (0xE000 ≤ code && code ≤ 0xFFFD) || (0x10000 ≤ code && code ≤ 0x10FFFF)

/-- The five names that need no declaration. -/
def predefined? : String → Option Char
  | "amp" => some '&'
  | "lt" => some '<'
  | "gt" => some '>'
  | "quot" => some '"'
  | "apos" => some '\''
  | _ => none

def decimalDigit? (c : Char) : Option Nat :=
  if '0' ≤ c ∧ c ≤ '9' then some (c.toNat - '0'.toNat) else none

def hexDigit? (c : Char) : Option Nat :=
  if 'a' ≤ c ∧ c ≤ 'f' then some (c.toNat - 'a'.toNat + 10)
  else if 'A' ≤ c ∧ c ≤ 'F' then some (c.toNat - 'A'.toNat + 10)
  else decimalDigit? c

/-- Reads digits after those worth `value`. What takes more than 32 bits is no value. -/
def readDigits (base : Nat) (digit? : Char → Option Nat) (value : Nat) : List Char → Option Nat
  | [] => some value
  | c :: rest =>
    match digit? c with
    | none => none
    | some digit =>
      let longer := value * base + digit
      if longer < UInt32.size then readDigits base digit? longer rest else none

def codePoint? : List Char → Option Nat
  | '#' :: 'x' :: [] => none
  | '#' :: 'x' :: digits => readDigits 16 hexDigit? 0 digits
  | '#' :: [] => none
  | '#' :: digits => readDigits 10 decimalDigit? 0 digits
  | _ => none

/-- The character of a numeric reference. -/
def numeric? (name : String) : Option Char :=
  match codePoint? name.toList with
  | some code => if isXmlChar code then some (Char.ofNat code) else none
  | none => none

def character? (name : String) : Option Char :=
  (predefined? name).or (numeric? name)

/-- The limit, if so many bytes are more than it allows. -/
def exceeded? (limit : Option Nat) (size : Nat) : Option Nat :=
  limit.filter (· < size)

theorem exceeded?_eq_none_iff {limit : Option Nat} {size : Nat} :
    exceeded? limit size = none ↔ ∀ max ∈ limit, size ≤ max := by
  simp [exceeded?, Option.filter_eq_none_iff]

/-- Copies `text` behind `out` and puts `replace name` in place of each `&name;`. A name that has
begun is in `name`, last character first; the size of what is written is looked at after each
reference. -/
def substitute (replace : String → Except Cause String) (limit : Option Nat) (out : String)
    (name : Option (List Char)) : List Char → Except Cause String
  | [] =>
    match name with
    | none => .ok out
    | some read => .error (.invalidEntity (String.ofList read.reverse))
  | c :: rest =>
    match name with
    | none =>
      if c == '&' then substitute replace limit out (some []) rest
      else substitute replace limit (out.push c) none rest
    | some read =>
      if c == ';' then
        match replace (String.ofList read.reverse) with
        | .error cause => .error cause
        | .ok text =>
          let longer := out ++ text
          match exceeded? limit longer.utf8ByteSize with
          | some max => .error (.sizeExceeded max)
          | none => substitute replace limit longer none rest
      else substitute replace limit out (some (c :: read)) rest

/-- What a reference stands for, where `declared` gives the texts of declared names. -/
def replacement (declared : String → Except Cause String) (name : String) :
    Except Cause String :=
  match character? name with
  | some c => .ok (String.singleton c)
  | none => declared name

/-- Expands the references in a text, up to so many bytes if there is a limit. Declared texts may
refer to others `levels` deep, so that tables whose texts refer to themselves are refused. -/
def expand (table : Table String) (limit : Option Nat) : Nat → String → Except Cause String
  | 0, text =>
    substitute (replacement fun name => .error (.invalidEntity name)) limit "" none text.toList
  | levels + 1, text =>
    substitute (replacement fun name =>
      match table.find? name with
      | some declared => expand table limit levels declared
      | none => .error (.invalidEntity name)) limit "" none text.toList

/-- How deep declared texts may refer to others. -/
def maxLevels : Nat := 16

end XmlBuilder.Entity
