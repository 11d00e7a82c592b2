import XmlBuilder.Cursor
import XmlBuilder.Error
import XmlBuilder.Text.LineEnd

/-!
Reading the smallest parts of markup: single bytes, names, and text up to a closer. A reader takes
the unread bytes and gives what it read with the bytes after it, or says where it stopped.
-/
namespace XmlBuilder.Markup

/-- Why reading stopped. A place is given by the bytes that are unread there: `site` is the place
to report and `left` the place that was reached. -/
structure Stop where
  cause : Cause
  site : Bytes
  left : Bytes
  deriving DecidableEq, Repr

namespace Stop

def here (cause : Cause) (bytes : Bytes) : Stop := ⟨cause, bytes, bytes⟩

/-- The document ends too early. -/
def atEnd : Stop := here .unexpectedEnd []

end Stop

/-- The bytes of a piece of markup, which is always ASCII. -/
def ascii (markup : String) : Bytes :=
  markup.toList.map Char.toUInt8

@[inline]
def startsWith (pattern : String) (bytes : Bytes) : Bool :=
  (ascii pattern).isPrefixOf bytes

def skipSpace (bytes : Bytes) : Bytes :=
  bytes.dropWhile isSpace

/-- Every byte of a character beyond ASCII may stand in a name, and at its start. -/
def isNameStart (b : UInt8) : Bool :=
  ('A'.toUInt8 ≤ b && b ≤ 'Z'.toUInt8) || ('a'.toUInt8 ≤ b && b ≤ 'z'.toUInt8) ||
    b == '_'.toUInt8 || b == ':'.toUInt8 || 0x80 ≤ b

def isNameByte (b : UInt8) : Bool :=
  isNameStart b || ('0'.toUInt8 ≤ b && b ≤ '9'.toUInt8) || b == '-'.toUInt8 || b == '.'.toUInt8

def isQuote (b : UInt8) : Bool :=
  b == '"'.toUInt8 || b == '\''.toUInt8

/-- Reads the one byte that may stand here. -/
def expect (wanted : Char) : Bytes → Except Stop Bytes
  | [] => .error .atEnd
  | b :: rest =>
    if b == wanted.toUInt8 then .ok rest else .error (.here .invalidToken (b :: rest))

/-- The text of `slice`, which begins at `site` and was read up to `left`. -/
def decode (slice site left : Bytes) : Except Stop String :=
  match String.fromUTF8? slice.toByteArray with
  | some text => .ok text
  | none => .error ⟨.invalidUtf8, site, left⟩

def readName : Bytes → Except Stop (String × Bytes)
  | [] => .error .atEnd
  | b :: rest =>
    if isNameStart b then do
      let left := rest.dropWhile isNameByte
      let name ← decode (b :: rest.takeWhile isNameByte) (b :: rest) left
      .ok (name, left)
    else .error (.here .invalidToken (b :: rest))

/-- What stands before the first `pattern`, after what is in `read`, last byte first, and the
bytes from that pattern on. -/
def splitAtFirst (pattern read : Bytes) : Bytes → Option (Bytes × Bytes)
  | [] => none
  | b :: rest =>
    if pattern.isPrefixOf (b :: rest) then some (read.reverse, b :: rest)
    else splitAtFirst pattern (b :: read) rest

/-- Reads text up to and including the first `closer`. -/
def readUntil (closer : String) (bytes : Bytes) : Except Stop (String × Bytes) :=
  match splitAtFirst (ascii closer) [] bytes with
  | none => .error .atEnd
  | some (body, left) => do
    let text ← decode (Text.unifyLineEnds body) bytes left
    .ok (text, left.drop closer.length)

theorem length_skipSpace_le (bytes : Bytes) : (skipSpace bytes).length ≤ bytes.length :=
  (List.dropWhile_suffix isSpace).length_le

theorem bind_success {ε α β : Type} {step : Except ε α} {next : α → Except ε β} {value : β}
    (h : (step >>= next) = .ok value) : ∃ x, step = .ok x ∧ next x = .ok value := by
  cases step with
  | error e => cases h
  | ok x => exact ⟨x, rfl, h⟩

theorem expect_eq {wanted : Char} {bytes rest : Bytes} (h : expect wanted bytes = .ok rest) :
    bytes = wanted.toUInt8 :: rest := by
  cases bytes with
  | nil => cases h
  | cons b tail =>
    simp only [expect] at h
    split at h
    · next same => cases h; simp [beq_iff_eq.1 same]
    · cases h

theorem readName_shorter {bytes rest : Bytes} {name : String}
    (h : readName bytes = .ok (name, rest)) : rest.length < bytes.length := by
  cases bytes with
  | nil => cases h
  | cons b tail =>
    simp only [readName] at h
    split at h
    · obtain ⟨text, _, done⟩ := bind_success h
      cases done
      exact Nat.lt_succ_of_le (List.dropWhile_suffix isNameByte).length_le
    · cases h

theorem splitAtFirst_eq {pattern read bytes body left : Bytes}
    (h : splitAtFirst pattern read bytes = some (body, left)) :
    read.reverse ++ bytes = body ++ left := by
  induction bytes generalizing read with
  | nil => cases h
  | cons b rest ih =>
    simp only [splitAtFirst] at h
    split at h
    · cases h; rfl
    · simpa using ih h

theorem readUntil_le {closer : String} {bytes rest : Bytes} {text : String}
    (h : readUntil closer bytes = .ok (text, rest)) : rest.length ≤ bytes.length := by
  simp only [readUntil] at h
  split at h
  · cases h
  · next body left found =>
    obtain ⟨text, _, done⟩ := bind_success h
    cases done
    have sizes := congrArg List.length (splitAtFirst_eq found)
    simp at sizes ⊢
    omega

end XmlBuilder.Markup
