/-!
# Encoding

Reading bytes as text: strict UTF-8, and the three spellings of a line end made one. When bytes
are not UTF-8, the first offending sequence is reported: the longest beginning of an encoded
character at the first place where reading fails.
-/

namespace Scriptlet.Text

/-- What is wrong with a sequence of bytes. -/
inductive EncodingProblem where
  | invalidStart
  | invalidContinuation
  | unexpectedEnd
  deriving DecidableEq, Repr

namespace EncodingProblem

def reason : EncodingProblem → String
  | invalidStart => "invalid start byte"
  | invalidContinuation => "invalid continuation byte"
  | unexpectedEnd => "unexpected end of data"

end EncodingProblem

/-- The first sequence of bytes that is no encoded character: where it starts, its bytes so far,
and what is wrong with it. -/
structure EncodingFault where
  start : Nat
  bytes : List UInt8
  problem : EncodingProblem
  deriving DecidableEq, Repr

namespace EncodingFault

/-- A byte as two lower-case hexadecimal digits. -/
def byteText (byte : UInt8) : String :=
  String.ofList ((Nat.toDigits 16 (byte.toNat + 256)).drop 1)

def message (fault : EncodingFault) : String :=
  let culprit :=
    match fault.bytes with
    | [byte] => "byte 0x" ++ byteText byte ++ " in position " ++ toString fault.start
    | bytes =>
        "bytes in position " ++ toString fault.start ++ "-" ++
          toString (fault.start + bytes.length - 1)
  "'utf-8' codec can't decode " ++ culprit ++ ": " ++ fault.problem.reason

end EncodingFault

namespace Encoding

def tailRange : UInt8 × UInt8 := (0x80, 0xbf)

/-- The ranges of the bytes that must follow a first byte. The second byte is narrowed where
longer forms, surrogates or code points beyond the last plane would begin. -/
def continuations? (first : UInt8) : Option (List (UInt8 × UInt8)) :=
  if first ≤ 0x7f then some []
  else if 0xc2 ≤ first && first ≤ 0xdf then some [tailRange]
  else if first == 0xe0 then some [(0xa0, 0xbf), tailRange]
  else if first == 0xed then some [(0x80, 0x9f), tailRange]
  else if 0xe1 ≤ first && first ≤ 0xef then some [tailRange, tailRange]
  else if first == 0xf0 then some [(0x90, 0xbf), tailRange, tailRange]
  else if 0xf1 ≤ first && first ≤ 0xf3 then some [tailRange, tailRange, tailRange]
  else if first == 0xf4 then some [(0x80, 0x8f), tailRange, tailRange]
  else none

/-- Looks for the first fault. `taken` holds the bytes of the character that is being read, the
last one first, and `pending` the ranges of those that it still needs. -/
def faultFrom :
    (place : Nat) → (taken : List UInt8) → (pending : List (UInt8 × UInt8)) → List UInt8 →
      Option EncodingFault
  | _, _, [], [] => none
  | place, taken, _ :: _, [] =>
      some ⟨place - taken.length, taken.reverse, .unexpectedEnd⟩
  | place, _, [], byte :: rest =>
      match continuations? byte with
      | none => some ⟨place, [byte], .invalidStart⟩
      | some pending => faultFrom (place + 1) [byte] pending rest
  | place, taken, range :: pending, byte :: rest =>
      if range.1 ≤ byte && byte ≤ range.2 then
        faultFrom (place + 1) (byte :: taken) pending rest
      else
        some ⟨place - taken.length, taken.reverse, .invalidContinuation⟩

def decode (bytes : ByteArray) : Except EncodingFault String :=
  match String.fromUTF8? bytes with
  | some text => .ok text
  | none => .error ((faultFrom 0 [] [] bytes.toList).getD ⟨0, [], .unexpectedEnd⟩)

/-- Turns every line end into a line feed: a carriage return with a line feed after it, and a
carriage return alone. -/
def unifyLineEnds : List Char → List Char
  | [] => []
  | '\r' :: '\n' :: rest => '\n' :: unifyLineEnds rest
  | '\r' :: rest => '\n' :: unifyLineEnds rest
  | c :: rest => c :: unifyLineEnds rest

/-- The text of a file or stream: decoded, with unified line ends. -/
def readText (bytes : ByteArray) : Except EncodingFault String :=
  match decode bytes with
  | .ok text => .ok (String.ofList (unifyLineEnds text.toList))
  | .error fault => .error fault

end Encoding

end Scriptlet.Text
