import SchemaCase.Text.Quoted

/-! Texts as bytes. Decoding finds every sequence of bytes that is no character, in the longest
stretches that could have begun one. -/

namespace SchemaCase

abbrev Bytes := List UInt8

namespace Utf8

def encode (text : Text) : Bytes :=
  text.flatMap String.utf8EncodeChar

inductive Fault
  | invalidStart
  | invalidContinuation
  | unexpectedEnd
  deriving DecidableEq, Repr

def Fault.describe : Fault → String
  | invalidStart => "invalid start byte"
  | invalidContinuation => "invalid continuation byte"
  | unexpectedEnd => "unexpected end of data"

/-- Some bytes at `start` that are no character. -/
structure DecodeError where
  start : Nat
  first : UInt8
  length : Nat
  fault : Fault
  deriving DecidableEq, Repr

def DecodeError.message (error : DecodeError) : String :=
  let start := error.start
  let reason := error.fault.describe
  if error.length = 1 then
    let byte := String.ofList (Text.hexDigits 2 error.first.toNat)
    s!"'utf-8' codec can't decode byte 0x{byte} in position {start}: {reason}"
  else
    let last := start + error.length - 1
    s!"'utf-8' codec can't decode bytes in position {start}-{last}: {reason}"

/-- A character that has begun: how many bytes it lacks, the range of the next one, the bits read
so far, its first byte and the number of bytes read. -/
structure Pending where
  missing : Nat
  low : Nat
  high : Nat
  value : Nat
  first : UInt8
  length : Nat

inductive Piece
  | char (c : Char)
  | bad (error : DecodeError)
  deriving DecidableEq, Repr

def begin? (byte : UInt8) : Option Pending :=
  let n := byte.toNat
  let pending := fun missing low high base =>
    some { missing, low, high, value := n - base, first := byte, length := 1 }
  if 0xC2 ≤ n ∧ n ≤ 0xDF then pending 1 0x80 0xBF 0xC0
  else if n = 0xE0 then pending 2 0xA0 0xBF 0xE0
  else if n = 0xED then pending 2 0x80 0x9F 0xE0
  else if 0xE1 ≤ n ∧ n ≤ 0xEF then pending 2 0x80 0xBF 0xE0
  else if n = 0xF0 then pending 3 0x90 0xBF 0xF0
  else if 0xF1 ≤ n ∧ n ≤ 0xF3 then pending 3 0x80 0xBF 0xF0
  else if n = 0xF4 then pending 3 0x80 0x8F 0xF0
  else none

def start (offset : Nat) (byte : UInt8) : List Piece × Option Pending :=
  if byte.toNat < 0x80 then ([.char (Char.ofNat byte.toNat)], none)
  else
    match begin? byte with
    | some pending => ([], some pending)
    | none => ([.bad ⟨offset, byte, 1, .invalidStart⟩], none)

/-- A byte that cannot go on with the character begins a new one. -/
def Pending.step (pending : Pending) (offset : Nat) (byte : UInt8) :
    List Piece × Option Pending :=
  if pending.low ≤ byte.toNat ∧ byte.toNat ≤ pending.high then
    let value := pending.value * 64 + (byte.toNat - 0x80)
    match pending.missing with
    | 0 | 1 => ([.char (Char.ofNat value)], none)
    | missing + 1 =>
        ([], some
          { pending with missing, low := 0x80, high := 0xBF, value, length := pending.length + 1 })
  else
    let error : DecodeError :=
      ⟨offset - pending.length, pending.first, pending.length, .invalidContinuation⟩
    let (pieces, next) := start offset byte
    (.bad error :: pieces, next)

def piecesFrom (pending : Option Pending) (offset : Nat) : Bytes → List Piece
  | [] =>
      match pending with
      | none => []
      | some pending =>
          [.bad ⟨offset - pending.length, pending.first, pending.length, .unexpectedEnd⟩]
  | byte :: rest =>
      let (pieces, next) :=
        match pending with
        | none => start offset byte
        | some pending => pending.step offset byte
      pieces ++ piecesFrom next (offset + 1) rest

def pieces (bytes : Bytes) : List Piece :=
  piecesFrom none 0 bytes

def decode (bytes : Bytes) : Except DecodeError Text :=
  (pieces bytes).mapM fun piece =>
    match piece with
    | .char c => .ok c
    | .bad error => .error error

/-- Shows a replacement character for every piece that is no character. -/
def decodeLossy (bytes : Bytes) : Text :=
  (pieces bytes).map fun piece =>
    match piece with
    | .char c => c
    | .bad _ => '\uFFFD'

end Utf8

namespace Text

/-- Every carriage return, with the line feed behind it if there is one, becomes a line feed. -/
def unifyNewlines : Text → Text
  | [] => []
  | '\r' :: '\n' :: rest => '\n' :: unifyNewlines rest
  | c :: rest => (if c == '\r' then '\n' else c) :: unifyNewlines rest

end Text

end SchemaCase
