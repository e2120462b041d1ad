import Marginalia.Text
import Marginalia.Text.Quoted

/-
  This file encodes texts as UTF-8 and decodes them again. A
  decoding fault tells where the first broken sequence starts,
  how many of its bytes are in order, and what is wrong.

  Key definitions include:
    * `Utf8.encode`
    * `Utf8.Reason`
    * `Utf8.Fault`
    * `Utf8.Fault.message`
    * `Utf8.decode`
-/

namespace Marginalia

namespace Utf8

------------------------------------------------------------
-- Encoding
------------------------------------------------------------

/- The bytes of a text. -/
def encode
    (text : Text) : List UInt8 :=
  text.flatMap String.utf8EncodeChar

------------------------------------------------------------
-- Faults
------------------------------------------------------------

/- Why a sequence of bytes is no character. -/
inductive Reason where
  | invalidStart
  | invalidContinuation
  | unexpectedEnd
  deriving DecidableEq, Repr

namespace Reason

/- The words for a reason. -/
def message : Reason → Text
  | .invalidStart => "invalid start byte".toList
  | .invalidContinuation => "invalid continuation byte".toList
  | .unexpectedEnd => "unexpected end of data".toList

end Reason

/-
  The first broken sequence of some bytes: its position, its
  first byte, and the number of its bytes that are in order,
  the first one counted in any case.
-/
structure Fault where
  position : Nat
  lead : Nat
  count : Nat
  reason : Reason
  deriving DecidableEq, Repr

namespace Fault

/- The words for a fault. -/
def message
    (fault : Fault) : Text :=
  let place :=
    if fault.count ≤ 1 then
      "byte 0x".toList ++ Text.hexadecimal 2 fault.lead ++
        " in position ".toList ++ Text.ofNat fault.position
    else
      "bytes in position ".toList ++ Text.ofNat fault.position ++
        ['-'] ++ Text.ofNat (fault.position + fault.count - 1)
  "'utf-8' codec can't decode ".toList ++ place ++ ": ".toList ++
    fault.reason.message

end Fault

------------------------------------------------------------
-- Decoding
------------------------------------------------------------

/-
  A sequence of which some bytes are read: where it started
  and with which byte, how many bytes are read and how many
  are to come, the bounds of the next one, and the value of
  the bits read so far.
-/
structure Pending where
  position : Nat
  lead : Nat
  count : Nat
  owed : Nat
  low : Nat
  high : Nat
  bits : Nat

namespace Pending

/- The fault of a sequence that cannot be completed. -/
def fault
    (pending : Pending)
    (reason : Reason) : Fault :=
  { position := pending.position
    lead := pending.lead
    count := pending.count
    reason }

/-
  The sequence that a byte starts. The bounds of the second
  byte exclude overlong forms, surrogates and code points that
  are too large.
-/
def start?
    (position byte : Nat) : Option Pending :=
  if 0xc2 ≤ byte ∧ byte ≤ 0xdf then
    some ⟨position, byte, 1, 1, 0x80, 0xbf, byte - 0xc0⟩
  else if 0xe0 ≤ byte ∧ byte ≤ 0xef then
    let low := if byte = 0xe0 then 0xa0 else 0x80
    let high := if byte = 0xed then 0x9f else 0xbf
    some ⟨position, byte, 1, 2, low, high, byte - 0xe0⟩
  else if 0xf0 ≤ byte ∧ byte ≤ 0xf4 then
    let low := if byte = 0xf0 then 0x90 else 0x80
    let high := if byte = 0xf4 then 0x8f else 0xbf
    some ⟨position, byte, 1, 3, low, high, byte - 0xf0⟩
  else none

/- The sequence after one more byte that lies in its bounds. -/
def next
    (pending : Pending)
    (byte : Nat) : Pending :=
  { pending with
    count := pending.count + 1
    owed := pending.owed - 1
    low := 0x80
    high := 0xbf
    bits := pending.bits * 0x40 + (byte - 0x80) }

end Pending

/-
  Decode the rest of some bytes from a position, given the
  sequence that is being read there, if any.
-/
def decodeFrom
    (position : Nat)
    (pending : Option Pending) : List UInt8 → Except Fault Text
  | [] =>
      match pending with
      | none => .ok []
      | some sequence => .error (sequence.fault .unexpectedEnd)
  | byte :: rest =>
      match pending with
      | none =>
          if byte.toNat < 0x80 then
            (decodeFrom (position + 1) none rest).map
              (Char.ofNat byte.toNat :: ·)
          else
            match Pending.start? position byte.toNat with
            | none =>
                .error ⟨position, byte.toNat, 1, .invalidStart⟩
            | some sequence =>
                decodeFrom (position + 1) (some sequence) rest
      | some sequence =>
          if sequence.low ≤ byte.toNat ∧
              byte.toNat ≤ sequence.high then
            let longer := sequence.next byte.toNat
            if longer.owed = 0 then
              (decodeFrom (position + 1) none rest).map
                (Char.ofNat longer.bits :: ·)
            else decodeFrom (position + 1) (some longer) rest
          else .error (sequence.fault .invalidContinuation)

/- The text that some bytes encode. -/
def decode
    (bytes : List UInt8) : Except Fault Text :=
  decodeFrom 0 none bytes

end Utf8

end Marginalia
