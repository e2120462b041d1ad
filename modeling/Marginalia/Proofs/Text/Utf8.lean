import Mathlib.Tactic.Common
import Marginalia.Text.Utf8

/-
  This file shows that decoding accepts exactly the bytes that
  encode some text, and gives that text back. A sequence that
  is being read is followed to its end, and a first byte and
  the sequence behind it are those of one character.

  Key definitions include:
    * `Utf8.Completes`
    * `Utf8.Spells`

  Main results:
    * `Utf8.decodeFrom_some_eq_ok_iff`
    * `Utf8.decodeFrom_none_eq_ok_iff`
    * `Utf8.decode_eq_ok_iff`
-/

namespace Marginalia

namespace Utf8

------------------------------------------------------------
-- Sequences That Are Read to Their End
------------------------------------------------------------

/- A byte that a sequence can go on with. -/
def Pending.Takes
    (pending : Pending)
    (byte : UInt8) : Prop :=
  pending.low ≤ byte.toNat ∧ byte.toNat ≤ pending.high

/-
  The bytes that complete a sequence, and the code point that
  the sequence then stands for.
-/
inductive Completes : Pending → List UInt8 → Nat → Prop where
  | last
      {pending : Pending}
      {byte : UInt8}
      (hTakes : pending.Takes byte)
      (hOwed : (pending.next byte.toNat).owed = 0) :
      Completes pending [byte] (pending.next byte.toNat).bits
  | more
      {pending : Pending}
      {byte : UInt8}
      {tail : List UInt8}
      {code : Nat}
      (hTakes : pending.Takes byte)
      (hOwed : (pending.next byte.toNat).owed ≠ 0)
      (hTail : Completes (pending.next byte.toNat) tail code) :
      Completes pending (byte :: tail) code

/- A text behind a character is decoded with it or not at all. -/
theorem map_cons_eq_ok_iff
    {attempt : Except Fault Text}
    {c : Char}
    {text : Text} :
    attempt.map (c :: ·) = .ok text ↔
      ∃ later, attempt = .ok later ∧ text = c :: later := by
  cases attempt with
  | error fault => simp [Except.map]
  | ok later => simp [Except.map, eq_comm]

/- The last byte of a sequence gives its character. -/
theorem decodeFrom_of_last
    {pending : Pending}
    {byte : UInt8}
    (hTakes : pending.Takes byte)
    (hOwed : (pending.next byte.toNat).owed = 0)
    (position : Nat)
    (rest : List UInt8) :
    decodeFrom position (some pending) (byte :: rest) =
      (decodeFrom (position + 1) none rest).map
        (Char.ofNat (pending.next byte.toNat).bits :: ·) := by
  rw [decodeFrom]
  exact (if_pos hTakes).trans (if_pos hOwed)

/- Another byte of a sequence is read with those before it. -/
theorem decodeFrom_of_more
    {pending : Pending}
    {byte : UInt8}
    (hTakes : pending.Takes byte)
    (hOwed : (pending.next byte.toNat).owed ≠ 0)
    (position : Nat)
    (rest : List UInt8) :
    decodeFrom position (some pending) (byte :: rest) =
      decodeFrom (position + 1) (some (pending.next byte.toNat))
        rest := by
  rw [decodeFrom]
  exact (if_pos hTakes).trans (if_neg hOwed)

/- A byte that a sequence cannot go on with is a fault. -/
theorem decodeFrom_of_not_takes
    {pending : Pending}
    {byte : UInt8}
    (hTakes : ¬pending.Takes byte)
    (position : Nat)
    (rest : List UInt8) :
    decodeFrom position (some pending) (byte :: rest) =
      .error (pending.fault .invalidContinuation) := by
  rw [decodeFrom]
  exact if_neg hTakes

/-
  Bytes behind the start of a sequence are decoded exactly if
  they complete it and the rest is decoded.
-/
theorem decodeFrom_some_eq_ok_iff
    {position : Nat}
    {pending : Pending}
    {bytes : List UInt8}
    {text : Text} :
    decodeFrom position (some pending) bytes = .ok text ↔
      ∃ tail code rest later,
        Completes pending tail code ∧
          bytes = tail ++ rest ∧
          decodeFrom (position + tail.length) none rest =
            .ok later ∧
          text = Char.ofNat code :: later := by
  constructor
  · intro hDecode
    induction bytes generalizing position pending with
    | nil => cases hDecode
    | cons byte rest ih =>
        by_cases hTakes : pending.Takes byte
        · by_cases hOwed : (pending.next byte.toNat).owed = 0
          · rw [decodeFrom_of_last hTakes hOwed,
              map_cons_eq_ok_iff] at hDecode
            rcases hDecode with ⟨later, hLater, hText⟩
            exact ⟨[byte], _, rest, later, .last hTakes hOwed, rfl,
              hLater, hText⟩
          · rw [decodeFrom_of_more hTakes hOwed] at hDecode
            rcases ih hDecode with
              ⟨tail, code, behind, later, hTail, hRest, hLater, hText⟩
            refine ⟨byte :: tail, code, behind, later,
              .more hTakes hOwed hTail, by rw [hRest]; rfl, ?_, hText⟩
            rwa [List.length_cons, Nat.add_comm tail.length,
              ← Nat.add_assoc]
        · rw [decodeFrom_of_not_takes hTakes] at hDecode
          cases hDecode
  · rintro ⟨tail, code, rest, later, hTail, rfl, hLater, rfl⟩
    induction hTail generalizing position with
    | last hTakes hOwed =>
        rw [List.singleton_append, decodeFrom_of_last hTakes hOwed,
          map_cons_eq_ok_iff]
        exact ⟨later, hLater, rfl⟩
    | @more pending byte tail code hTakes hOwed _ ih =>
        rw [List.cons_append, decodeFrom_of_more hTakes hOwed]
        apply ih
        rwa [List.length_cons, Nat.add_comm tail.length,
          ← Nat.add_assoc] at hLater

------------------------------------------------------------
-- Sequences of One Character
------------------------------------------------------------

/- A sequence that is owed one byte is completed by that byte. -/
theorem completes_iff_of_one
    {pending : Pending}
    (hOwed : pending.owed = 1)
    {tail : List UInt8}
    {code : Nat} :
    Completes pending tail code ↔
      ∃ byte,
        tail = [byte] ∧ pending.Takes byte ∧
          code = (pending.next byte.toNat).bits := by
  have hNext (byte : Nat) : (pending.next byte).owed = 0 := by
    simp only [Pending.next, hOwed]
  constructor
  · intro hTail
    cases hTail with
    | last hTakes hLast => exact ⟨_, rfl, hTakes, rfl⟩
    | more hTakes hMore hTail => exact absurd (hNext _) hMore
  · rintro ⟨byte, rfl, hTakes, hCode⟩
    rw [hCode]
    exact .last hTakes (hNext _)

/- One that is owed more bytes goes on behind the first of them. -/
theorem completes_iff_of_more
    {pending : Pending}
    (hOwed : 1 < pending.owed)
    {tail : List UInt8}
    {code : Nat} :
    Completes pending tail code ↔
      ∃ byte rest,
        tail = byte :: rest ∧ pending.Takes byte ∧
          Completes (pending.next byte.toNat) rest code := by
  have hNext (byte : Nat) : (pending.next byte).owed ≠ 0 := by
    simp only [Pending.next]
    omega
  constructor
  · intro hTail
    cases hTail with
    | last hTakes hLast => exact absurd hLast (hNext _)
    | more hTakes hMore hTail => exact ⟨_, _, rfl, hTakes, hTail⟩
  · rintro ⟨byte, rest, rfl, hTakes, hTail⟩
    exact .more hTakes (hNext _) hTail

------------------------------------------------------------
-- Bytes of One Character
------------------------------------------------------------

/-
  The bytes of a code point beyond ASCII: the first one tells
  their number, and each other one holds six bits.
-/
inductive Spells
    (code : Nat) : List UInt8 → Prop where
  | two
      {first second : UInt8}
      (hLeast : 0x80 ≤ code)
      (hMost : code ≤ 0x7ff)
      (hFirst : first.toNat = code / 64 + 0xc0)
      (hSecond : second.toNat = code % 64 + 0x80) :
      Spells code [first, second]
  | three
      {first second third : UInt8}
      (hLeast : 0x800 ≤ code)
      (hMost : code ≤ 0xffff)
      (hFirst : first.toNat = code / 4096 + 0xe0)
      (hSecond : second.toNat = code / 64 % 64 + 0x80)
      (hThird : third.toNat = code % 64 + 0x80) :
      Spells code [first, second, third]
  | four
      {first second third fourth : UInt8}
      (hLeast : 0x10000 ≤ code)
      (hMost : code ≤ 0x10ffff)
      (hFirst : first.toNat = code / 262144 + 0xf0)
      (hSecond : second.toNat = code / 4096 % 64 + 0x80)
      (hThird : third.toNat = code / 64 % 64 + 0x80)
      (hFourth : fourth.toNat = code % 64 + 0x80) :
      Spells code [first, second, third, fourth]

/- A lower bound that depends on a condition, case by case. -/
theorem ite_le_iff
    {narrow : Prop}
    [Decidable narrow]
    {low other byte : Nat} :
    (if narrow then low else other) ≤ byte ↔
      (narrow → low ≤ byte) ∧ (¬narrow → other ≤ byte) := by
  split <;> simp_all

/- An upper bound that depends on a condition, case by case. -/
theorem le_ite_iff
    {narrow : Prop}
    [Decidable narrow]
    {high other byte : Nat} :
    byte ≤ (if narrow then high else other) ↔
      (narrow → byte ≤ high) ∧ (¬narrow → byte ≤ other) := by
  split <;> simp_all

/-
  A first byte and the bytes that complete its sequence spell a
  valid code point.
-/
theorem spells_of_completes
    {position : Nat}
    {lead : UInt8}
    {pending : Pending}
    {tail : List UInt8}
    {code : Nat}
    (hStart : Pending.start? position lead.toNat = some pending)
    (hTail : Completes pending tail code) :
    code.isValidChar ∧ Spells code (lead :: tail) := by
  unfold Nat.isValidChar
  unfold Pending.start? at hStart
  -- By the first byte there are one, two or three bytes to come.
  split at hStart
  · cases hStart
    rcases (completes_iff_of_one rfl).mp hTail with
      ⟨second, rfl, hSecond, hCode⟩
    simp only [Pending.next, Pending.Takes] at hSecond hCode
    exact ⟨by omega, by constructor <;> omega⟩
  · split at hStart
    · cases hStart
      rcases (completes_iff_of_more (Nat.lt_succ_self 1)).mp hTail with
        ⟨second, rest, rfl, hSecond, hRest⟩
      rcases (completes_iff_of_one rfl).mp hRest with
        ⟨third, rfl, hThird, hCode⟩
      simp only [Pending.next, Pending.Takes, ite_le_iff, le_ite_iff]
        at hSecond hThird hCode
      exact ⟨by omega, by constructor <;> omega⟩
    · split at hStart
      · cases hStart
        rcases (completes_iff_of_more (by simp)).mp hTail with
          ⟨second, rest, rfl, hSecond, hRest⟩
        rcases (completes_iff_of_more (Nat.lt_succ_self 1)).mp hRest with
          ⟨third, rest, rfl, hThird, hRest⟩
        rcases (completes_iff_of_one rfl).mp hRest with
          ⟨fourth, rfl, hFourth, hCode⟩
        simp only [Pending.next, Pending.Takes, ite_le_iff, le_ite_iff]
          at hSecond hThird hFourth hCode
        exact ⟨by omega, by constructor <;> omega⟩
      · cases hStart

/- The bytes of a valid code point complete a sequence. -/
theorem exists_completes_of_spells
    {code : Nat}
    (hValid : code.isValidChar)
    {lead : UInt8}
    {tail : List UInt8}
    (hSpells : Spells code (lead :: tail))
    (position : Nat) :
    ∃ pending,
      Pending.start? position lead.toNat = some pending ∧
        Completes pending tail code := by
  unfold Nat.isValidChar at hValid
  unfold Pending.start?
  cases hSpells with
  | two hLeast hMost hFirst hSecond =>
      rw [if_pos (by omega)]
      refine ⟨_, rfl, (completes_iff_of_one rfl).mpr ⟨_, rfl, ?_⟩⟩
      simp only [Pending.next, Pending.Takes]
      omega
  | three hLeast hMost hFirst hSecond hThird =>
      rw [if_neg (by omega), if_pos (by omega)]
      refine ⟨_, rfl, (completes_iff_of_more (Nat.lt_succ_self 1)).mpr
        ⟨_, _, rfl, ?_, (completes_iff_of_one rfl).mpr ⟨_, rfl, ?_⟩⟩⟩
      · simp only [Pending.Takes, ite_le_iff, le_ite_iff]
        omega
      · simp only [Pending.next, Pending.Takes]
        omega
  | four hLeast hMost hFirst hSecond hThird hFourth =>
      rw [if_neg (by omega), if_neg (by omega), if_pos (by omega)]
      refine ⟨_, rfl, (completes_iff_of_more (by simp)).mpr
        ⟨_, _, rfl, ?_,
          (completes_iff_of_more (Nat.lt_succ_self 1)).mpr
            ⟨_, _, rfl, ?_,
              (completes_iff_of_one rfl).mpr ⟨_, rfl, ?_⟩⟩⟩⟩
      · simp only [Pending.Takes, ite_le_iff, le_ite_iff]
        omega
      · simp only [Pending.next, Pending.Takes]
        omega
      · simp only [Pending.next, Pending.Takes]
        omega

/- A code point beyond ASCII has one spelling. -/
theorem Spells.unique
    {code : Nat}
    {bytes others : List UInt8}
    (hBytes : Spells code bytes)
    (hOthers : Spells code others) :
    bytes = others := by
  -- The code point tells the number of bytes, and each of them.
  cases hBytes <;> cases hOthers <;>
    simp only [List.cons.injEq, reduceCtorEq, and_false, and_true,
      ← UInt8.toNat_inj] <;>
    omega

/- A character beyond ASCII is encoded by its spelling. -/
theorem spells_utf8EncodeChar
    {c : Char}
    (hBeyond : 0x80 ≤ c.toNat) :
    Spells c.toNat (String.utf8EncodeChar c) := by
  have hValid : c.toNat.isValidChar := c.valid
  unfold Nat.isValidChar at hValid
  have hVal : c.val.toNat = c.toNat := rfl
  unfold String.utf8EncodeChar
  simp only [hVal]
  rw [if_neg (by omega)]
  split
  · refine .two hBeyond (by omega) ?_ ?_ <;>
      rw [UInt8.toNat_ofNat'] <;> omega
  · split
    · refine .three (by omega) (by omega) ?_ ?_ ?_ <;>
        rw [UInt8.toNat_ofNat'] <;> omega
    · refine .four (by omega) (by omega) ?_ ?_ ?_ ?_ <;>
        rw [UInt8.toNat_ofNat'] <;> omega

/- An ASCII character is encoded by one byte. -/
theorem utf8EncodeChar_of_ascii
    {c : Char}
    (hAscii : c.toNat < 0x80) :
    String.utf8EncodeChar c = [UInt8.ofNat c.toNat] :=
  if_pos (Nat.le_of_lt_succ hAscii)

/- The character of a valid code point has that code point. -/
theorem toNat_ofNat_of_valid
    {code : Nat}
    (hValid : code.isValidChar) :
    (Char.ofNat code).toNat = code := by
  unfold Char.ofNat
  rw [dif_pos hValid]
  rfl

/- The bytes that spell a code point encode its character. -/
theorem utf8EncodeChar_of_spells
    {code : Nat}
    {bytes : List UInt8}
    (hValid : code.isValidChar)
    (hSpells : Spells code bytes) :
    String.utf8EncodeChar (Char.ofNat code) = bytes := by
  have hCode := toNat_ofNat_of_valid hValid
  have hBeyond : 0x80 ≤ (Char.ofNat code).toNat := by
    cases hSpells <;> omega
  have hEncoded := spells_utf8EncodeChar hBeyond
  rw [hCode] at hEncoded
  exact hEncoded.unique hSpells

------------------------------------------------------------
-- Texts
------------------------------------------------------------

/-
  Bytes are decoded exactly if they start with the bytes of one
  character and the rest is decoded.
-/
theorem decodeFrom_none_eq_ok_iff
    {position : Nat}
    {lead : UInt8}
    {rest : List UInt8}
    {text : Text} :
    decodeFrom position none (lead :: rest) = .ok text ↔
      ∃ c tail behind later,
        String.utf8EncodeChar c = lead :: tail ∧
          rest = tail ++ behind ∧
          decodeFrom (position + 1 + tail.length) none behind =
            .ok later ∧
          text = c :: later := by
  constructor
  · intro hDecode
    rw [decodeFrom] at hDecode
    split at hDecode
    · rename_i hAscii
      rw [map_cons_eq_ok_iff] at hDecode
      rcases hDecode with ⟨later, hLater, hText⟩
      have hCode : (Char.ofNat lead.toNat).toNat = lead.toNat :=
        toNat_ofNat_of_valid (.inl (by omega))
      refine ⟨_, [], rest, later, ?_, rfl, hLater, hText⟩
      rw [utf8EncodeChar_of_ascii (by omega), hCode,
        UInt8.ofNat_toNat]
    · split at hDecode
      · cases hDecode
      · rename_i pending hStart
        rcases decodeFrom_some_eq_ok_iff.mp hDecode with
          ⟨tail, code, behind, later, hTail, hRest, hLater, hText⟩
        rcases spells_of_completes hStart hTail with
          ⟨hValid, hSpells⟩
        exact ⟨_, tail, behind, later,
          utf8EncodeChar_of_spells hValid hSpells, hRest, hLater,
          hText⟩
  · rintro ⟨c, tail, behind, later, hEncode, rfl, hLater, rfl⟩
    by_cases hAscii : c.toNat < 0x80
    · rw [utf8EncodeChar_of_ascii hAscii] at hEncode
      cases hEncode
      have hByte : (UInt8.ofNat c.toNat).toNat = c.toNat := by
        rw [UInt8.toNat_ofNat']
        omega
      rw [decodeFrom, hByte, if_pos hAscii, map_cons_eq_ok_iff,
        Char.ofNat_toNat]
      exact ⟨later, hLater, rfl⟩
    · have hSpells := spells_utf8EncodeChar (Nat.le_of_not_lt hAscii)
      rw [hEncode] at hSpells
      have hLead : ¬lead.toNat < 0x80 := by
        cases hSpells <;> omega
      rcases exists_completes_of_spells c.valid hSpells position with
        ⟨pending, hStart, hTail⟩
      rw [decodeFrom, if_neg hLead, hStart]
      refine decodeFrom_some_eq_ok_iff.mpr
        ⟨tail, _, behind, later, hTail, rfl, hLater, ?_⟩
      exact congrArg (· :: later) (Char.ofNat_toNat c).symm

/- Decoding accepts the bytes of a text, and no other bytes. -/
theorem decode_eq_ok_iff
    {bytes : List UInt8}
    {text : Text} :
    decode bytes = .ok text ↔ bytes = encode text := by
  unfold decode
  -- The position only matters to faults.
  generalize 0 = position
  induction text generalizing position bytes with
  | nil =>
      cases bytes with
      | nil => simp [decodeFrom, encode]
      | cons lead rest => simp [decodeFrom_none_eq_ok_iff, encode]
  | cons c later ih =>
      rw [encode, List.flatMap_cons]
      constructor
      · intro hDecode
        cases bytes with
        | nil => cases hDecode
        | cons lead rest =>
            rcases decodeFrom_none_eq_ok_iff.mp hDecode with
              ⟨_, tail, behind, _, hEncode, rfl, hLater, hText⟩
            cases hText
            rw [hEncode, (ih _).mp hLater]
            rfl
      · rintro rfl
        cases hEncode : String.utf8EncodeChar c with
        | nil => simp at hEncode
        | cons lead tail =>
            exact decodeFrom_none_eq_ok_iff.mpr
              ⟨c, tail, _, later, hEncode, rfl, (ih _).mpr rfl, rfl⟩

end Utf8

end Marginalia
