import SchemaCase.Text.Utf8

/-! Texts and their bytes. Bytes that can be decoded are the encoding of the text that they are
decoded to, and line ends can be unified in the bytes just as in the text, because every byte below
128 is a character of its own. -/

namespace SchemaCase

namespace Utf8

@[simp]
theorem encode_cons (c : Char) (text : Text) :
    encode (c :: text) = String.utf8EncodeChar c ++ encode text :=
  rfl

section Characters

theorem toNat_ofNat {n : Nat} (valid : n.isValidChar) : (Char.ofNat n).val.toNat = n := by
  rw [Char.ofNat, dif_pos valid]
  rfl

theorem encode_one {a : Nat} (ascii : a < 0x80) :
    String.utf8EncodeChar (Char.ofNat a) = [UInt8.ofNat a] := by
  have valid : a.isValidChar := by
    unfold Nat.isValidChar
    omega
  simp only [String.utf8EncodeChar, toNat_ofNat valid]
  rw [if_pos (by omega)]

theorem encode_two {a b : Nat} (first : 0xC2 ≤ a ∧ a ≤ 0xDF) (second : 0x80 ≤ b ∧ b ≤ 0xBF) :
    String.utf8EncodeChar (Char.ofNat ((a - 0xC0) * 64 + (b - 0x80))) =
      [UInt8.ofNat a, UInt8.ofNat b] := by
  have valid : ((a - 0xC0) * 64 + (b - 0x80)).isValidChar := by
    unfold Nat.isValidChar
    omega
  simp only [String.utf8EncodeChar, toNat_ofNat valid]
  rw [if_neg (by omega), if_pos (by omega)]
  simp only [List.cons.injEq, and_true]
  refine ⟨?_, ?_⟩ <;> congr 1 <;> omega

/-- The second byte tells overlong forms and surrogates apart. -/
theorem encode_three {a b c : Nat} (first : 0xE0 ≤ a ∧ a ≤ 0xEF) (second : 0x80 ≤ b ∧ b ≤ 0xBF)
    (third : 0x80 ≤ c ∧ c ≤ 0xBF) (long : a = 0xE0 → 0xA0 ≤ b) (scalar : a = 0xED → b ≤ 0x9F) :
    String.utf8EncodeChar (Char.ofNat (((a - 0xE0) * 64 + (b - 0x80)) * 64 + (c - 0x80))) =
      [UInt8.ofNat a, UInt8.ofNat b, UInt8.ofNat c] := by
  have valid : (((a - 0xE0) * 64 + (b - 0x80)) * 64 + (c - 0x80)).isValidChar := by
    unfold Nat.isValidChar
    omega
  simp only [String.utf8EncodeChar, toNat_ofNat valid]
  rw [if_neg (by omega), if_neg (by omega), if_pos (by omega)]
  simp only [List.cons.injEq, and_true]
  refine ⟨?_, ?_, ?_⟩ <;> congr 1 <;> omega

theorem encode_four {a b c d : Nat} (first : 0xF0 ≤ a ∧ a ≤ 0xF4) (second : 0x80 ≤ b ∧ b ≤ 0xBF)
    (third : 0x80 ≤ c ∧ c ≤ 0xBF) (fourth : 0x80 ≤ d ∧ d ≤ 0xBF) (long : a = 0xF0 → 0x90 ≤ b)
    (scalar : a = 0xF4 → b ≤ 0x8F) :
    String.utf8EncodeChar (Char.ofNat
        ((((a - 0xF0) * 64 + (b - 0x80)) * 64 + (c - 0x80)) * 64 + (d - 0x80))) =
      [UInt8.ofNat a, UInt8.ofNat b, UInt8.ofNat c, UInt8.ofNat d] := by
  have valid :
      ((((a - 0xF0) * 64 + (b - 0x80)) * 64 + (c - 0x80)) * 64 + (d - 0x80)).isValidChar := by
    unfold Nat.isValidChar
    omega
  simp only [String.utf8EncodeChar, toNat_ofNat valid]
  rw [if_neg (by omega), if_neg (by omega), if_neg (by omega)]
  simp only [List.cons.injEq, and_true]
  refine ⟨?_, ?_, ?_, ?_⟩ <;> congr 1 <;> omega

end Characters

/-- The character that has begun once one more byte of it is read. -/
def Pending.next (pending : Pending) (byte : UInt8) : Pending :=
  { pending with
    missing := pending.missing - 1
    low := 0x80
    high := 0xBF
    value := pending.value * 64 + (byte.toNat - 0x80)
    length := pending.length + 1 }

/-- `Completed pending bytes value`: the bytes complete the character, whose number is `value`. -/
inductive Completed : Pending → Bytes → Nat → Prop
  | last {pending : Pending} {byte : UInt8} (missing : pending.missing ≤ 1)
      (low : pending.low ≤ byte.toNat) (high : byte.toNat ≤ pending.high) :
      Completed pending [byte] (pending.next byte).value
  | next {pending : Pending} {byte : UInt8} {bytes : Bytes} {value : Nat}
      (missing : 1 < pending.missing) (low : pending.low ≤ byte.toNat)
      (high : byte.toNat ≤ pending.high) (rest : Completed (pending.next byte) bytes value) :
      Completed pending (byte :: bytes) value

theorem Pending.step_eq (pending : Pending) (offset : Nat) {byte : UInt8}
    (low : pending.low ≤ byte.toNat) (high : byte.toNat ≤ pending.high) :
    pending.step offset byte =
      if pending.missing ≤ 1 then ([.char (Char.ofNat (pending.next byte).value)], none)
      else ([], some (pending.next byte)) := by
  obtain ⟨missing, _, _, _, _, _⟩ := pending
  match missing with
  | 0 | 1 => simp_all [Pending.step, Pending.next]
  | missing + 2 => simp_all [Pending.step, Pending.next]

/-- Bytes behind the beginning of a character that are all characters complete it first. -/
theorem completed_of_pieces {pending : Pending} {offset : Nat} {bytes : Bytes} {text : Text}
    (chars : piecesFrom (some pending) offset bytes = text.map .char) :
    ∃ used rest value tail, bytes = used ++ rest ∧ Completed pending used value ∧
      text = Char.ofNat value :: tail ∧
      piecesFrom none (offset + used.length) rest = tail.map .char := by
  induction bytes generalizing pending offset with
  | nil => cases text <;> simp [piecesFrom] at chars
  | cons byte bytes ih =>
      by_cases range : pending.low ≤ byte.toNat ∧ byte.toNat ≤ pending.high
      · obtain ⟨low, high⟩ := range
        simp only [piecesFrom, pending.step_eq offset low high] at chars
        by_cases missing : pending.missing ≤ 1
        · rw [if_pos missing] at chars
          cases text with
          | nil => simp at chars
          | cons c tail =>
              simp only [List.map_cons, List.cons_append, List.nil_append, List.cons.injEq,
                Piece.char.injEq] at chars
              exact ⟨[byte], bytes, _, tail, rfl, .last missing low high, by rw [chars.1],
                chars.2⟩
        · rw [if_neg missing] at chars
          obtain ⟨used, rest, value, tail, rfl, completed, rfl, remaining⟩ := ih chars
          refine ⟨byte :: used, rest, value, tail, rfl, .next (by omega) low high completed,
            rfl, ?_⟩
          rw [List.length_cons, Nat.add_comm used.length, ← Nat.add_assoc]
          exact remaining
      · cases text <;> simp [piecesFrom, Pending.step, range] at chars

/-- The first byte of a character gives its length, its first bits and the range of the byte behind
it, which leaves out overlong forms and surrogates. -/
theorem begin?_cases {byte : UInt8} {pending : Pending} (begins : begin? byte = some pending) :
    0x80 ≤ pending.low ∧ pending.high ≤ 0xBF ∧
      ((pending.missing = 1 ∧ pending.value = byte.toNat - 0xC0 ∧
          0xC2 ≤ byte.toNat ∧ byte.toNat ≤ 0xDF) ∨
        (pending.missing = 2 ∧ pending.value = byte.toNat - 0xE0 ∧
          (0xE0 ≤ byte.toNat ∧ byte.toNat ≤ 0xEF) ∧ (byte.toNat = 0xE0 → 0xA0 ≤ pending.low) ∧
          (byte.toNat = 0xED → pending.high ≤ 0x9F)) ∨
        (pending.missing = 3 ∧ pending.value = byte.toNat - 0xF0 ∧
          (0xF0 ≤ byte.toNat ∧ byte.toNat ≤ 0xF4) ∧ (byte.toNat = 0xF0 → 0x90 ≤ pending.low) ∧
          (byte.toNat = 0xF4 → pending.high ≤ 0x8F))) := by
  unfold begin? at begins
  grind

theorem Completed.last_byte {pending : Pending} {bytes : Bytes} {value : Nat}
    (completed : Completed pending bytes value) (missing : pending.missing ≤ 1) :
    ∃ byte, bytes = [byte] ∧ pending.low ≤ byte.toNat ∧ byte.toNat ≤ pending.high ∧
      value = (pending.next byte).value := by
  cases completed with
  | last missing low high => exact ⟨_, rfl, low, high, rfl⟩
  | next more low high rest => omega

theorem Completed.next_byte {pending : Pending} {bytes : Bytes} {value : Nat}
    (completed : Completed pending bytes value) (missing : 1 < pending.missing) :
    ∃ byte rest, bytes = byte :: rest ∧ pending.low ≤ byte.toNat ∧ byte.toNat ≤ pending.high ∧
      Completed (pending.next byte) rest value := by
  cases completed with
  | last fewer low high => omega
  | next missing low high rest => exact ⟨_, _, rfl, low, high, rest⟩

theorem encode_completed {byte : UInt8} {pending : Pending} {used : Bytes} {value : Nat}
    (begins : begin? byte = some pending) (completed : Completed pending used value) :
    String.utf8EncodeChar (Char.ofNat value) = byte :: used := by
  obtain ⟨low, high, ⟨missing, bits, first⟩ | ⟨missing, bits, first, long, scalar⟩ |
    ⟨missing, bits, first, long, scalar⟩⟩ := begin?_cases begins
  · obtain ⟨second, rfl, secondLow, secondHigh, number⟩ := completed.last_byte (by omega)
    have encoded := encode_two first (b := second.toNat) (by omega)
    simpa [number, Pending.next, bits] using encoded
  · obtain ⟨second, used, rfl, secondLow, secondHigh, completed⟩ := completed.next_byte (by omega)
    obtain ⟨third, rfl, thirdLow, thirdHigh, number⟩ :=
      completed.last_byte (by simp [Pending.next, missing])
    have encoded := encode_three first (b := second.toNat) (c := third.toNat)
      (by omega) ⟨thirdLow, thirdHigh⟩ (by omega) (by omega)
    simpa [number, Pending.next, bits] using encoded
  · obtain ⟨second, used, rfl, secondLow, secondHigh, completed⟩ := completed.next_byte (by omega)
    obtain ⟨third, used, rfl, thirdLow, thirdHigh, completed⟩ :=
      completed.next_byte (by simp [Pending.next, missing])
    obtain ⟨fourth, rfl, fourthLow, fourthHigh, number⟩ :=
      completed.last_byte (by simp [Pending.next, missing])
    have encoded := encode_four first (b := second.toNat) (c := third.toNat) (d := fourth.toNat)
      (by omega) ⟨thirdLow, thirdHigh⟩ ⟨fourthLow, fourthHigh⟩ (by omega) (by omega)
    simpa [number, Pending.next, bits] using encoded

theorem encode_of_pieces {offset : Nat} {bytes : Bytes} {text : Text}
    (chars : piecesFrom none offset bytes = text.map .char) : encode text = bytes := by
  -- Each step takes all the bytes of one character, so that nothing is pending behind them.
  induction size : bytes.length using Nat.strongRecOn generalizing offset bytes text with
  | ind size ih =>
      cases bytes with
      | nil =>
          cases text with
          | nil => rfl
          | cons c text => simp [piecesFrom] at chars
      | cons byte bytes =>
          rw [List.length_cons] at size
          by_cases ascii : byte.toNat < 0x80
          · cases text with
            | nil => simp [piecesFrom, start, ascii] at chars
            | cons c text =>
                simp only [piecesFrom, start, if_pos ascii, List.map_cons, List.cons_append,
                  List.nil_append, List.cons.injEq, Piece.char.injEq] at chars
                have rest : encode text = bytes := ih _ (by omega) chars.2 rfl
                simp [encode_cons, ← chars.1, encode_one ascii, rest]
          · cases begins : begin? byte with
            | none => cases text <;> simp [piecesFrom, start, ascii, begins] at chars
            | some pending =>
                simp only [piecesFrom, start, if_neg ascii, begins, List.nil_append] at chars
                obtain ⟨used, left, value, tail, rfl, completed, rfl, remaining⟩ :=
                  completed_of_pieces chars
                rw [List.length_append] at size
                have rest : encode tail = left := ih _ (by omega) remaining rfl
                rw [encode_cons, encode_completed begins completed, rest, List.cons_append]

theorem pieces_of_decode {bytes : Bytes} {text : Text} (decoded : decode bytes = .ok text) :
    pieces bytes = text.map .char := by
  unfold decode at decoded
  generalize pieces bytes = found at decoded ⊢
  induction found generalizing text with
  | nil =>
      cases decoded
      rfl
  | cons piece found ih =>
      rw [List.mapM_cons] at decoded
      cases piece with
      | bad error => cases decoded
      | char c =>
          simp only [bind, Except.bind] at decoded
          split at decoded
          · cases decoded
          · rename_i tail succeeds
            cases decoded
            rw [List.map_cons, ih succeeds]

/-- Nothing is lost when bytes are decoded. -/
theorem encode_of_decode {bytes : Bytes} {text : Text} (decoded : decode bytes = .ok text) :
    encode text = bytes :=
  encode_of_pieces (pieces_of_decode decoded)

/-- A byte below 128 is a character of its own. -/
theorem eq_of_mem_encodeChar {c : Char} {byte : UInt8} (member : byte ∈ String.utf8EncodeChar c)
    (ascii : byte.toNat < 0x80) : c = Char.ofNat byte.toNat := by
  have high : ∀ n, 0x80 ≤ n → n < 0x100 → byte ≠ UInt8.ofNat n := by
    intro n low bound same
    rw [same, UInt8.toNat_ofNat', Nat.mod_eq_of_lt bound] at ascii
    omega
  simp only [String.utf8EncodeChar] at member
  split at member
  · rename_i small
    rw [List.mem_singleton.mp member, UInt8.toNat_ofNat', Nat.mod_eq_of_lt (by omega)]
    exact (Char.ofNat_toNat c).symm
  · exfalso
    split at member
    · simp only [List.mem_cons, List.not_mem_nil, or_false] at member
      rcases member with same | same <;> exact high _ (by omega) (by omega) same
    · split at member
      · simp only [List.mem_cons, List.not_mem_nil, or_false] at member
        rcases member with same | same | same <;> exact high _ (by omega) (by omega) same
      · simp only [List.mem_cons, List.not_mem_nil, or_false] at member
        rcases member with same | same | same | same <;> exact high _ (by omega) (by omega) same

end Utf8

namespace Bytes

/-- Every carriage return, with the line feed behind it if there is one, becomes a line feed. -/
def unifyNewlines : Bytes → Bytes
  | [] => []
  | 0x0D :: 0x0A :: rest => 0x0A :: unifyNewlines rest
  | byte :: rest => (if byte == 0x0D then 0x0A else byte) :: unifyNewlines rest

theorem unifyNewlines_cons {byte : UInt8} {rest : Bytes}
    (noPair : byte = 0x0D → ∀ tail, rest ≠ 0x0A :: tail) :
    unifyNewlines (byte :: rest) = (if byte == 0x0D then 0x0A else byte) :: unifyNewlines rest := by
  rw [unifyNewlines]
  intro tail isReturn isFeed
  exact noPair isReturn tail isFeed

theorem unifyNewlines_append {first : Bytes} (noReturn : 0x0D ∉ first) (rest : Bytes) :
    unifyNewlines (first ++ rest) = first ++ unifyNewlines rest := by
  induction first with
  | nil => rfl
  | cons byte first ih =>
      rw [List.mem_cons, not_or] at noReturn
      have differs : byte ≠ 0x0D := fun same => noReturn.1 same.symm
      rw [List.cons_append, unifyNewlines_cons fun same => absurd same differs, ih noReturn.2]
      simp [differs]

theorem not_mem_unifyNewlines (bytes : Bytes) : 0x0D ∉ unifyNewlines bytes := by
  fun_induction unifyNewlines bytes with
  | case1 => simp
  | case2 rest ih => simpa using ih
  | case3 byte rest _ ih =>
      have differs : (0x0D : UInt8) ≠ if byte == 0x0D then 0x0A else byte := by
        split
        · decide
        · rename_i other
          intro same
          exact other (beq_iff_eq.mpr same.symm)
      exact fun member => (List.mem_cons.mp member).elim differs ih

/-- Line ends stay as they are where there is no carriage return, and only there. -/
theorem unifyNewlines_eq_self_iff {bytes : Bytes} :
    unifyNewlines bytes = bytes ↔ 0x0D ∉ bytes := by
  constructor
  · intro same
    rw [← same]
    exact not_mem_unifyNewlines bytes
  · intro noReturn
    simpa [unifyNewlines] using unifyNewlines_append noReturn []

end Bytes

namespace Utf8

theorem encode_ne_feed_cons {text : Text} (noFeed : ∀ tail, text ≠ '\n' :: tail) (tail : Bytes) :
    encode text ≠ 0x0A :: tail := by
  cases text with
  | nil => simp [encode]
  | cons c text =>
      intro starts
      obtain ⟨byte, others, bytes⟩ :=
        List.exists_cons_of_ne_nil (String.utf8EncodeChar_ne_nil : String.utf8EncodeChar c ≠ [])
      rw [encode_cons, bytes, List.cons_append, List.cons.injEq] at starts
      have member : 0x0A ∈ String.utf8EncodeChar c := by
        rw [bytes, starts.1]
        exact List.mem_cons_self
      have isFeed : c = '\n' := eq_of_mem_encodeChar member (by decide)
      exact noFeed text (by rw [isFeed])

theorem encode_unifyNewlines (text : Text) :
    encode (Text.unifyNewlines text) = Bytes.unifyNewlines (encode text) := by
  fun_induction Text.unifyNewlines text with
  | case1 => rfl
  | case2 rest ih => exact congrArg _ ih
  | case3 c rest noPair ih =>
      rw [encode_cons, encode_cons, ih]
      by_cases isReturn : c = '\r'
      · subst isReturn
        have noFeed : ∀ tail, encode rest ≠ 0x0A :: tail :=
          encode_ne_feed_cons fun tail same => noPair tail rfl same
        have unified : Bytes.unifyNewlines (0x0D :: encode rest) =
            0x0A :: Bytes.unifyNewlines (encode rest) :=
          Bytes.unifyNewlines_cons fun _ => noFeed
        exact unified.symm
      · have noReturn : 0x0D ∉ String.utf8EncodeChar c := fun member =>
          isReturn (eq_of_mem_encodeChar member (by decide))
        rw [Bytes.unifyNewlines_append noReturn, if_neg (by simpa using isReturn)]

end Utf8

end SchemaCase
