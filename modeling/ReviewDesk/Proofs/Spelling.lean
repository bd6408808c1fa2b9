-- Texts and the bytes that spell them. UTF-8 is read back, and so is a text whose characters are
-- partly written as percent escapes, whichever they are.
import Mathlib.Data.List.TakeWhile
import Mathlib.Tactic.IntervalCases
import ReviewDesk.Text.Percent
import ReviewDesk.Url.Scheme

namespace ReviewDesk

/-- A list goes on to its end before a mark that it does not hold. -/
theorem takeWhile_of_not_mem {α : Type} [DecidableEq α] {mark : α} {l : List α} (free : mark ∉ l) :
    l.takeWhile (· ≠ mark) = l :=
  List.takeWhile_eq_self_iff.2 fun _ listed => decide_eq_true fun same => free (same ▸ listed)

namespace Utf8

/-! ## Bytes -/

/-- The loop of the library that lists the bytes from a place on. -/
theorem loop_toList (bytes : ByteArray) (i : Nat) (before : List UInt8) :
    ByteArray.toList.loop bytes i before = before.reverse ++ bytes.data.toList.drop i := by
  fun_induction ByteArray.toList.loop bytes i before with
  | case1 i before more ih =>
    have inside : i < bytes.data.toList.length := more
    rw [ih, List.drop_eq_getElem_cons inside, List.reverse_cons, List.append_assoc]
    have here : bytes.get! i = bytes.data.toList[i] := getElem!_pos bytes.data i more
    rw [here]
    rfl
  | case2 i before done =>
    have past : bytes.data.toList.length ≤ i := Nat.le_of_not_lt done
    rw [List.drop_eq_nil_of_le past, List.append_nil]

/-- The bytes of a text are those of its characters. -/
theorem encode_ofList (cs : List Char) :
    encode (String.ofList cs) = cs.flatMap String.utf8EncodeChar := by
  unfold encode String.toUTF8 ByteArray.toList
  rw [loop_toList]
  simp [String.ofList, List.utf8Encode]

/-! ## The bytes of one character -/

variable {done : List (Option Char)}

theorem start_one {b : Nat} (h : b < 0x80) :
    start b done = ⟨none, some (Char.ofNat b) :: done⟩ := by
  unfold start
  rw [if_pos h]

theorem start_two {k : Nat} (low : 2 ≤ k) (high : k < 32) :
    start (k + 192) done = ⟨some ⟨k, 1, 0x80, 0xbf⟩, done⟩ := by
  interval_cases k <;> rfl

theorem start_three {k : Nat} (h : k < 16) : start (k + 224) done =
    ⟨some ⟨k, 2, if k = 0 then 0xa0 else 0x80, if k = 13 then 0x9f else 0xbf⟩, done⟩ := by
  interval_cases k <;> rfl

theorem start_four {k : Nat} (h : k ≤ 4) : start (k + 240) done =
    ⟨some ⟨k, 3, if k = 0 then 0x90 else 0x80, if k = 4 then 0x8f else 0xbf⟩, done⟩ := by
  interval_cases k <;> rfl

theorem step_start {b : Nat} (byte : b < 256) :
    step ⟨none, done⟩ (UInt8.ofNat b) = start b done := by
  unfold step
  rw [UInt8.toNat_ofNat_of_lt' byte]

/-- A byte that is due and within its bounds is taken. -/
theorem step_last {bits low high b : Nat} (above : low ≤ b) (below : b ≤ high) (byte : b < 256) :
    step ⟨some ⟨bits, 1, low, high⟩, done⟩ (UInt8.ofNat b) =
      ⟨none, some (Char.ofNat (bits * 64 + (b - 0x80))) :: done⟩ := by
  unfold step
  rw [UInt8.toNat_ofNat_of_lt' byte]
  dsimp only
  rw [if_pos ⟨above, below⟩, if_pos (Nat.le_refl 1)]

theorem step_more {bits due low high b : Nat} (above : low ≤ b) (below : b ≤ high)
    (byte : b < 256) :
    step ⟨some ⟨bits, due + 2, low, high⟩, done⟩ (UInt8.ofNat b) =
      ⟨some ⟨bits * 64 + (b - 0x80), due + 1, 0x80, 0xbf⟩, done⟩ := by
  unfold step
  rw [UInt8.toNat_ofNat_of_lt' byte]
  dsimp only
  rw [if_pos ⟨above, below⟩, if_neg (by omega)]
  rfl

/-- The bytes of a character are read as that character. -/
theorem foldl_step_char (c : Char) (done : List (Option Char)) :
    (String.utf8EncodeChar c).foldl step ⟨none, done⟩ = ⟨none, some c :: done⟩ := by
  have valid : c.val.toNat < 0xd800 ∨ 0xdfff < c.val.toNat ∧ c.val.toNat < 0x110000 := c.valid
  have self : Char.ofNat c.val.toNat = c := Char.ofNat_toNat c
  unfold String.utf8EncodeChar
  dsimp only
  generalize c.val.toNat = n at *
  subst self
  -- One case for each number of bytes, as the encoding has it.
  split
  · rw [List.foldl_cons, step_start (by omega), start_one (by omega)]
    rfl
  split
  · rw [List.foldl_cons, step_start (by omega), start_two (by omega) (by omega), List.foldl_cons,
      step_last (by omega) (by omega) (by omega)]
    have bits : n / 64 % 32 * 64 + (n % 64 + 128 - 128) = n := by omega
    rw [bits]
    rfl
  split
  · rw [List.foldl_cons, step_start (by omega), start_three (by omega), List.foldl_cons,
      step_more (by split <;> omega) (by split <;> omega) (by omega), List.foldl_cons,
      step_last (by omega) (by omega) (by omega)]
    have bits : (n / 4096 % 16 * 64 + (n / 64 % 64 + 128 - 128)) * 64 + (n % 64 + 128 - 128) =
        n := by
      omega
    rw [bits]
    rfl
  · rw [List.foldl_cons, step_start (by omega), start_four (by omega), List.foldl_cons,
      step_more (by split <;> omega) (by split <;> omega) (by omega), List.foldl_cons,
      step_more (by omega) (by omega) (by omega), List.foldl_cons,
      step_last (by omega) (by omega) (by omega)]
    have bits : ((n / 262144 % 8 * 64 + (n / 4096 % 64 + 128 - 128)) * 64 +
        (n / 64 % 64 + 128 - 128)) * 64 + (n % 64 + 128 - 128) = n := by
      omega
    rw [bits]
    rfl

theorem foldl_step_chars (cs : List Char) (done : List (Option Char)) :
    (cs.flatMap String.utf8EncodeChar).foldl step ⟨none, done⟩ =
      ⟨none, (cs.map some).reverse ++ done⟩ := by
  induction cs generalizing done with
  | nil => rfl
  | cons c cs ih =>
    rw [List.flatMap_cons, List.foldl_append, foldl_step_char, ih]
    simp

theorem decode_bytes (cs : List Char) :
    decode (cs.flatMap String.utf8EncodeChar) = cs.map some := by
  unfold decode
  rw [foldl_step_chars]
  simp [State.finish]

/-- A text is read back from its bytes. -/
theorem decode?_encode (s : String) : decode? (encode s) = some s := by
  obtain ⟨cs, rfl⟩ : ∃ cs, s = String.ofList cs := ⟨s.toList, String.ofList_toList.symm⟩
  unfold decode?
  have whole : ((cs.map some).mapM id : Option (List Char)) = some cs := by
    rw [List.mapM_map]
    exact List.mapM_pure.trans (congrArg some (List.map_id cs))
  rw [encode_ofList, decode_bytes, whole, Option.map_some]

end Utf8

/-! ## Escapes -/

namespace Percent

variable {isSpecial : Char → Bool} {cs : List Char} {c : Char}

theorem bytes_of_ascii (ascii : c.toNat < 0x80) :
    String.utf8EncodeChar c = [UInt8.ofNat c.toNat] := by
  have small : c.val.toNat ≤ 127 := Nat.le_of_lt_succ ascii
  unfold String.utf8EncodeChar
  exact if_pos small

theorem ascii_hexDigit : ∀ n < 16, (Url.hexDigit n).toNat < 0x80 := by decide

/-- A digit of an escape is read back. -/
theorem hexValue?_hexDigit : ∀ n < 16,
    hexValue? (UInt8.ofNat (Url.hexDigit n).toNat) = some (UInt8.ofNat n) := by decide

theorem byte_of_digits (b : UInt8) :
    UInt8.ofNat (b.toNat / 16) * 16 + UInt8.ofNat (b.toNat % 16) = b := by
  rw [← UInt8.toNat_inj]
  have small : b.toNat < 256 := b.toNat_lt
  simp
  omega

theorem decode_of_ne {b : UInt8} (plain : b ≠ 0x25) (rest : List UInt8) :
    decode (b :: rest) = b :: decode rest := by
  rcases rest with _ | ⟨x, _ | ⟨y, rest⟩⟩
  · rfl
  · rfl
  · rw [decode, if_neg plain]

/-- An escape is read as its byte. -/
theorem decode_escapeByte (b : UInt8) (rest : List UInt8) :
    decode ((Url.escapeByte b).flatMap String.utf8EncodeChar ++ rest) = b :: decode rest := by
  have high : b.toNat / 16 < 16 := by
    have small : b.toNat < 256 := b.toNat_lt
    omega
  have low : b.toNat % 16 < 16 := Nat.mod_lt _ (by decide)
  have bytes : (Url.escapeByte b).flatMap String.utf8EncodeChar =
      [0x25, UInt8.ofNat (Url.hexDigit (b.toNat / 16)).toNat,
        UInt8.ofNat (Url.hexDigit (b.toNat % 16)).toNat] := by
    unfold Url.escapeByte
    simp only [List.flatMap_cons, List.flatMap_nil, bytes_of_ascii (ascii_hexDigit _ high),
      bytes_of_ascii (ascii_hexDigit _ low)]
    rfl
  rw [bytes]
  simp only [List.cons_append, List.nil_append, decode, escaped?, hexValue?_hexDigit _ high,
    hexValue?_hexDigit _ low, if_true, byte_of_digits]

theorem decode_escapeBytes (bytes rest : List UInt8) :
    decode ((bytes.flatMap Url.escapeByte).flatMap String.utf8EncodeChar ++ rest) =
      bytes ++ decode rest := by
  induction bytes with
  | nil => rfl
  | cons b bytes ih =>
    rw [List.flatMap_cons, List.flatMap_append, List.append_assoc, decode_escapeByte, ih,
      List.cons_append]

theorem decode_escape (percent : isSpecial '%' = true) (cs : List Char) :
    decode ((Url.escape isSpecial cs).flatMap String.utf8EncodeChar) =
      cs.flatMap String.utf8EncodeChar := by
  induction cs with
  | nil => rfl
  | cons c cs ih =>
    unfold Url.escape at ih ⊢
    rw [List.flatMap_cons, List.flatMap_append, List.flatMap_cons]
    split
    · rw [decode_escapeBytes, ih, Utf8.encode_ofList, List.flatMap_cons, List.flatMap_nil,
        List.append_nil]
    · rename_i plain
      simp only [Bool.or_eq_true, decide_eq_true_eq, not_or, not_le] at plain
      have other : UInt8.ofNat c.toNat ≠ 0x25 := by
        intro same
        have code := congrArg UInt8.toNat same
        have small : c.toNat < 256 := plain.2.trans (by decide)
        rw [UInt8.toNat_ofNat_of_lt' small] at code
        have sign : c = '%' := by rw [← Char.ofNat_toNat c, code]; rfl
        rw [sign] at plain
        exact plain.1 percent
      rw [List.flatMap_cons, List.flatMap_nil, List.append_nil, bytes_of_ascii plain.2,
        List.singleton_append, decode_of_ne other, ih]
      rfl

/-- A text is read back, whichever of its characters are escaped, if `%` is. -/
theorem decodeText_escape (percent : isSpecial '%' = true) (cs : List Char) :
    decodeText (String.ofList (Url.escape isSpecial cs)) = Utf8.encode (String.ofList cs) := by
  unfold decodeText
  rw [Utf8.encode_ofList, Utf8.encode_ofList, decode_escape percent]

end Percent

namespace Url

variable {isSpecial : Char → Bool} {cs ds : List Char} {c : Char}

/-- Texts that are spelled alike are the same. -/
theorem escape_injective (percent : isSpecial '%' = true)
    (alike : escape isSpecial cs = escape isSpecial ds) : cs = ds := by
  have bytes := congrArg (fun spelled => Percent.decodeText (String.ofList spelled)) alike
  rw [Percent.decodeText_escape percent, Percent.decodeText_escape percent] at bytes
  have texts := congrArg Utf8.decode? bytes
  rw [Utf8.decode?_encode, Utf8.decode?_encode] at texts
  exact String.ofList_injective (Option.some.inj texts)

theorem escape_of_plain (plain : ∀ c ∈ cs, isSpecial c = false ∧ c.toNat < 0x80) :
    escape isSpecial cs = cs := by
  induction cs with
  | nil => rfl
  | cons c cs ih =>
    obtain ⟨⟨kept, ascii⟩, later⟩ := List.forall_mem_cons.1 plain
    have here : (isSpecial c || 0x80 ≤ c.toNat : Bool) = false := by simp [kept, ascii]
    unfold escape at ih ⊢
    rw [List.flatMap_cons, here, ih later]
    rfl

/-- A character that is escaped does not stand in what is spelled, unless escapes are made of
it. -/
theorem not_mem_escape (special : isSpecial c = true) (percent : c ≠ '%')
    (digit : ∀ n < 16, c ≠ hexDigit n) : c ∉ escape isSpecial cs := by
  intro listed
  unfold escape at listed
  obtain ⟨d, -, spelled⟩ := List.mem_flatMap.1 listed
  split at spelled
  · obtain ⟨b, -, byte⟩ := List.mem_flatMap.1 spelled
    have small : b.toNat < 256 := b.toNat_lt
    simp only [escapeByte, List.mem_cons, List.not_mem_nil, or_false] at byte
    rcases byte with rfl | rfl | rfl
    · exact percent rfl
    · exact digit _ (by omega) rfl
    · exact digit _ (by omega) rfl
  · rename_i kept
    cases List.mem_singleton.1 spelled
    simp [special] at kept

end Url

end ReviewDesk
