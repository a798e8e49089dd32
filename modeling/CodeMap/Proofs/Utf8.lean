/-
Reading back what was written in UTF-8.

Main statement: the bytes of a text are decoded to its characters, without a fault
(`Text.Utf8.decode_toUTF8`).
-/

import CodeMap.Text.Utf8
import Mathlib.Data.List.TakeWhile
import Mathlib.Tactic.SplitIfs

namespace CodeMap.Text.Utf8

/-! ### The bytes of a text -/

theorem toList_loop (bytes : ByteArray) (i : Nat) (seen : List UInt8) :
    ByteArray.toList.loop bytes i seen = seen.reverse ++ bytes.data.toList.drop i := by
  fun_induction ByteArray.toList.loop bytes i seen with
  | case1 i seen inside ih =>
    have bound : i < bytes.data.toList.length := by simpa using inside
    have here : bytes.get! i = bytes.data.toList[i] := by
      cases bytes
      exact getElem!_pos _ i inside
    rw [ih, List.drop_eq_getElem_cons bound, here]
    simp
  | case2 i seen outside =>
    rw [List.drop_eq_nil_of_le (by simpa using Nat.le_of_not_lt outside)]
    simp

theorem toList_toUTF8 (text : String) :
    text.toUTF8.toList = text.toList.flatMap String.utf8EncodeChar := by
  rw [ByteArray.toList, toList_loop, String.toUTF8_eq_toByteArray, ← String.utf8Encode_toList,
    List.utf8Encode]
  simp

/-! ### One character -/

section Sequence

variable {first second : UInt8} {more : List UInt8}

theorem sequenceLength?_eq :
    sequenceLength? first =
      if first.toNat < 0x80 then some 1
      else if first.toNat < 0xC2 then none
      else if first.toNat < 0xE0 then some 2
      else if first.toNat < 0xF0 then some 3
      else if first.toNat < 0xF5 then some 4
      else none := rfl

theorem sequenceValue_cons :
    sequenceValue first (second :: more) =
      (second :: more).foldl (fun value b => value * 64 + b.toNat % 64)
        (if first.toNat < 0xE0 then first.toNat % 32
         else if first.toNat < 0xF0 then first.toNat % 16
         else first.toNat % 8) := rfl

theorem secondFits_iff :
    secondFits first second = true ↔ isContinuation second = true ∧
      (first.toNat = 0xE0 → 0xA0 ≤ second.toNat) ∧ (first.toNat = 0xED → second.toNat < 0xA0) ∧
      (first.toNat = 0xF0 → 0x90 ≤ second.toNat) ∧ (first.toNat = 0xF4 → second.toNat < 0x90) := by
  simp only [secondFits, Bool.and_eq_true, ← UInt8.toNat_inj, UInt8.reduceToNat]
  refine and_congr_right fun _ => ?_
  split_ifs <;> simp_all [UInt8.le_iff_toNat_le, UInt8.lt_iff_toNat_lt]

theorem fitting_eq_length (fits : secondFits first second = true)
    (continues : ∀ b ∈ more, isContinuation b = true) :
    fitting first (second :: more) = (second :: more).length := by
  rw [fitting, if_pos fits, List.takeWhile_eq_self_iff.mpr continues, List.length_cons,
    Nat.add_comm]

theorem decodeOne_of_fitting (position : Nat) {c : Char} (rest : List UInt8)
    (length : sequenceLength? first = some (more.length + 1))
    (fits : fitting first more = more.length) (value : sequenceValue first more = c.toNat) :
    decodeOne position first (more ++ rest) = .ok (c, more.length + 1) := by
  simp [decodeOne, length, fits, value, Char.ofNat_toNat]

theorem toNat_continuation (n : Nat) : (UInt8.ofNat (n % 64 + 128)).toNat = n % 64 + 128 := by
  rw [UInt8.toNat_ofNat']
  omega

theorem isContinuation_continuation (n : Nat) :
    isContinuation (UInt8.ofNat (n % 64 + 128)) = true := by
  simp only [isContinuation, Bool.and_eq_true, decide_eq_true_eq, UInt8.le_iff_toNat_le,
    UInt8.lt_iff_toNat_lt, toNat_continuation, UInt8.reduceToNat]
  omega

end Sequence

/-- The first byte of a character and the others give it back, whatever follows. -/
theorem decodeOne_utf8EncodeChar (position : Nat) (c : Char) (rest : List UInt8) :
    ∃ first more, String.utf8EncodeChar c = first :: more ∧
      decodeOne position first (more ++ rest) = .ok (c, more.length + 1) := by
  obtain ⟨v, number⟩ : ∃ v, c.val.toNat = v := ⟨_, rfl⟩
  have valid : v < 0xD800 ∨ 0xDFFF < v ∧ v < 0x110000 := number ▸ c.valid
  have value : c.toNat = v := number
  unfold String.utf8EncodeChar
  rw [number]
  dsimp only
  split_ifs with one two three
  · have first : (UInt8.ofNat v).toNat = v := by
      rw [UInt8.toNat_ofNat']
      omega
    refine ⟨_, _, rfl, decodeOne_of_fitting position rest ?_ rfl ?_⟩
    · rw [sequenceLength?_eq, first, if_pos (by omega)]
      rfl
    · exact first.trans value.symm
  · have first : (UInt8.ofNat (v / 64 % 32 + 192)).toNat = v / 64 % 32 + 192 := by
      rw [UInt8.toNat_ofNat']
      omega
    refine ⟨_, _, rfl, decodeOne_of_fitting position rest ?_ (fitting_eq_length ?_ ?_) ?_⟩
    · rw [sequenceLength?_eq, first, if_neg (by omega), if_neg (by omega), if_pos (by omega)]
      rfl
    · rw [secondFits_iff, first, toNat_continuation]
      exact ⟨isContinuation_continuation _, by omega⟩
    · nofun
    · rw [sequenceValue_cons, first, if_pos (by omega), value]
      simp only [List.foldl_cons, List.foldl_nil, toNat_continuation]
      omega
  · have first : (UInt8.ofNat (v / 4096 % 16 + 224)).toNat = v / 4096 % 16 + 224 := by
      rw [UInt8.toNat_ofNat']
      omega
    refine ⟨_, _, rfl, decodeOne_of_fitting position rest ?_ (fitting_eq_length ?_ ?_) ?_⟩
    · rw [sequenceLength?_eq, first, if_neg (by omega), if_neg (by omega), if_neg (by omega),
        if_pos (by omega)]
      rfl
    · rw [secondFits_iff, first, toNat_continuation]
      exact ⟨isContinuation_continuation _, by omega⟩
    · exact List.forall_mem_singleton.mpr (isContinuation_continuation _)
    · rw [sequenceValue_cons, first, if_neg (by omega), if_pos (by omega), value]
      simp only [List.foldl_cons, List.foldl_nil, toNat_continuation]
      omega
  · have first : (UInt8.ofNat (v / 262144 % 8 + 240)).toNat = v / 262144 % 8 + 240 := by
      rw [UInt8.toNat_ofNat']
      omega
    refine ⟨_, _, rfl, decodeOne_of_fitting position rest ?_ (fitting_eq_length ?_ ?_) ?_⟩
    · rw [sequenceLength?_eq, first, if_neg (by omega), if_neg (by omega), if_neg (by omega),
        if_neg (by omega), if_pos (by omega)]
      rfl
    · rw [secondFits_iff, first, toNat_continuation]
      exact ⟨isContinuation_continuation _, by omega⟩
    · exact List.forall_mem_cons.mpr ⟨isContinuation_continuation _,
        List.forall_mem_singleton.mpr (isContinuation_continuation _)⟩
    · rw [sequenceValue_cons, first, if_neg (by omega), if_neg (by omega), value]
      simp only [List.foldl_cons, List.foldl_nil, toNat_continuation]
      omega

theorem decodeFrom_skip (position : Nat) (more rest : List UInt8) :
    decodeFrom position more.length (more ++ rest) =
      decodeFrom (position + more.length) 0 rest := by
  induction more generalizing position with
  | nil => rfl
  | cons b more ih =>
    rw [List.cons_append, List.length_cons, decodeFrom, ih, Nat.add_assoc, Nat.add_comm 1]

/-! ### A whole text -/

theorem decodeFrom_flatMap (position : Nat) (cs : List Char) :
    decodeFrom position 0 (cs.flatMap String.utf8EncodeChar) = .ok cs := by
  induction cs generalizing position with
  | nil => rfl
  | cons c cs ih =>
    obtain ⟨first, more, encoded, decoded⟩ :=
      decodeOne_utf8EncodeChar position c (cs.flatMap String.utf8EncodeChar)
    rw [List.flatMap_cons, encoded, List.cons_append, decodeFrom, decoded]
    change (do
      let cs ← decodeFrom (position + 1) more.length (more ++ cs.flatMap String.utf8EncodeChar)
      return c :: cs) = _
    rw [decodeFrom_skip, ih]
    rfl

/-- The bytes of a text are decoded to its characters. -/
theorem decode_toUTF8 (text : String) : decode text.toUTF8.toList = .ok text.toList := by
  rw [toList_toUTF8, decode, decodeFrom_flatMap]

end CodeMap.Text.Utf8
