import Scaffold.Text.Split
import Scaffold.Text.Utf8

/-!
# Texts read back from their bytes

The bytes of a character are decoded to it, whatever follows
(`Text.decodeUtf8_char`), so that a text is decoded from its bytes
(`Text.decodeUtf8_encodeUtf8`).
-/

namespace Scaffold.Text

/-! ## Single bytes -/

section
variable {n m : Nat} (h : n < 256)
include h

theorem toNat_byte : (UInt8.ofNat n).toNat = n := by
  rw [UInt8.toNat_ofNat', Nat.mod_eq_of_lt h]

theorem announced_byte : announced (UInt8.ofNat n) =
    if n < 128 then 1 else if 194 ≤ n ∧ n ≤ 223 then 2 else if 224 ≤ n ∧ n ≤ 239 then 3
      else if 240 ≤ n ∧ n ≤ 244 then 4 else 0 := by
  simp only [announced, UInt8.lt_iff_toNat_lt, UInt8.le_iff_toNat_le, toNat_byte h]
  rfl

theorem isContinuation_byte : isContinuation (UInt8.ofNat n) ↔ 128 ≤ n ∧ n ≤ 191 := by
  simp only [isContinuation, Bool.and_eq_true, decide_eq_true_eq, UInt8.le_iff_toNat_le, toNat_byte h]
  rfl

theorem fitsSecond_byte (hm : m < 256) : fitsSecond (UInt8.ofNat n) (UInt8.ofNat m) ↔ (128 ≤ m ∧ m ≤ 191) ∧
    (n = 224 → 160 ≤ m) ∧ (n = 237 → m < 160) ∧ (n = 240 → 144 ≤ m) ∧ (n = 244 → m < 144) := by
  simp only [fitsSecond, Bool.and_eq_true, Bool.or_eq_true, bne_iff_ne, ne_eq, decide_eq_true_eq,
    isContinuation_byte hm, UInt8.lt_iff_toNat_lt, UInt8.le_iff_toNat_le, ← UInt8.toNat_inj, toNat_byte h,
    toNat_byte hm, and_assoc]
  change _ ∧ _ ∧ (¬ n = 224 ∨ 160 ≤ m) ∧ (¬ n = 237 ∨ m < 160) ∧ (¬ n = 240 ∨ 144 ≤ m) ∧ (¬ n = 244 ∨ m < 144) ↔ _
  omega

end

/-! ## Sequences -/

section
variable {b b₂ b₃ b₄ : UInt8} {position : Nat} {rest : List UInt8}

theorem decodeUtf8_one (h : announced b = 1) :
    decodeUtf8 position (b :: rest) = (decodeUtf8 (position + 1) rest).map (Char.ofNat b.toNat :: ·) := by
  rw [decodeUtf8.eq_def]
  simp only [h]

theorem decodeUtf8_two (h : announced b = 2) (hsecond : fitsSecond b b₂) :
    decodeUtf8 position (b :: b₂ :: rest) =
      (decodeUtf8 (position + 2) rest).map (Char.ofNat (b.toNat % 32 * 64 + low6 b₂) :: ·) := by
  rw [decodeUtf8.eq_def]
  simp only [h, hsecond]
  rfl

theorem decodeUtf8_three (h : announced b = 3) (hsecond : fitsSecond b b₂) (hthird : isContinuation b₃) :
    decodeUtf8 position (b :: b₂ :: b₃ :: rest) = (decodeUtf8 (position + 3) rest).map
      (Char.ofNat ((b.toNat % 16 * 64 + low6 b₂) * 64 + low6 b₃) :: ·) := by
  rw [decodeUtf8.eq_def]
  simp only [h, hsecond, hthird]
  rfl

theorem decodeUtf8_four (h : announced b = 4) (hsecond : fitsSecond b b₂) (hthird : isContinuation b₃)
    (hfourth : isContinuation b₄) :
    decodeUtf8 position (b :: b₂ :: b₃ :: b₄ :: rest) = (decodeUtf8 (position + 4) rest).map
      (Char.ofNat (((b.toNat % 8 * 64 + low6 b₂) * 64 + low6 b₃) * 64 + low6 b₄) :: ·) := by
  rw [decodeUtf8.eq_def]
  simp only [h, hsecond, hthird, hfourth]
  rfl

end

/-! ## Characters -/

def bytesOf (v : Nat) : List UInt8 :=
  if v ≤ 127 then [.ofNat v]
  else if v ≤ 2047 then [.ofNat (v / 64 % 32 + 192), .ofNat (v % 64 + 128)]
  else if v ≤ 65535 then [.ofNat (v / 4096 % 16 + 224), .ofNat (v / 64 % 64 + 128), .ofNat (v % 64 + 128)]
  else [.ofNat (v / 262144 % 8 + 240), .ofNat (v / 4096 % 64 + 128), .ofNat (v / 64 % 64 + 128), .ofNat (v % 64 + 128)]

theorem decodeUtf8_char (c : Char) (position : Nat) (rest : List UInt8) :
    decodeUtf8 position (String.utf8EncodeChar c ++ rest) =
      (decodeUtf8 (position + (String.utf8EncodeChar c).length) rest).map (c :: ·) := by
  have hvalid : c.toNat < 0xD800 ∨ 0xDFFF < c.toNat ∧ c.toNat < 0x110000 := c.valid
  have hself : Char.ofNat c.toNat = c := Char.ofNat_toNat c
  have hbytes : String.utf8EncodeChar c = bytesOf c.toNat := rfl
  rw [hbytes]
  generalize c.toNat = v at hvalid hself
  unfold bytesOf
  -- the length announced by the first byte decides how many bytes are put together
  split
  · rename_i hone
    have hlead : announced (.ofNat v) = 1 := by rw [announced_byte (by omega), if_pos (by omega)]
    rw [List.singleton_append, decodeUtf8_one hlead, toNat_byte (by omega), hself]
    rfl
  split
  · rename_i htwo
    have hlead : announced (.ofNat (v / 64 % 32 + 192)) = 2 := by
      rw [announced_byte (by omega), if_neg (by omega), if_pos (by omega)]
    have hsecond := (fitsSecond_byte (n := v / 64 % 32 + 192) (m := v % 64 + 128) (by omega) (by omega)).mpr (by omega)
    have hcode : (v / 64 % 32 + 192) % 32 * 64 + (v % 64 + 128) % 64 = v := by omega
    rw [List.cons_append, List.singleton_append, decodeUtf8_two hlead hsecond, low6, toNat_byte (by omega),
      toNat_byte (by omega), hcode, hself]
    rfl
  have hlast : isContinuation (.ofNat (v % 64 + 128)) := (isContinuation_byte (by omega)).mpr (by omega)
  split
  · rename_i hthree
    have hlead : announced (.ofNat (v / 4096 % 16 + 224)) = 3 := by
      rw [announced_byte (by omega), if_neg (by omega), if_neg (by omega), if_pos (by omega)]
    have hsecond := (fitsSecond_byte (n := v / 4096 % 16 + 224) (m := v / 64 % 64 + 128) (by omega) (by omega)).mpr
      (by omega)
    have hcode : ((v / 4096 % 16 + 224) % 16 * 64 + (v / 64 % 64 + 128) % 64) * 64 + (v % 64 + 128) % 64 = v := by omega
    rw [List.cons_append, List.cons_append, List.singleton_append, decodeUtf8_three hlead hsecond hlast, low6, low6,
      toNat_byte (by omega), toNat_byte (by omega), toNat_byte (by omega), hcode, hself]
    rfl
  · rename_i htwo hthree
    have hlead : announced (.ofNat (v / 262144 % 8 + 240)) = 4 := by
      rw [announced_byte (by omega), if_neg (by omega), if_neg (by omega), if_neg (by omega), if_pos (by omega)]
    have hsecond := (fitsSecond_byte (n := v / 262144 % 8 + 240) (m := v / 4096 % 64 + 128) (by omega) (by omega)).mpr
      (by omega)
    have hthird : isContinuation (.ofNat (v / 64 % 64 + 128)) := (isContinuation_byte (by omega)).mpr (by omega)
    have hcode : (((v / 262144 % 8 + 240) % 8 * 64 + (v / 4096 % 64 + 128) % 64) * 64 + (v / 64 % 64 + 128) % 64) * 64 +
        (v % 64 + 128) % 64 = v := by omega
    rw [List.cons_append, List.cons_append, List.cons_append, List.singleton_append,
      decodeUtf8_four hlead hsecond hthird hlast, low6, low6, low6, toNat_byte (by omega), toNat_byte (by omega),
      toNat_byte (by omega), toNat_byte (by omega), hcode, hself]
    rfl

/-! ## Texts -/

theorem toList_loop (bs : ByteArray) (i : Nat) (r : List UInt8) :
    ByteArray.toList.loop bs i r = r.reverse ++ bs.data.toList.drop i := by
  fun_induction ByteArray.toList.loop bs i r with
  | case1 i r hi ih =>
    have hlength : i < bs.data.toList.length := by simpa using hi
    have hget : bs.get! i = bs.data.toList[i] := by simp [ByteArray.get!, getElem!_pos bs.data i hi]
    rw [ih, List.drop_eq_getElem_cons hlength, hget, List.reverse_cons, List.append_assoc, List.singleton_append]
  | case2 i r hi =>
    rw [List.drop_eq_nil_of_le (by simpa using Nat.le_of_not_lt hi), List.append_nil]

theorem encodeUtf8_eq (s : String) : encodeUtf8 s = s.toList.flatMap String.utf8EncodeChar := by
  have hlist : encodeUtf8 s = s.toByteArray.data.toList := by
    rw [encodeUtf8, String.toUTF8_eq_toByteArray, ByteArray.toList, toList_loop]
    rfl
  rw [hlist, ← String.utf8Encode_toList]
  exact List.toList_data_toByteArray

theorem decodeUtf8_encodeUtf8 (s : String) : decodeUtf8 0 (encodeUtf8 s) = .ok s.toList := by
  have hchars : ∀ (cs : List Char) (position : Nat),
      decodeUtf8 position (cs.flatMap String.utf8EncodeChar) = .ok cs := by
    intro cs
    induction cs with
    | nil => exact fun _ => rfl
    | cons c cs ih =>
      intro position
      rw [List.flatMap_cons, decodeUtf8_char, ih]
      rfl
  rw [encodeUtf8_eq, hchars]

/-! ## Line ends -/

theorem plainLineEnds_of_notMem : ∀ {cs : List Char}, '\r' ∉ cs → plainLineEnds cs = cs
  | [], _ => rfl
  | c :: cs, h => by
    rw [List.mem_cons, not_or] at h
    unfold plainLineEnds
    split
    · rename_i heq
      cases heq
    · rename_i heq
      exact absurd (List.cons.inj heq).1.symm h.1
    · rename_i heq
      exact absurd (List.cons.inj heq).1.symm h.1
    · rename_i heq
      obtain ⟨rfl, rfl⟩ := List.cons.inj heq
      rw [plainLineEnds_of_notMem h.2]

end Scaffold.Text
