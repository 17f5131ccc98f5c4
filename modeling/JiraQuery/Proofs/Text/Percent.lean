import JiraQuery.Text.Percent
import Mathlib

/-!
# Reading percent encoding

What is written with percent signs can be read back, so different texts stand in a path in different
ways. Main statement: `decode?_encode`.
-/

namespace JiraQuery.Text.Percent

/-- The value of an upper-case hexadecimal digit. -/
def hexValue (c : Char) : Nat :=
  if c.toNat < 0x41 then c.toNat - 0x30 else c.toNat - 0x37

def decodeBytes? : List Char → Option (List UInt8)
  | [] => some []
  | '%' :: a :: b :: s => (decodeBytes? s).map (UInt8.ofNat (16 * hexValue a + hexValue b) :: ·)
  | c :: s => if c = '%' then none else (decodeBytes? s).map (UInt8.ofNat c.toNat :: ·)

/-- The text whose bytes are written. -/
def decode? (s : String) : Option String :=
  (decodeBytes? s.toList).bind fun bytes => String.fromUTF8? bytes.toByteArray

theorem hexValue_hexDigit : ∀ n < 16, hexValue (hexDigit n) = n := by
  decide

theorem decodeBytes?_cons_of_ne {c : Char} (h : c ≠ '%') (s : List Char) :
    decodeBytes? (c :: s) = (decodeBytes? s).map (UInt8.ofNat c.toNat :: ·) := by
  rw [decodeBytes?, if_neg h]
  intro a b rest hc
  exact absurd hc h

theorem toNat_ofNat_byte (b : UInt8) : (Char.ofNat b.toNat).toNat = b.toNat := by
  have hlt := b.toNat_lt
  rw [Char.toNat_ofNat, if_pos (.inl (by omega))]

/-- A percent sign does not stand for itself. -/
theorem ofNat_ne_percent {b : UInt8} (h : isPlain b = true) : Char.ofNat b.toNat ≠ '%' := by
  intro hb
  have hbyte : b.toNat = 0x25 := by rw [← toNat_ofNat_byte, hb]; rfl
  obtain rfl : b = 0x25 := UInt8.toNat_inj.1 hbyte
  revert h
  decide

theorem decodeBytes?_encodeByte (b : UInt8) (s : List Char) :
    decodeBytes? (encodeByte b ++ s) = (decodeBytes? s).map (b :: ·) := by
  have hlt := b.toNat_lt
  unfold encodeByte
  split
  · next hplain =>
    rw [List.singleton_append, decodeBytes?_cons_of_ne (ofNat_ne_percent hplain), toNat_ofNat_byte,
      UInt8.ofNat_toNat]
  · show (decodeBytes? s).map (UInt8.ofNat
      (16 * hexValue (hexDigit (b.toNat / 16)) + hexValue (hexDigit (b.toNat % 16))) :: ·) = _
    rw [hexValue_hexDigit _ (by omega), hexValue_hexDigit _ (by omega), Nat.div_add_mod,
      UInt8.ofNat_toNat]

theorem decodeBytes?_encodeBytes (bytes : List UInt8) :
    decodeBytes? (bytes.flatMap encodeByte) = some bytes := by
  induction bytes with
  | nil => rfl
  | cons b bytes ih => rw [List.flatMap_cons, decodeBytes?_encodeByte, ih]; rfl

theorem decode?_encode (s : String) : decode? (encode s) = some s := by
  have hbytes : (encode s).toList = (s.toList.flatMap String.utf8EncodeChar).flatMap encodeByte := by
    rw [encode, String.toList_ofList, encodeChars, List.flatMap_assoc]
  have hutf8 : (s.toList.flatMap String.utf8EncodeChar).toByteArray = s.toByteArray :=
    String.utf8Encode_toList
  unfold decode?
  rw [hbytes, decodeBytes?_encodeBytes, Option.bind_some, hutf8]
  exact dif_pos s.isValidUTF8

end JiraQuery.Text.Percent
