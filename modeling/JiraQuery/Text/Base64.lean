/-!
# Base 64

Three bytes are written as four characters; a last group of one or two bytes is padded with `=`.
-/

namespace JiraQuery.Text.Base64

/-- The character of a value below sixty-four. -/
def digit (n : Nat) : Char :=
  Char.ofNat
    (if n < 26 then 0x41 + n
    else if n < 52 then 0x47 + n
    else if n < 62 then n - 4
    else if n = 62 then 0x2B
    else 0x2F)

def encodeBytes : List UInt8 → List Char
  | [] => []
  | [a] =>
    let n := a.toNat * 16
    [digit (n / 64), digit (n % 64), '=', '=']
  | [a, b] =>
    let n := (a.toNat * 256 + b.toNat) * 4
    [digit (n / 4096), digit (n / 64 % 64), digit (n % 64), '=']
  | a :: b :: c :: rest =>
    let n := (a.toNat * 256 + b.toNat) * 256 + c.toNat
    digit (n / 262144) :: digit (n / 4096 % 64) :: digit (n / 64 % 64) :: digit (n % 64) ::
      encodeBytes rest

/-- The base 64 form of the UTF-8 bytes of a text. -/
def encode (s : String) : String :=
  String.ofList (encodeBytes s.toUTF8.toList)

theorem length_encodeBytes : ∀ bs : List UInt8,
    (encodeBytes bs).length = 4 * ((bs.length + 2) / 3)
  | [] => rfl
  | [_] => by simp [encodeBytes]
  | [_, _] => by simp [encodeBytes]
  | _ :: _ :: _ :: rest => by
    simp only [encodeBytes, List.length_cons, length_encodeBytes rest]
    omega

end JiraQuery.Text.Base64
