import ShopClient.Text.Utf8

/-!
# Base 64

Bytes in the letters, digits and two marks of base 64, padded to groups of four characters.
-/

namespace ShopClient.Text

/-- The digits of base 64, in the order of their values. -/
def base64Digits : List Char :=
  "ABCDEFGHIJKLMNOPQRSTUVWXYZabcdefghijklmnopqrstuvwxyz0123456789+/".toList

/-- The digit for the lowest six bits of `n`. -/
def base64Digit (n : Nat) : Char := base64Digits.getD (n % 64) '='

/-- The characters for `bs`. -/
def base64 : Bytes → List Char
  | [] => []
  | [a] =>
    let n := a.toNat * 16
    [base64Digit (n / 64), base64Digit n, '=', '=']
  | [a, b] =>
    let n := (a.toNat * 256 + b.toNat) * 4
    [base64Digit (n / 4096), base64Digit (n / 64), base64Digit n, '=']
  | a :: b :: c :: rest =>
    let n := a.toNat * 65536 + b.toNat * 256 + c.toNat
    base64Digit (n / 262144) :: base64Digit (n / 4096) :: base64Digit (n / 64) :: base64Digit n ::
      base64 rest

end ShopClient.Text
