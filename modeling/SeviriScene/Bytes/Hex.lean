import SeviriScene.Text.Blank

/-!
# 16 進のバイト列

バイトを 2 桁の小文字の 16 進で書き、読むときは Unicode の空白を飛ばし大文字も受け入れる。
書いたものを読むと元に戻る。
-/

namespace SeviriScene.Bytes

/-- 4 ビットの値の小文字の 16 進の数字。 -/
def hexDigit (n : Nat) : Char :=
  if n < 10 then Char.ofNat (48 + n) else Char.ofNat (87 + n)

/-- 16 進の数字の値。大文字も受け入れる。 -/
def hexValue? (c : Char) : Option Nat :=
  if '0' ≤ c ∧ c ≤ '9' then some (c.toNat - 48)
  else if 'a' ≤ c ∧ c ≤ 'f' then some (c.toNat - 87)
  else if 'A' ≤ c ∧ c ≤ 'F' then some (c.toNat - 55)
  else none

/-- バイト列の 16 進表記。1 バイトにつき 2 桁。 -/
def toHex (bs : List UInt8) : String :=
  String.ofList (bs.flatMap fun b => [hexDigit (b.toNat / 16), hexDigit (b.toNat % 16)])

/-- バイト配列の 16 進表記。大きな配列でも一度だけ走査する。 -/
def toHexArray (bs : ByteArray) : String :=
  bs.foldl (fun s b => (s.push (hexDigit (b.toNat / 16))).push (hexDigit (b.toNat % 16))) ""

/-- 空白を除いた 16 進の数字の列を 2 桁ずつバイトにする。 -/
def hexPairs : List Char → Option (List UInt8)
  | [] => some []
  | [_] => none
  | hi :: lo :: rest => do
    let h ← hexValue? hi
    let l ← hexValue? lo
    let tail ← hexPairs rest
    pure ((h * 16 + l).toUInt8 :: tail)

/-- 16 進の文字列を読む。Unicode の空白は無視し、奇数桁や数字でない文字は受け付けない。 -/
def ofHex? (s : String) : Option (List UInt8) :=
  hexPairs (s.toList.filter fun c => !Text.isBlank c)

end SeviriScene.Bytes
