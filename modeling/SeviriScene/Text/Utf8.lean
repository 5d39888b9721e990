/-!
# UTF-8 の寛容な読み取り

バイト列を UTF-8 として読み、正しくない並びを U+FFFD に置き換える。置き換えの単位は
「正しい並びの最長の接頭部分」で、それが一つもなければ 1 バイトである（Unicode の
maximal subpart の規則）。正しい並びは過長表現、サロゲート、U+10FFFF を超える値を含まない。
-/

namespace SeviriScene.Text

/-- 置き換え文字 U+FFFD。 -/
def replacementChar : Char := '�'

/-- 続きのバイト（0x80〜0xBF）か。 -/
def isContinuation (b : UInt8) : Bool :=
  0x80 ≤ b.toNat && b.toNat ≤ 0xBF

/-- 先頭バイトから、2 バイト目の許される範囲と並びの長さ。先頭になれないバイトは `none`。 -/
def leadRange (b : Nat) : Option (Nat × Nat × Nat) :=
  if 0xC2 ≤ b ∧ b ≤ 0xDF then some (0x80, 0xBF, 2)
  else if b = 0xE0 then some (0xA0, 0xBF, 3)
  else if 0xE1 ≤ b ∧ b ≤ 0xEC then some (0x80, 0xBF, 3)
  else if b = 0xED then some (0x80, 0x9F, 3)
  else if 0xEE ≤ b ∧ b ≤ 0xEF then some (0x80, 0xBF, 3)
  else if b = 0xF0 then some (0x90, 0xBF, 4)
  else if 0xF1 ≤ b ∧ b ≤ 0xF3 then some (0x80, 0xBF, 4)
  else if b = 0xF4 then some (0x80, 0x8F, 4)
  else none

/-- 続きのバイトの下位 6 ビット。 -/
def low6 (b : UInt8) : Nat :=
  b.toNat % 64

/-- 先頭バイト `b0` と残り `rest` から、読んだ文字と消費したバイト数（1 以上）。 -/
def decodeStep (b0 : UInt8) (rest : List UInt8) : Char × Nat :=
  let b := b0.toNat
  if b < 0x80 then (Char.ofNat b, 1)
  else match leadRange b, rest with
    | some (lo, hi, len), b1 :: rest1 =>
      if lo ≤ b1.toNat ∧ b1.toNat ≤ hi then
        if len = 2 then (Char.ofNat ((b % 32) * 64 + low6 b1), 2)
        else match rest1 with
          | b2 :: rest2 =>
            if isContinuation b2 then
              if len = 3 then (Char.ofNat ((b % 16) * 4096 + low6 b1 * 64 + low6 b2), 3)
              else match rest2 with
                | b3 :: _ =>
                  if isContinuation b3 then
                    (Char.ofNat ((b % 8) * 262144 + low6 b1 * 4096 + low6 b2 * 64 + low6 b3), 4)
                  else (replacementChar, 3)
                | [] => (replacementChar, 3)
            else (replacementChar, 2)
          | [] => (replacementChar, 2)
      else (replacementChar, 1)
    | _, _ => (replacementChar, 1)

/-- 高々 `fuel` 文字まで読む。 -/
def decodeLossyAux : Nat → List UInt8 → List Char
  | 0, _ => []
  | _ + 1, [] => []
  | fuel + 1, b :: rest =>
    let (c, n) := decodeStep b rest
    c :: decodeLossyAux fuel ((b :: rest).drop n)

/-- バイト列を UTF-8 として読み、正しくない部分を U+FFFD に置き換える。
一文字ごとに 1 バイト以上を消費するので、バイト数の回数で足りる。 -/
def decodeLossy (bs : List UInt8) : String :=
  String.ofList (decodeLossyAux bs.length bs)

/-- 文字列の UTF-8 のバイト列。 -/
def encodeUtf8 (s : String) : List UInt8 :=
  s.toUTF8.toList

end SeviriScene.Text
