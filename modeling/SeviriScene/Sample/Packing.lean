import SeviriScene.Bytes.BigEndian
import SeviriScene.Fault

/-!
# 10 ビットの標本の詰め方

画素の計数値は 10 ビットで、4 標本を 40 ビットの語として 5 バイトに、上位のビットから詰める。
読むときは、組の各標本を隣り合う 2 バイトから 16 ビットのシフトとマスクで組み立てる
（`unpackGroup`）。5 バイトの組を大きい方から読んだ 40 ビットの値を `w` とすると、それは
`w / 2^30`、`w / 2^20 % 2^10`、`w / 2^10 % 2^10`、`w % 2^10` である（`splitWord`）。

* `unpack`: 長さが 5 の倍数のバイト列を、その 4/5 の個数の標本に開く。
* `pack`: 個数が 4 の倍数の標本を、下位 10 ビットだけ残して詰める。
-/

namespace SeviriScene.Sample

/-- 40 ビットの語から 4 つの 10 ビットの標本を上位から取り出す。 -/
def splitWord (w : Nat) : List UInt16 :=
  [(w / Nat.pow 2 30 % 1024).toUInt16, (w / Nat.pow 2 20 % 1024).toUInt16,
   (w / Nat.pow 2 10 % 1024).toUInt16, (w % 1024).toUInt16]

/-- 4 つの標本の下位 10 ビットを上位から並べた 40 ビットの語。 -/
def joinWord (a b c d : UInt16) : Nat :=
  ((a.toNat % 1024 * 1024 + b.toNat % 1024) * 1024 + c.toNat % 1024) * 1024 + d.toNat % 1024

/-- 5 バイトの組を 4 つの標本に開く。各標本は、上のバイトの残りのビットを上げ、
下のバイトの先頭のビットを下ろして合わせる。 -/
def unpackGroup (b0 b1 b2 b3 b4 : UInt8) : List UInt16 :=
  [(b0.toUInt16 <<< 2) ||| (b1.toUInt16 >>> 6),
   ((b1.toUInt16 &&& 0x3f) <<< 4) ||| (b2.toUInt16 >>> 4),
   ((b2.toUInt16 &&& 0x0f) <<< 6) ||| (b3.toUInt16 >>> 2),
   ((b3.toUInt16 &&& 0x03) <<< 8) ||| b4.toUInt16]

/-- 5 バイトずつ組にして開く。5 バイトに満たない残りは捨てる。 -/
def unpackGroups : List UInt8 → List UInt16
  | b0 :: b1 :: b2 :: b3 :: b4 :: rest => unpackGroup b0 b1 b2 b3 b4 ++ unpackGroups rest
  | _ => []

/-- 4 標本ずつ組にして詰める。4 標本に満たない残りは捨てる。 -/
def packGroups : List UInt16 → List UInt8
  | a :: b :: c :: d :: rest => Bytes.ofNat 5 (joinWord a b c d) ++ packGroups rest
  | _ => []

/-- 詰めた列を開く。長さが 5 の倍数でなければ形式の誤り。 -/
def unpack (bytes : List UInt8) : Outcome (List UInt16) :=
  if bytes.length % 5 = 0 then .ok (unpackGroups bytes)
  else .error (.raggedPacking bytes.length)

/-- 長さ `slots` の受け皿に開く。長さの確かめが先で、受け皿の長さが合わなければ処理の誤り。 -/
def unpackInto (bytes : List UInt8) (slots : Nat) : Outcome (List UInt16) :=
  if bytes.length % 5 ≠ 0 then .error (.raggedPacking bytes.length)
  else if slots ≠ bytes.length / 5 * 4 then
    .error (.sampleCount slots bytes.length (bytes.length / 5 * 4))
  else .ok (unpackGroups bytes)

/-- 標本を詰める。個数が 4 の倍数でなければ処理の誤り。 -/
def pack (samples : List UInt16) : Outcome (List UInt8) :=
  if samples.length % 4 = 0 then .ok (packGroups samples)
  else .error (.raggedSamples samples.length)

end SeviriScene.Sample
