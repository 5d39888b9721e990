import SeviriScene.Decimal.Shortest

/-!
# 数の書き方

最短の十進表記（`Decimal.Shortest`）を文字列にする。どの桁位置を位取りで書き、どこから指数で
書くか、整数値に `.0` をつけるか、NaN と無限大を何と書くかを `Style` の値が決める。

* `Style.plain`: 投影の文字列に使う書き方。指数を使わず、`.0` をつけない。
* `Style.json`: 応答に使う書き方。`1e-5 ≤ |x| < 1e16` は位取りで `.0` をつけ、その外は `1.5e+16` の形。
-/

namespace SeviriScene.Decimal

/-- 数の書き方の決めごと。 -/
structure Style where
  /-- 位取りで書く最小の桁位置（`10^p` の `p`）。 -/
  positionalFrom : Int
  /-- 位取りで書く桁位置の上限（これ未満）。 -/
  positionalBelow : Int
  /-- 整数値に `.0` をつけるか。 -/
  pointZero : Bool
  /-- 正の指数に `+` をつけるか。 -/
  plusExponent : Bool
  nanText : String
  infText : String

/-- 投影の文字列の書き方。どの大きさでも位取りで書き、`.0` はつけない。 -/
def Style.plain : Style :=
  ⟨-100000, 100000, false, false, "NaN", "inf"⟩

/-- 応答の数の書き方。 -/
def Style.json : Style :=
  ⟨-5, 16, true, true, "NaN", "inf"⟩

/-- `n` 個の 0。 -/
def zerosText (n : Nat) : String :=
  String.ofList (List.replicate n '0')

/-- 桁の列 `ds` と指数 `k`（値は `ds * 10^k`）の位取り表記。 -/
def positional (style : Style) (ds : String) (k : Int) : String :=
  if k ≥ 0 then
    ds ++ zerosText k.toNat ++ (if style.pointZero then ".0" else "")
  else
    let frac := (-k).toNat
    if ds.length > frac then
      let intPart := String.ofList (ds.toList.take (ds.length - frac))
      let fracPart := String.ofList (ds.toList.drop (ds.length - frac))
      intPart ++ "." ++ fracPart
    else
      "0." ++ zerosText (frac - ds.length) ++ ds

/-- 桁の列 `ds` と指数 `k` の指数表記 `d.ddde±x`。 -/
def exponential (style : Style) (ds : String) (k : Int) : String :=
  let p := k + ds.length - 1
  let head := String.ofList (ds.toList.take 1)
  let tail := String.ofList (ds.toList.drop 1)
  let mant := if tail.isEmpty then head else head ++ "." ++ tail
  let expText :=
    if p < 0 then "-" ++ toString (-p).toNat
    else (if style.plusExponent then "+" else "") ++ toString p.toNat
  mant ++ "e" ++ expText

/-- 最短の十進表記を書く。`0` の桁位置は `0` とみなす。 -/
def Scientific.render (style : Style) (s : Scientific) : String :=
  let ds := String.ofList (Nat.toDigits 10 s.digits)
  let p := if s.digits = 0 then 0 else s.exponent + ds.length - 1
  if style.positionalFrom ≤ p ∧ p < style.positionalBelow then
    positional style ds (if s.digits = 0 then 0 else s.exponent)
  else exponential style ds s.exponent

/-- 倍精度の値を書く。負の 0 にも `-` がつく。 -/
def Binary.render (style : Style) : Binary → String
  | .nan => style.nanText
  | .infinite negative => (if negative then "-" else "") ++ style.infText
  | .finite negative m e =>
    (if negative then "-" else "") ++ (shortest m e).render style

/-- 倍精度の値の文字列。 -/
def render (style : Style) (x : Float) : String :=
  (Binary.ofFloat x).render style

end SeviriScene.Decimal
