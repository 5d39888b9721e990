/-!
# 最短の十進表記

有限の倍精度の値 `m * 2^e` に対し、読み戻すとその値に丸められる十進数のうち、有効数字が最も少なく、
その中で最も近いものを求める。丸めは最近接偶数丸めなので、値に丸められる実数の区間は両隣との中点で
区切られ、端は `m` が偶数のときに限り含まれる。

有効数字 `n = 1, 2, …, 17` の格子それぞれで、値をはさむ二つの格子点だけを調べる。区間に格子点が
あれば、そのどちらかも区間にある。比較はすべて自然数の厳密な演算で行う。
-/

namespace SeviriScene.Decimal

/-- 符号を除いた十進の有限値 `digits * 10^exponent`。 -/
structure Scientific where
  digits : Nat
  exponent : Int
  deriving Repr, DecidableEq

/-- 倍精度の値を分けたもの。有限の値は符号と `mantissa * 2^exponent` で表す。 -/
inductive Binary where
  | finite (negative : Bool) (mantissa : Nat) (exponent : Int)
  | infinite (negative : Bool)
  | nan
  deriving Repr, DecidableEq

/-- ビット列から符号、仮数、指数を取り出す。非正規数は指数 `-1074` で仮数に暗黙の 1 を足さない。 -/
def Binary.ofBits (bits : UInt64) : Binary :=
  let n := bits.toNat
  let negative := n / Nat.pow 2 63 % 2 == 1
  let biased : Nat := n / Nat.pow 2 52 % Nat.pow 2 11
  let fraction := n % Nat.pow 2 52
  if biased = Nat.pow 2 11 - 1 then
    if fraction = 0 then .infinite negative else .nan
  else if biased = 0 then .finite negative fraction (-1074)
  else .finite negative (fraction + Nat.pow 2 52) ((biased : Int) - 1075)

/-- 倍精度の値を分ける。 -/
def Binary.ofFloat (x : Float) : Binary :=
  Binary.ofBits x.toBits

/-- `a * 10^i` と `b * 2^j` を比べる。両辺に同じ正の数を掛けて自然数どうしの比較にする。 -/
def compareScaled (a : Nat) (i : Int) (b : Nat) (j : Int) : Ordering :=
  compare (a * Nat.pow 10 i.toNat * Nat.pow 2 (-j).toNat) (b * Nat.pow 2 j.toNat * Nat.pow 10 (-i).toNat)

/-- `m * 2^e / 10^k` の切り捨てと、割り切れるかどうか。 -/
def floorScaled (m : Nat) (e k : Int) : Nat × Bool :=
  let num := m * Nat.pow 2 e.toNat * Nat.pow 10 (-k).toNat
  let den := Nat.pow 2 (-e).toNat * Nat.pow 10 k.toNat
  (num / den, num % den == 0)

/-- `10^p ≤ m * 2^e` を満たす最大の `p` の近くから始め、上下に `fuel` 回まで直す。 -/
def fixExponent (m : Nat) (e : Int) : Nat → Int → Int
  | 0, p => p
  | fuel + 1, p =>
    if compareScaled 1 p m e == .gt then fixExponent m e fuel (p - 1)
    else if compareScaled 1 (p + 1) m e != .gt then fixExponent m e fuel (p + 1)
    else p

/-- 正の値 `m * 2^e` の十進の桁位置、すなわち `10^p ≤ m * 2^e < 10^(p+1)` となる `p`。
`log10 2` の近似から始めるので、直しは数回で済む。 -/
def decimalExponent (m : Nat) (e : Int) : Int :=
  let guess : Int := (((Nat.log2 m : Nat) : Int) + e) * 30103 / 100000
  fixExponent m e 8 guess

/-- 値に丸められる区間。`m * 2^e` を 4 倍の尺度で見た下端と上端の分子（尺度は `2^(e-2)`）。
仮数が 2 の冪で指数が最小でないときは、下の隣との間隔が半分になる。 -/
def roundingInterval (m : Nat) (e : Int) : Nat × Nat :=
  let lowerGap := if m = Nat.pow 2 52 ∧ e > -1074 then 1 else 2
  (4 * m - lowerGap, 4 * m + 2)

/-- 格子点 `d * 10^k` が区間に入るか。端は `inclusive` のときだけ入る。 -/
def inInterval (m : Nat) (e : Int) (inclusive : Bool) (d : Nat) (k : Int) : Bool :=
  let (lo, hi) := roundingInterval m e
  let aboveLo := compareScaled d k lo (e - 2)
  let belowHi := compareScaled d k hi (e - 2)
  (aboveLo == .gt || (inclusive && aboveLo == .eq)) &&
    (belowHi == .lt || (inclusive && belowHi == .eq))

/-- 末尾の 0 を指数に移す。 -/
def Scientific.normalize (s : Scientific) : Scientific :=
  if h : s.digits ≠ 0 ∧ s.digits % 10 = 0 then
    Scientific.normalize ⟨s.digits / 10, s.exponent + 1⟩
  else s
termination_by s.digits
decreasing_by omega

/-- 有効数字 `n` の格子で値をはさむ二点のうち、区間に入る最も近いもの。
二点が等距離なら大きい方をとる。 -/
def onGrid (m : Nat) (e : Int) (p : Int) (n : Nat) : Option Scientific :=
  let k := p - n + 1
  let (d, exact) := floorScaled m e k
  let inclusive := m % 2 == 0
  if exact then some ⟨d, k⟩
  else
    let lowOk := inInterval m e inclusive d k
    let highOk := inInterval m e inclusive (d + 1) k
    if lowOk && highOk then
      -- 2 倍の値と中点 (2d+1) * 10^k を比べる
      if compareScaled (2 * d + 1) k (2 * m) e == .gt then some ⟨d, k⟩ else some ⟨d + 1, k⟩
    else if lowOk then some ⟨d, k⟩
    else if highOk then some ⟨d + 1, k⟩
    else none

/-- 有効数字 `n` から `n + fuel - 1` までの格子を順に試す。 -/
def searchGrids (m : Nat) (e : Int) (p : Int) : Nat → Nat → Option Scientific
  | 0, _ => none
  | fuel + 1, n =>
    match onGrid m e p n with
    | some s => some s
    | none => searchGrids m e p fuel (n + 1)

/-- 正の有限値 `m * 2^e` の最短の十進表記。17 桁の格子には必ず区間の点があるので、
`none` は起こらず、そのときは 17 桁の切り捨てを返す。 -/
def shortest (m : Nat) (e : Int) : Scientific :=
  if m = 0 then ⟨0, 0⟩
  else
    let p := decimalExponent m e
    match searchGrids m e p 17 1 with
    | some s => s.normalize
    | none => (⟨(floorScaled m e (p - 16)).1, p - 16⟩ : Scientific).normalize

/-- 桁の列の長さ。`0` は 1 桁。 -/
def Scientific.length (s : Scientific) : Nat :=
  (Nat.toDigits 10 s.digits).length

end SeviriScene.Decimal
