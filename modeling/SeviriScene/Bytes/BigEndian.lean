/-!
# 大きい方から並べたバイト列

固定長の符号なし整数を、上位のバイトから順に並べる。ファイルの数値はすべてこの順で書かれる。
読み出し `toNat` は書き出し `ofNat` の逆であり（`toNat_ofNat`）、書き出しの長さは幅に等しい
（`length_ofNat`）。符号つきの整数は 2 の補数で、浮動小数点数はビット列（`Binary32`、`Binary64`）で同じ並びに載せる。
浮動小数点数の欄はビット列のまま持つので、読み書きで NaN の符号や仮数も変わらない。
冪は `Nat.pow` と書く。どの環境で読んでも同じ関数を指すようにするためである。
-/

namespace SeviriScene

/-- IEEE 754 の単精度の値を、ビット列のまま持つ。NaN の符号と仮数も失わない。 -/
structure Binary32 where
  bits : UInt32
  deriving DecidableEq, Repr

/-- IEEE 754 の倍精度の値を、ビット列のまま持つ。 -/
structure Binary64 where
  bits : UInt64
  deriving DecidableEq, Repr

/-- ビット列が表す単精度の値。 -/
def Binary32.toFloat32 (x : Binary32) : Float32 :=
  Float32.ofBits x.bits

/-- 単精度の値のビット列。 -/
def Binary32.ofFloat32 (x : Float32) : Binary32 :=
  ⟨x.toBits⟩

/-- ビット列が表す倍精度の値。 -/
def Binary64.toFloat (x : Binary64) : Float :=
  Float.ofBits x.bits

/-- 倍精度の値のビット列。 -/
def Binary64.ofFloat (x : Float) : Binary64 :=
  ⟨x.toBits⟩

namespace Bytes

/-- 自然数 `n` の下位 `width` バイトを、上位のバイトから並べる。 -/
def ofNat : Nat → Nat → List UInt8
  | 0, _ => []
  | width + 1, n => (n / Nat.pow 256 width % 256).toUInt8 :: ofNat width n

/-- バイト列を、先頭を最上位とする自然数として読む。 -/
def toNat (bs : List UInt8) : Nat :=
  bs.foldl (fun acc b => acc * 256 + b.toNat) 0

/-- `off` から `len` バイトの窓。足りない分は切り詰められる。 -/
def window (bs : List UInt8) (off len : Nat) : List UInt8 :=
  (bs.drop off).take len

/-- `off` から `width` バイトを符号なしの整数として読む。 -/
def natAt (bs : List UInt8) (off width : Nat) : Nat :=
  toNat (window bs off width)

/-- `off` から `width` バイトを 2 の補数の整数として読む。 -/
def intAt (bs : List UInt8) (off width : Nat) : Int :=
  let n := natAt bs off width
  if n < Nat.pow 2 (8 * width - 1) then n else (n : Int) - (Nat.pow 2 (8 * width) : Nat)

/-- 整数 `i` を `width` バイトの 2 の補数で書く。範囲の外は下位のバイトだけが残る。 -/
def ofInt (width : Nat) (i : Int) : List UInt8 :=
  ofNat width (i % ((Nat.pow 2 (8 * width) : Nat) : Int)).toNat

/-- `off` から 4 バイトを単精度の浮動小数点数のビット列として読む。 -/
def binary32At (bs : List UInt8) (off : Nat) : Binary32 :=
  ⟨(natAt bs off 4).toUInt32⟩

/-- `off` から 8 バイトを倍精度の浮動小数点数のビット列として読む。 -/
def binary64At (bs : List UInt8) (off : Nat) : Binary64 :=
  ⟨(natAt bs off 8).toUInt64⟩

/-- 単精度の浮動小数点数のビット列。 -/
def ofBinary32 (x : Binary32) : List UInt8 :=
  ofNat 4 x.bits.toNat

/-- 倍精度の浮動小数点数のビット列。 -/
def ofBinary64 (x : Binary64) : List UInt8 :=
  ofNat 8 x.bits.toNat

/-- 列を長さ `n` まで 0 で埋める。すでに長い列はそのまま。 -/
def padTo (bs : List UInt8) (n : Nat) : List UInt8 :=
  bs ++ List.replicate (n - bs.length) 0

/-- `n` 個の 0 バイトを、倍々に継ぎ足して作る。大きな空白の領域を速く作るためのもの。 -/
def zeros (n : Nat) : ByteArray :=
  if n = 0 then ByteArray.empty
  else
    let half := zeros (n / 2)
    let twice := half ++ half
    if n % 2 = 0 then twice else twice.push 0
termination_by n
decreasing_by omega

/-- 書き出した列を左から畳み込むと、初期値の後ろに下位 `width` バイトが並ぶ。 -/
theorem foldl_ofNat (width n a : Nat) :
    (ofNat width n).foldl (fun acc b => acc * 256 + b.toNat) a
      = a * Nat.pow 256 width + n % Nat.pow 256 width := by
  induction width generalizing a with
  | zero =>
    have h1 : Nat.pow 256 0 = 1 := rfl
    rw [h1, Nat.mod_one, Nat.mul_one, Nat.add_zero]
    rfl
  | succ w ih =>
    have hb : (n / Nat.pow 256 w % 256).toUInt8.toNat = n / Nat.pow 256 w % 256 :=
      Nat.mod_eq_of_lt (Nat.lt_of_lt_of_le (Nat.mod_lt _ (by decide)) (by decide))
    have hp : Nat.pow 256 (w + 1) = Nat.pow 256 w * 256 := rfl
    rw [ofNat, List.foldl_cons, hb, ih, hp, Nat.mod_mul]
    generalize Nat.pow 256 w = p
    generalize n / p % 256 = r
    rw [Nat.add_mul, Nat.mul_assoc, Nat.mul_comm 256 p, Nat.mul_comm r p]
    omega

/-- 読み出しは書き出しの逆：下位 `width` バイトの値が戻る。 -/
theorem toNat_ofNat (width n : Nat) : toNat (ofNat width n) = n % Nat.pow 256 width := by
  rw [toNat, foldl_ofNat, Nat.zero_mul, Nat.zero_add]

theorem length_ofNat (width n : Nat) : (ofNat width n).length = width := by
  induction width with
  | zero => rfl
  | succ w ih => simp [ofNat, ih]

theorem length_padTo (bs : List UInt8) (n : Nat) (h : bs.length ≤ n) :
    (padTo bs n).length = n := by
  simp [padTo]; omega

end Bytes

end SeviriScene
