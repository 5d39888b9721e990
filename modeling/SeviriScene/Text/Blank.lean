/-!
# 空白

Unicode の White_Space の性質を持つ文字（25 文字）と、両端からそれらを取り除く操作。
ヘッダーの文字の記録は、両端の空白と NUL を取り除いて読む。
-/

namespace SeviriScene.Text

/-- Unicode の White_Space の性質を持つ文字か。 -/
def isBlank (c : Char) : Bool :=
  let n := c.toNat
  (0x09 ≤ n && n ≤ 0x0D) || n == 0x20 || n == 0x85 || n == 0xA0 || n == 0x1680 ||
    (0x2000 ≤ n && n ≤ 0x200A) || n == 0x2028 || n == 0x2029 || n == 0x202F ||
    n == 0x205F || n == 0x3000

/-- 両端から `p` を満たす文字を取り除く。 -/
def trimBy (p : Char → Bool) (s : String) : String :=
  String.ofList (((s.toList.dropWhile p).reverse.dropWhile p).reverse)

/-- 両端の空白を取り除く。 -/
def trimBlank (s : String) : String :=
  trimBy isBlank s

end SeviriScene.Text
