/-!
# 行の中の記録

データ部の一行は、ある VIS/IR のチャンネルごとに一つの記録と、HRV があればその 3 本の副走査線の
記録からなる。`visir k` はある VIS/IR のチャンネルのうち `k` 番目、`hrv k` は HRV の `k` 本目を指す。
-/

namespace SeviriScene

/-- 行の中の一つの記録の指し方。 -/
inductive SubRecord where
  | visir (slot : Nat)
  | hrv (subline : Nat)
  deriving Repr, DecidableEq

/-- 記録の指し方の表記 `Visir(k)` / `Hrv(k)`。 -/
def SubRecord.text : SubRecord → String
  | .visir k => "Visir(" ++ toString k ++ ")"
  | .hrv k => "Hrv(" ++ toString k ++ ")"

end SeviriScene
