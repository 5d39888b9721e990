/-!
# 名前で引く記録の表

名前から値を引く表を、名前の順に並べた対の列で表す。同じ名前を入れると後の値が前の値に
置き換わり、列はいつも名前の昇順で重なりがない。名前の順は Unicode のスカラー値の辞書式順。
-/

namespace SeviriScene.Text

/-- 名前の順に並べた、名前と値の対の列。 -/
abbrev RecordMap := List (String × String)

namespace RecordMap

/-- 名前 `k` の値を `v` にする。すでにあれば置き換える。 -/
def insert : RecordMap → String → String → RecordMap
  | [], k, v => [(k, v)]
  | (k', v') :: rest, k, v =>
    if k < k' then (k, v) :: (k', v') :: rest
    else if k = k' then (k, v) :: rest
    else (k', v') :: insert rest k v

/-- 名前 `k` の値。 -/
def get? (m : RecordMap) (k : String) : Option String :=
  m.lookup k

/-- 対を順に入れた表。 -/
def ofPairs (ps : List (String × String)) : RecordMap :=
  ps.foldl (fun m (k, v) => insert m k v) []

end RecordMap

end SeviriScene.Text
