import SeviriScene.File.Layout
import SeviriScene.Sample.Packing

/-!
# データ部の書き出し

配置に従ってデータ部を書く。行を外側に、行の中では VIS/IR の記録を表の順に、そのあと HRV の
3 本の副走査線を書く。各記録は前置き部と、標本を詰めた本体からなる。本体は標本を 4 の倍数まで
0 で埋めて詰め、配置の本体の長さに切るか 0 で埋める。読み取り（`DataBlock`）はこの並びの逆である。
-/

namespace SeviriScene

/-- 行の中の記録を、書く順に並べたもの。 -/
def LineLayout.subRecords (l : LineLayout) : List SubRecord :=
  (List.range l.visirChannels).map .visir ++
    (if l.hasHrv then (List.range hrvSublines).map .hrv else [])

/-- 記録の本体の長さ。 -/
def LineLayout.payloadWidth (l : LineLayout) : SubRecord → Nat
  | .visir _ => l.visirPackedWidth
  | .hrv _ => l.hrvPackedWidth

/-- 標本を 4 の倍数まで 0 で埋めて詰め、`width` バイトに切るか 0 で埋める。 -/
def packRow (samples : List UInt16) (width : Nat) : List UInt8 :=
  let padded := samples ++ List.replicate ((4 - samples.length % 4) % 4) 0
  Bytes.padTo ((Sample.packGroups padded).take width) width

/-- データ部を書く。`header i s` と `row i s` は行 `i` の記録 `s` の前置き部と標本。 -/
def encodeDataBlock (l : LineLayout) (header : Nat → SubRecord → LineHeader)
    (row : Nat → SubRecord → List UInt16) : ByteArray :=
  (List.range l.numberOfLines).foldl
    (fun acc i =>
      l.subRecords.foldl
        (fun acc s => acc ++ ⟨((header i s).encode ++ packRow (row i s) (l.payloadWidth s)).toArray⟩)
        acc)
    ByteArray.empty

end SeviriScene
