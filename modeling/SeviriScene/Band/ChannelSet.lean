import SeviriScene.Band.Channel
import SeviriScene.Fault

/-!
# ファイルにあるチャンネルの集合

ヘッダーの帯域の選択文字列は 12 文字で、表の順の `k` 文字目が `X` ならチャンネル `k` がある。
行の中の VIS/IR の記録は、ある VIS/IR のチャンネルを表の順に並べたもので、`visirPosition` は
チャンネルがその何番目の記録かを返す。
-/

namespace SeviriScene

/-- チャンネルの集合。 -/
structure ChannelSet where
  mem : Channel → Bool

namespace ChannelSet

/-- 選択の印。 -/
def marker : Char := 'X'

/-- 選択文字列から集合を作る。長さは Unicode のスカラー値で数え、12 でなければ形式の誤り。 -/
def ofSelection (s : String) : Outcome ChannelSet :=
  let cs := s.toList
  if cs.length = 12 then .ok ⟨fun c => cs[c.index]? == some marker⟩
  else .error (.selectionLength s cs.length)

/-- 並べたチャンネルの集合。重なりは一つと数える。 -/
def ofChannels (chs : List Channel) : ChannelSet :=
  ⟨fun c => chs.contains c⟩

/-- 表の順に並べた集合の要素。 -/
def toList (s : ChannelSet) : List Channel :=
  Channel.all.filter s.mem

/-- 選択文字列。ある位置は `X`、ない位置は `_`。 -/
def toSelection (s : ChannelSet) : String :=
  String.ofList (Channel.all.map fun c => if s.mem c then marker else '_')

/-- 要素の数。 -/
def size (s : ChannelSet) : Nat :=
  s.toList.length

/-- HRV を含むか。 -/
def hasHrv (s : ChannelSet) : Bool :=
  s.mem .hrv

/-- ある VIS/IR のチャンネルを表の順に並べたもの。 -/
def visirChannels (s : ChannelSet) : List Channel :=
  s.toList.filter fun c => !c.isHrv

/-- VIS/IR のチャンネルが行の中の何番目の記録か。HRV とないチャンネルは `none`。 -/
def visirPosition (s : ChannelSet) (c : Channel) : Option Nat :=
  if c.isHrv then none else s.visirChannels.idxOf? c

end ChannelSet

end SeviriScene
