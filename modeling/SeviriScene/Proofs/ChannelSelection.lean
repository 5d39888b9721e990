import Mathlib
import SeviriScene.Band.ChannelSet

/-!
# 帯域の選択とチャンネルの記録の位置

ヘッダーの帯域の選択文字列は表の順に 12 文字で、`X` の位置のチャンネルがファイルにある。チャンネルの
集合はこの文字列から読み（`ChannelSet.ofSelection`）、書き戻す（`ChannelSet.toSelection`）。行の記録の
中では、集合にある VIS/IR のチャンネルの記録が表の順に並び、`ChannelSet.visirPosition` がその位置を返す。

ここでは、読み書きが表の番号の位置の文字と一致し、記録の位置が表の順を保つことを示す
（`ChannelSet.selection_agrees_with_bandTable`）。

* 表 `Channel.all` は番号の順に並ぶので、集合の要素の列も VIS/IR の記録の列も番号の順に並ぶ。
* 鍵の順に並んだ列の中の位置は、鍵がより小さい要素の数である（`idxOf_eq_countP_of_sorted`）。
  記録の位置はこれを VIS/IR の記録の列に使ったもので、数は表全体の上の `Finset` の大きさに移せる。
-/

namespace SeviriScene

/-! ## 鍵の順に並んだ列の中の位置 -/

section Sorted

variable {α : Type} [BEq α] [LawfulBEq α] (key : α → Nat) {l : List α} {a b : α}

/-- 鍵の順に並んだ列の中の位置は、鍵がより小さい要素の数である。 -/
theorem idxOf_eq_countP_of_sorted (hl : l.Pairwise (key · < key ·)) (ha : a ∈ l) :
    l.idxOf a = l.countP (fun x => key x < key a) := by
  induction l with
  | nil => cases ha
  | cons x t ih =>
    obtain ⟨hx, ht⟩ := List.pairwise_cons.mp hl
    by_cases hxa : x = a
    · subst hxa
      -- 先頭の後ろはどれも鍵が大きいので、先頭より鍵の小さい要素はない
      have h0 : t.countP (fun y => key y < key x) = 0 :=
        List.countP_eq_zero.mpr fun y hy => by simpa using Nat.le_of_lt (hx y hy)
      simp [h0]
    · have hat : a ∈ t := (List.mem_cons.mp ha).resolve_left (Ne.symm hxa)
      simp [List.idxOf_cons_ne _ (by simpa using hxa), ih ht hat, hx a hat, Nat.add_comm]

omit [BEq α] [LawfulBEq α] in
theorem nodup_of_sorted (hl : l.Pairwise (key · < key ·)) : l.Nodup :=
  hl.imp fun h he => Nat.ne_of_lt h (congrArg key he)

theorem idxOf?_eq_some_of_mem (ha : a ∈ l) : l.idxOf? a = some (l.idxOf a) := by
  rw [List.idxOf_eq_getD_idxOf?]
  obtain ⟨i, hi⟩ := Option.isSome_iff_exists.mp (List.isSome_idxOf?.mpr ha)
  simp [hi]

/-- 鍵の順に並んだ列では、位置の順と鍵の順は同じ。 -/
theorem lt_iff_of_idxOf?_eq_some (hl : l.Pairwise (key · < key ·)) {i j : Nat}
    (hi : l.idxOf? a = some i) (hj : l.idxOf? b = some j) : i < j ↔ key a < key b := by
  obtain ⟨hil, rfl, -⟩ := List.idxOf?_eq_some_iff.mp hi
  obtain ⟨hjl, rfl, -⟩ := List.idxOf?_eq_some_iff.mp hj
  have hord := List.pairwise_iff_getElem.mp hl
  constructor
  · exact hord i j hil hjl
  · intro hk
    -- 位置が同じなら要素も同じで、逆順なら鍵も逆順になる
    rcases Nat.lt_trichotomy i j with h | rfl | h
    · exact h
    · exact absurd hk (Nat.lt_irrefl _)
    · exact absurd (hord j i hjl hil h) (Nat.lt_asymm hk)

theorem exists_idxOf?_eq_some (hl : l.Nodup) {k : Nat} (hk : k < l.length) :
    ∃ a, l.idxOf? a = some k :=
  ⟨l[k], by rw [idxOf?_eq_some_of_mem (List.getElem_mem hk), hl.idxOf_getElem k hk]⟩

end Sorted

namespace Channel

instance : LawfulBEq Channel where
  eq_of_beq {a b} h := by
    cases a <;> cases b <;> first | rfl | cases h
  rfl {a} := by
    cases a <;> rfl

theorem mem_all (c : Channel) : c ∈ Channel.all := by
  cases c <;> decide

instance : Fintype Channel := Fintype.ofList all mem_all

/-- 表は番号の順に並ぶ。 -/
theorem map_index_all : all.map index = List.range 12 := rfl

theorem pairwise_index_all : all.Pairwise (·.index < ·.index) := by
  have h := List.pairwise_lt_range (n := 12)
  rwa [← map_index_all, List.pairwise_map] at h

theorem nodup_all : all.Nodup :=
  nodup_of_sorted index pairwise_index_all

theorem index_getElem_all {i : Nat} (h : i < all.length) : all[i].index = i := by
  have hi := List.getElem_of_eq map_index_all (by simpa using h)
  rwa [List.getElem_map, List.getElem_range] at hi

/-- チャンネル全体の上の数は、表の上で数えたものである。 -/
theorem card_filter_univ (p : Channel → Prop) [DecidablePred p] :
    (Finset.univ.filter p).card = all.countP (fun c => decide (p c)) := by
  have hu : (Finset.univ : Finset Channel) = all.toFinset := by
    ext c
    simp [mem_all]
  rw [hu, List.countP_eq_length_filter, ← List.toFinset_card_of_nodup (nodup_all.filter _),
    List.toFinset_filter]
  simp only [decide_eq_true_eq]

end Channel

namespace ChannelSet

@[ext] theorem ext {a b : ChannelSet} (h : ∀ c, a.mem c = b.mem c) : a = b := by
  cases a
  cases b
  congr
  exact funext h

theorem mem_toList {s : ChannelSet} {c : Channel} : c ∈ s.toList ↔ s.mem c = true := by
  simp [toList, Channel.mem_all]

theorem pairwise_toList (s : ChannelSet) : s.toList.Pairwise (·.index < ·.index) :=
  Channel.pairwise_index_all.filter _

/-! ## 選択文字列 -/

section Selection

variable {s : String} {cs : ChannelSet}

theorem ofSelection_of_length (h : s.toList.length = 12) :
    ofSelection s = .ok ⟨fun c => s.toList[c.index]? == some marker⟩ := by
  simp [ofSelection, h]

theorem ofSelection_of_length_ne (h : s.toList.length ≠ 12) :
    ofSelection s = .error (.selectionLength s s.toList.length) := by
  simp [ofSelection, h]

theorem length_of_ofSelection (h : ofSelection s = .ok cs) : s.toList.length = 12 := by
  by_contra hne
  rw [ofSelection_of_length_ne hne] at h
  cases h

theorem mem_of_ofSelection (h : ofSelection s = .ok cs) (c : Channel) :
    cs.mem c = true ↔ s.toList[c.index]? = some 'X' := by
  rw [ofSelection_of_length (length_of_ofSelection h)] at h
  cases h
  simp [marker]

/-- 読んだ集合の印を表の順に並べると、選択文字列の各文字が `X` かどうかの列になる。 -/
theorem map_mem_of_ofSelection (h : ofSelection s = .ok cs) :
    Channel.all.map cs.mem = s.toList.map (· == 'X') := by
  have hl := length_of_ofSelection h
  rw [ofSelection_of_length hl] at h
  cases h
  apply List.ext_getElem
  · simp [Channel.all, hl]
  · intro i _ hi
    have hi' : i < s.toList.length := by simpa using hi
    simp [Channel.index_getElem_all, marker, List.getElem?_eq_getElem hi']

theorem toSelection_of_ofSelection (h : ofSelection s = .ok cs) :
    cs.toSelection = String.ofList (s.toList.map fun x => if x = 'X' then 'X' else '_') := by
  have hm : (Channel.all.map fun c => if cs.mem c then marker else '_') =
      (Channel.all.map cs.mem).map fun b => if b then 'X' else '_' := by
    simp [marker]
  rw [toSelection, hm, map_mem_of_ofSelection h, List.map_map]
  congr 1
  apply List.map_congr_left
  intro x _
  by_cases hx : x = 'X' <;> simp [hx]

theorem size_of_ofSelection (h : ofSelection s = .ok cs) : cs.size = s.toList.count 'X' := by
  have hc := congrArg (List.count true) (map_mem_of_ofSelection h)
  simp only [List.count_eq_countP, List.countP_map] at hc
  rw [size, toList, ← List.countP_eq_length_filter, List.count_eq_countP]
  simpa [Function.comp_def] using hc

theorem ofSelection_toSelection (cs : ChannelSet) : ofSelection cs.toSelection = .ok cs := by
  have hl : cs.toSelection.toList.length = 12 := by simp [toSelection, Channel.all]
  rw [ofSelection_of_length hl]
  congr 1
  ext c
  have hc : Channel.all[c.index]? = some c := Channel.ofIndex?_index c
  cases hm : cs.mem c <;> simp [toSelection, hc, hm, marker]

end Selection

/-! ## VIS/IR の記録の位置 -/

theorem mem_visirChannels {cs : ChannelSet} {c : Channel} :
    c ∈ cs.visirChannels ↔ cs.mem c = true ∧ c.isHrv = false := by
  simp [visirChannels, mem_toList]

theorem pairwise_visirChannels (cs : ChannelSet) : cs.visirChannels.Pairwise (·.index < ·.index) :=
  (pairwise_toList cs).filter _

theorem visirPosition_eq_idxOf? (cs : ChannelSet) (c : Channel) :
    cs.visirPosition c = cs.visirChannels.idxOf? c := by
  unfold visirPosition
  cases hc : c.isHrv
  · rfl
  · exact (List.idxOf?_eq_none_iff.mpr (by simp [mem_visirChannels, hc])).symm

theorem countP_visirChannels (cs : ChannelSet) (ch : Channel) :
    cs.visirChannels.countP (fun c => c.index < ch.index) =
      (Finset.univ.filter fun c => cs.mem c = true ∧ c.isHrv = false ∧ c.index < ch.index).card := by
  rw [Channel.card_filter_univ, visirChannels, toList, List.countP_filter, List.countP_filter]
  apply List.countP_congr
  intro c _
  cases cs.mem c <;> cases c.isHrv <;> simp

/-- VIS/IR のチャンネルの記録の位置は、集合にある VIS/IR のチャンネルのうち表の番号がそれより
小さいものの数である。 -/
theorem visirPosition_eq_some_iff {cs : ChannelSet} {ch : Channel} {k : Nat} :
    cs.visirPosition ch = some k ↔ cs.mem ch = true ∧ ch.isHrv = false ∧
      k = (Finset.univ.filter fun c => cs.mem c = true ∧ c.isHrv = false ∧ c.index < ch.index).card := by
  have hpos {ch} (hm : ch ∈ cs.visirChannels) : cs.visirPosition ch = some
      (Finset.univ.filter fun c => cs.mem c = true ∧ c.isHrv = false ∧ c.index < ch.index).card := by
    rw [visirPosition_eq_idxOf?, idxOf?_eq_some_of_mem hm,
      idxOf_eq_countP_of_sorted Channel.index (pairwise_visirChannels cs) hm, countP_visirChannels]
  constructor
  · intro h
    have hm : ch ∈ cs.visirChannels := by
      rw [visirPosition_eq_idxOf?] at h
      exact List.isSome_idxOf?.mp (by simp [h])
    obtain ⟨h1, h2⟩ := mem_visirChannels.mp hm
    exact ⟨h1, h2, Option.some.inj (h.symm.trans (hpos hm))⟩
  · rintro ⟨h1, h2, rfl⟩
    exact hpos (mem_visirChannels.mpr ⟨h1, h2⟩)

theorem visirPosition_lt_length {cs : ChannelSet} {ch : Channel} {k : Nat}
    (h : cs.visirPosition ch = some k) : k < cs.visirChannels.length := by
  rw [visirPosition_eq_idxOf?] at h
  exact (List.idxOf?_eq_some_iff.mp h).1

theorem exists_visirPosition_eq {cs : ChannelSet} {k : Nat} (hk : k < cs.visirChannels.length) :
    ∃ ch, cs.visirPosition ch = some k := by
  simp only [visirPosition_eq_idxOf?]
  exact exists_idxOf?_eq_some (nodup_of_sorted Channel.index (pairwise_visirChannels cs)) hk

theorem visirPosition_lt_iff {cs : ChannelSet} {a b : Channel} {i j : Nat}
    (ha : cs.visirPosition a = some i) (hb : cs.visirPosition b = some j) : i < j ↔ a.index < b.index := by
  rw [visirPosition_eq_idxOf?] at ha hb
  exact lt_iff_of_idxOf?_eq_some Channel.index (pairwise_visirChannels cs) ha hb

/-- 帯域の選択文字列は Unicode のスカラー値で 12 文字のときに限って読め、ほかは形式の誤りになる。
読んだ集合では、チャンネルがあるのは表の番号の位置の文字が `X` のときに限り、選択文字列は `X` 以外を
`_` にしたもの、要素の数は `X` の数である。どの集合も、要素を表の番号の順にちょうど一度ずつ並べ、
選択文字列から読み戻せる。VIS/IR の記録の位置は、番号がより小さい、集合にある VIS/IR のチャンネルの
数で、集合にある VIS/IR のチャンネルから `0` 以上記録の数未満への順序を保つ全単射である。 -/
theorem selection_agrees_with_bandTable :
    (∀ s : String, (∃ cs, ofSelection s = .ok cs) ↔ s.toList.length = 12) ∧
    (∀ s : String, s.toList.length ≠ 12 → ∃ e, ofSelection s = .error e ∧ e.kind = .invalidFormat) ∧
    (∀ (s : String) (cs : ChannelSet), ofSelection s = .ok cs →
      (∀ ch, cs.mem ch = true ↔ s.toList[ch.index]? = some 'X') ∧
      cs.toSelection = String.ofList (s.toList.map fun x => if x = 'X' then 'X' else '_') ∧
      cs.size = s.toList.count 'X') ∧
    (∀ cs : ChannelSet,
      (∀ ch, ch ∈ cs.toList ↔ cs.mem ch = true) ∧ cs.toList.Pairwise (·.index < ·.index) ∧
      ofSelection cs.toSelection = .ok cs) ∧
    (∀ (cs : ChannelSet) (ch : Channel) (k : Nat), cs.visirPosition ch = some k ↔
      cs.mem ch = true ∧ ch.isHrv = false ∧
      k = (Finset.univ.filter fun c => cs.mem c = true ∧ c.isHrv = false ∧ c.index < ch.index).card) ∧
    (∀ cs : ChannelSet,
      (∀ ch k, cs.visirPosition ch = some k → k < cs.visirChannels.length) ∧
      (∀ k, k < cs.visirChannels.length → ∃ ch, cs.visirPosition ch = some k) ∧
      (∀ a b i j, cs.visirPosition a = some i → cs.visirPosition b = some j →
        (i < j ↔ a.index < b.index))) := by
  refine ⟨fun s => ⟨fun ⟨_, h⟩ => length_of_ofSelection h, fun h => ⟨_, ofSelection_of_length h⟩⟩,
    fun s h => ⟨_, ofSelection_of_length_ne h, rfl⟩,
    fun s cs h => ⟨mem_of_ofSelection h, toSelection_of_ofSelection h, size_of_ofSelection h⟩,
    fun cs => ⟨fun _ => mem_toList, pairwise_toList cs, ofSelection_toSelection cs⟩,
    fun _ _ _ => visirPosition_eq_some_iff,
    fun _ => ⟨fun _ _ => visirPosition_lt_length, fun _ => exists_visirPosition_eq,
      fun _ _ _ _ => visirPosition_lt_iff⟩⟩

/-- VIS006、IR_016、IR_108 だけの VIS/IR の記録は 0、1、2 番目で、ない VIS008 と HRV は位置を持たない。 -/
example : (ofSelection "X_X_____X__X").toOption.map
      (fun cs => [Channel.vis006, .ir016, .ir108, .vis008, .hrv].map cs.visirPosition) =
    some [some 0, some 1, some 2, none, none] := by
  decide

end ChannelSet

end SeviriScene
