import SeviriScene.Proofs.OpenFile

/-!
# 配置の決め方

`resolve` は配置を選択矩形とチャンネルの集合から決める。ヘッダーの数のうち使うのは、VIS/IR の
行数と、HRV があるときのその列数と行数だけで、ヘッダーの VIS/IR の列数は使わない。

配置が決まるのは、矩形の列数と行数が 1 以上で、ヘッダーの数が負でなく、全幅のファイルの HRV の
列数が偶数で（`Resolvable`）、矩形から作った配置（`ofRectangle`）の大きさの計算が 64 ビットに
収まるときに限り、そのとき決まる配置は `ofRectangle` である。決まらないときの誤りはどれも形式の
誤りで、結果は配置を決める欄（`AgreeOnLayout`）だけで決まる（`resolve_eq_ok_iff_ofRectangle`）。
-/

namespace SeviriScene

open Outcome

namespace FileHeader

/-- 選択矩形の列数 `W - E + 1`。 -/
def selectedColumns (h : FileHeader) : Int :=
  h.westColumnSelected.toInt - h.eastColumnSelected.toInt + 1

/-- 選択矩形の行数 `N - S + 1`。 -/
def selectedLines (h : FileHeader) : Int :=
  h.northLineSelected.toInt - h.southLineSelected.toInt + 1

end FileHeader

namespace LineLayout

open FileHeader

/-- 配置が決まるためのヘッダーの欄の条件。HRV の欄は HRV があるときだけ確かめる。 -/
structure Resolvable (h : FileHeader) (cs : ChannelSet) : Prop where
  columns : 1 ≤ h.selectedColumns
  rows : 1 ≤ h.selectedLines
  lines : 0 ≤ h.numberLinesVisir.toInt
  hrvColumns : cs.hasHrv → 0 ≤ h.numberColumnsHrv.toInt
  hrvEven : cs.hasHrv → h.selectedColumns < 3712 ∨ h.numberColumnsHrv.toInt % 2 = 0
  hrvLines : cs.hasHrv → 0 ≤ h.numberLinesHrv.toInt

/-- 選択矩形から作る配置。列数は 4 の倍数に切り上げ、全幅のファイルでは HRV の列数を半分にする。 -/
def ofRectangle (h : FileHeader) (cs : ChannelSet) : LineLayout where
  visirChannels := cs.visirChannels.length
  visirColumns := paddedColumns h.selectedColumns.toNat
  numberOfLines := h.numberLinesVisir.toInt.toNat
  hasHrv := cs.hasHrv
  hrvColumns :=
    if cs.hasHrv then
      if h.selectedColumns < 3712 then h.numberColumnsHrv.toInt.toNat else h.numberColumnsHrv.toInt.toNat / 2
    else 0
  hrvNumberOfLines := if cs.hasHrv then h.numberLinesHrv.toInt.toNat else 0
  isFullDisk := decide (3712 ≤ h.selectedLines ∧ 3712 ≤ h.selectedColumns)

/-- 二つのヘッダーが配置を決める欄で一致する：選択矩形の四辺、VIS/IR の行数、HRV があれば
その列数と行数。 -/
structure AgreeOnLayout (cs : ChannelSet) (h h' : FileHeader) : Prop where
  west : h'.westColumnSelected = h.westColumnSelected
  east : h'.eastColumnSelected = h.eastColumnSelected
  north : h'.northLineSelected = h.northLineSelected
  south : h'.southLineSelected = h.southLineSelected
  linesVisir : h'.numberLinesVisir = h.numberLinesVisir
  columnsHrv : cs.hasHrv → h'.numberColumnsHrv = h.numberColumnsHrv
  linesHrv : cs.hasHrv → h'.numberLinesHrv = h.numberLinesHrv

/-! ## 欄ごとの確かめ -/

theorem selectionExtent_eq_ok {hi lo : Int32} {d : Dimension} {n : Nat} :
    selectionExtent hi lo d = .ok n ↔
      1 ≤ hi.toInt - lo.toInt + 1 ∧ n = (hi.toInt - lo.toInt + 1).toNat := by
  simp only [selectionExtent]
  split
  · simp only [reduceCtorEq, false_iff]
    omega
  · simp only [Except.ok.injEq, eq_comm]
    omega

theorem nonNegative_eq_ok {v : Int32} {name : String} {n : Nat} :
    nonNegative v name = .ok n ↔ 0 ≤ v.toInt ∧ n = v.toInt.toNat := by
  unfold nonNegative
  split
  · simp only [reduceCtorEq, false_iff]
    omega
  · simp only [Except.ok.injEq, eq_comm]
    omega

theorem hrvSize_eq_ok {h : FileHeader} {c : Nat} {p : Nat × Nat} :
    hrvSize h c = .ok p ↔ 0 ≤ h.numberColumnsHrv.toInt ∧
      (c < visirFullSize ∨ h.numberColumnsHrv.toInt % 2 = 0) ∧ 0 ≤ h.numberLinesHrv.toInt ∧
      p = (if c < visirFullSize then h.numberColumnsHrv.toInt.toNat else h.numberColumnsHrv.toInt.toNat / 2,
        h.numberLinesHrv.toInt.toNat) := by
  unfold hrvSize
  by_cases hn : 0 ≤ h.numberColumnsHrv.toInt
  · rw [nonNegative_eq_ok.mpr ⟨hn, rfl⟩, ok_bind]
    split_ifs with hc he
    · simp only [pure_eq, ok_bind, bind_eq_ok, nonNegative_eq_ok, Except.ok.injEq]
      grind
    · simp only [throw_eq, error_bind, reduceCtorEq, false_iff]
      omega
    · simp only [pure_eq, ok_bind, bind_eq_ok, nonNegative_eq_ok, Except.ok.injEq]
      grind
  · have hneg : nonNegative h.numberColumnsHrv "NumberColumnsHRV" =
        .error (.negativeCount "NumberColumnsHRV" h.numberColumnsHrv.toInt) := by
      simp only [nonNegative]
      exact if_pos (by omega)
    simp [hneg, hn]

/-! ## 配置 -/

variable {h : FileHeader} {cs : ChannelSet}

theorem resolvable_of_resolve {L : LineLayout} (hr : resolve h cs = .ok L) : Resolvable h cs := by
  unfold resolve at hr
  obtain ⟨columns, hc, hr⟩ := bind_eq_ok.mp hr
  obtain ⟨rows, hrows, hr⟩ := bind_eq_ok.mp hr
  obtain ⟨lines, hl, hr⟩ := bind_eq_ok.mp hr
  obtain ⟨hc1, rfl⟩ := selectionExtent_eq_ok.mp hc
  obtain ⟨hr1, rfl⟩ := selectionExtent_eq_ok.mp hrows
  obtain ⟨hl1, rfl⟩ := nonNegative_eq_ok.mp hl
  -- HRV があるときだけ、その列数と行数を確かめた値が後に続く
  have hhrv : cs.hasHrv → ∃ p, hrvSize h h.selectedColumns.toNat = .ok p := by
    intro hh
    simp only [hh, if_true] at hr
    obtain ⟨p, hp, -⟩ := bind_eq_ok.mp hr
    exact ⟨p, hp⟩
  refine ⟨hc1, hr1, hl1, fun hh => ?_, fun hh => ?_, fun hh => ?_⟩ <;>
    obtain ⟨p, hp⟩ := hhrv hh <;>
    obtain ⟨hn, he, hl, -⟩ := hrvSize_eq_ok.mp hp
  · exact hn
  · simp only [visirFullSize] at he
    omega
  · exact hl

theorem resolve_of_resolvable (hr : Resolvable h cs) :
    resolve h cs = (ofRectangle h cs).checkedTrailerOffset >>= fun _ => pure (ofRectangle h cs) := by
  have hc : selectionExtent h.westColumnSelected h.eastColumnSelected .columns = .ok h.selectedColumns.toNat :=
    selectionExtent_eq_ok.mpr ⟨hr.columns, rfl⟩
  have hrows : selectionExtent h.northLineSelected h.southLineSelected .lines = .ok h.selectedLines.toNat :=
    selectionExtent_eq_ok.mpr ⟨hr.rows, rfl⟩
  have hl : nonNegative h.numberLinesVisir "NumberLinesVISIR" = .ok h.numberLinesVisir.toInt.toNat :=
    nonNegative_eq_ok.mpr ⟨hr.lines, rfl⟩
  -- 選択矩形の大きさは 1 以上なので、自然数に移しても全円盤との比べ方は変わらない
  have hcols : h.selectedColumns.toNat < visirFullSize ↔ h.selectedColumns < 3712 := by
    simp only [visirFullSize]
    omega
  have hfull : (h.selectedLines.toNat ≥ visirFullSize ∧ h.selectedColumns.toNat ≥ visirFullSize) ↔
      (3712 ≤ h.selectedLines ∧ 3712 ≤ h.selectedColumns) := by
    simp only [visirFullSize]
    omega
  unfold resolve
  rw [hc, ok_bind, hrows, ok_bind, hl, ok_bind]
  cases hh : cs.hasHrv
  · simp only [Bool.false_eq_true, if_false, pure_eq, ok_bind, ofRectangle, hh, hfull]
  · have hs := hrvSize_eq_ok.mpr ⟨hr.hrvColumns hh, (hr.hrvEven hh).imp_left hcols.mpr, hr.hrvLines hh, rfl⟩
    simp only [if_true, hs, ok_bind, ofRectangle, hh, hfull, hcols]

theorem resolve_congr {h' : FileHeader} (ha : AgreeOnLayout cs h h') : resolve h' cs = resolve h cs := by
  unfold resolve
  rw [ha.west, ha.east, ha.north, ha.south, ha.linesVisir]
  cases hh : cs.hasHrv
  · simp only [Bool.false_eq_true, if_false]
  · simp only [hrvSize, ha.columnsHrv hh, ha.linesHrv hh]

/-- 配置が決まるのは欄の条件が満たされ、矩形から作った配置の大きさの計算が 64 ビットに収まるときに
限り、決まる配置は矩形から作ったものである。誤りはどれも形式の誤りで、配置を決める欄の外は結果に
かかわらない。 -/
theorem resolve_eq_ok_iff_ofRectangle (h : FileHeader) (cs : ChannelSet) :
    (∀ L, resolve h cs = .ok L ↔
      Resolvable h cs ∧ (∃ n, (ofRectangle h cs).checkedTrailerOffset = .ok n) ∧ L = ofRectangle h cs) ∧
    FailsWith .invalidFormat (resolve h cs) ∧
    (∀ h', AgreeOnLayout cs h h' → resolve h' cs = resolve h cs) := by
  refine ⟨fun L => ⟨fun hL => ?_, ?_⟩, resolve_failsWith h cs, fun h' ha => resolve_congr ha⟩
  · have hres := resolvable_of_resolve hL
    rw [resolve_of_resolvable hres] at hL
    obtain ⟨n, hn, hL⟩ := bind_eq_ok.mp hL
    exact ⟨hres, ⟨n, hn⟩, (Except.ok.inj hL).symm⟩
  · rintro ⟨hres, ⟨n, hn⟩, rfl⟩
    rw [resolve_of_resolvable hres, hn]
    rfl

end LineLayout

end SeviriScene
