import SeviriScene.Reader.Scene
import SeviriScene.Proofs.Outcome

/-!
# チャンネルの領域の定義

領域の定義 `Scene.areaDefinition` は、チャンネルがファイルにあるか、地球の模型が 1 か 2 か、
チャンネルの基準格子（HRV は HRV の格子、ほかは VIS/IR の格子）の原点が南東の隅か、の順に確かめる。
HRV の全円盤で縮小走査でなければ、末尾の下の窓、上の窓の順に行数と列数が負でないことを確かめ、
二つの窓の定義を積み重ねて絞る。ほかの場合は、配置の行数と列数を持つ一つの定義を返す。

ここでは、この順と各枝の結果をどのヘッダー、末尾、配置についても示す（`areaDefinition_branch_order`）。

* 範囲の計算 `areaExtent` の出口は四つ：模型が読めない、原点が南東でない、窓に分かれる、
  一つの範囲。それぞれを補題にし、`areaDefinition` の証明はこれらだけを引く。
* 積み重ねを絞ると、空でない定義だけが順に残り、ちょうど一つなら単独になる
  （`Area.definitions_squeeze_stacked`、`Area.squeeze_stacked_eq_single_iff`）。
* 形は 64 ビットの語で数えるが、窓の行数は 32 ビットの行番号の差から来るので、二つの窓の行数の和は
  折り返さない。したがって形は、残った窓の行数の和と列数の最大である（`Area.shape_eq_of_lt`）。
-/

namespace SeviriScene

open Outcome

theorem Channel.isHrv_eq_decide (c : Channel) : c.isHrv = decide (c = .hrv) := by
  cases c <;> rfl

/-- チャンネルの基準格子。HRV は HRV の格子、ほかは VIS/IR の格子。 -/
def FileHeader.gridOf (h : FileHeader) (c : Channel) : ReferenceGrid :=
  if c = .hrv then h.referenceGridHrv else h.referenceGridVisir

/-! ## 地球の模型 -/

namespace EarthModel

theorem ofValue_of_known {v : UInt8} (hv : v = 1 ∨ v = 2) : ∃ m, ofValue v.toNat = .ok m := by
  rcases hv with rfl | rfl
  · exact ⟨.offset, rfl⟩
  · exact ⟨.corrected, rfl⟩

theorem ofValue_of_unknown {v : UInt8} (hv : ¬(v = 1 ∨ v = 2)) :
    ofValue v.toNat = .error (.unknownEarthModel v.toNat) := by
  have h1 : v.toNat ≠ 1 := fun h => hv (.inl (UInt8.toNat_inj.mp h))
  have h2 : v.toNat ≠ 2 := fun h => hv (.inr (UInt8.toNat_inj.mp h))
  unfold ofValue
  split <;> simp_all

end EarthModel

/-! ## 画像の範囲の四つの出口 -/

section Extent

variable {h : FileHeader} {t : Trailer} {fd : Bool} {c : Channel}

theorem areaExtent_unknownEarthModel (hv : ¬(h.typeOfEarthModel = 1 ∨ h.typeOfEarthModel = 2)) :
    areaExtent h t fd c = .error (.unknownEarthModel h.typeOfEarthModel.toNat) := by
  simp [areaExtent, EarthModel.ofValue_of_unknown hv]

theorem areaExtent_unsupportedGridOrigin (hv : h.typeOfEarthModel = 1 ∨ h.typeOfEarthModel = 2)
    (hg : (h.gridOf c).gridOrigin ≠ 2) :
    areaExtent h t fd c = .error (.unsupportedGridOrigin (h.gridOf c).gridOrigin.toNat) := by
  obtain ⟨m, hm⟩ := EarthModel.ofValue_of_known hv
  unfold FileHeader.gridOf at hg ⊢
  by_cases hc : c = .hrv
  · simp only [hc, if_true] at hg ⊢
    simp [areaExtent, hm, Channel.isHrv_eq_decide, hg]
  · simp only [hc, if_false] at hg ⊢
    simp [areaExtent, hm, Channel.isHrv_eq_decide, hc, hg]

/-- HRV の全円盤で縮小走査でなければ、範囲は末尾の上と下の窓に分かれ、窓の行数と列数は末尾の範囲のもの。 -/
theorem areaExtent_split (hv : h.typeOfEarthModel = 1 ∨ h.typeOfEarthModel = 2)
    (hg : (h.gridOf .hrv).gridOrigin = 2) (hfd : fd = true) (hr : t.reducedScan = false) :
    ∃ eUp eLo, areaExtent h t fd .hrv =
      .ok (.split ⟨eUp, t.coverageHrvUpper.numberOfLines, t.coverageHrvUpper.numberOfColumns⟩
        ⟨eLo, t.coverageHrvLower.numberOfLines, t.coverageHrvLower.numberOfColumns⟩) := by
  obtain ⟨m, hm⟩ := EarthModel.ofValue_of_known hv
  simp only [FileHeader.gridOf, if_true] at hg
  simp only [areaExtent, hm, Channel.isHrv_eq_decide, hg, hfd, hr, ok_bind, decide_true, if_true]
  exact ⟨_, _, rfl⟩

theorem areaExtent_single (hv : h.typeOfEarthModel = 1 ∨ h.typeOfEarthModel = 2)
    (hg : (h.gridOf c).gridOrigin = 2) (hn : ¬(c = .hrv ∧ fd = true ∧ t.reducedScan = false)) :
    ∃ e, areaExtent h t fd c = .ok (.single e) := by
  obtain ⟨m, hm⟩ := EarthModel.ofValue_of_known hv
  unfold FileHeader.gridOf at hg
  by_cases hc : c = .hrv
  · simp only [hc, if_true, true_and] at hg hn ⊢
    -- 縮小走査なら下の窓だけ、全円盤でなければ選択矩形から
    by_cases hr : t.reducedScan = true
    · simp [areaExtent, hm, Channel.isHrv_eq_decide, hg, hr]
    · have hfd : fd = false := by simp_all
      simp [areaExtent, hm, Channel.isHrv_eq_decide, hg, hr, hfd]
  · simp only [hc, if_false] at hg ⊢
    simp [areaExtent, hm, Channel.isHrv_eq_decide, hc, hg]

end Extent

/-! ## 窓の定義 -/

section Window

variable {c : Channel} {p : Projection} {d : String} {w : WindowExtent}

theorem windowDefinition_of_lines_neg (hl : w.lines < 0) :
    Scene.windowDefinition c p d w = .error (.negativeWindow d w.lines .lines) := by
  simp [Scene.windowDefinition, hl]

theorem windowDefinition_of_columns_neg (hl : 0 ≤ w.lines) (hc : w.columns < 0) :
    Scene.windowDefinition c p d w = .error (.negativeWindow d w.columns .columns) := by
  simp [Scene.windowDefinition, Int.not_lt.mpr hl, hc]

theorem windowDefinition_of_nonneg (hl : 0 ≤ w.lines) (hc : 0 ≤ w.columns) :
    Scene.windowDefinition c p d w = .ok (AreaDefinition.make c d p w.lines.toNat w.columns.toNat w.extent) := by
  simp [Scene.windowDefinition, Int.not_lt.mpr hl, Int.not_lt.mpr hc]

end Window

/-! ## 積み重ねを絞る -/

namespace Area

theorem isEmpty_eq_false_iff (d : AreaDefinition) : d.isEmpty = false ↔ d.height ≠ 0 ∧ d.width ≠ 0 := by
  simp [AreaDefinition.isEmpty, and_comm]

/-- 積み重ねを絞ると、行数も列数も 0 でない定義だけが、もとの順に残る。 -/
theorem definitions_squeeze_stacked (ds : List AreaDefinition) :
    (stacked ds).squeeze.definitions = ds.filter fun d => d.height ≠ 0 ∧ d.width ≠ 0 := by
  have hf : (ds.filter fun d => !d.isEmpty) = ds.filter fun d => d.height ≠ 0 ∧ d.width ≠ 0 :=
    List.filter_congr fun d _ => by
      rw [Bool.eq_iff_iff, Bool.not_eq_true', isEmpty_eq_false_iff, decide_eq_true_iff]
  rw [← hf, squeeze]
  split
  · rename_i d hd
    rw [hd]
    rfl
  · rfl

/-- 絞った積み重ねが単独の定義になるのは、残る定義がちょうど一つのときに限る。 -/
theorem squeeze_stacked_eq_single_iff (ds : List AreaDefinition) :
    (∃ d, (stacked ds).squeeze = .single d) ↔ (ds.filter fun d => d.height ≠ 0 ∧ d.width ≠ 0).length = 1 := by
  rw [← definitions_squeeze_stacked]
  simp only [squeeze]
  split
  · simp [definitions]
  · rename_i rest hne
    simp only [definitions, List.length_eq_one_iff]
    constructor
    · rintro ⟨_, h⟩
      cases h
    · rintro ⟨d, hd⟩
      exact absurd hd (hne d)

/-- 行数の和が 64 ビットに収まるなら、行数を折り返しながら足しても和そのもの。 -/
theorem foldl_height_of_lt (ds : List AreaDefinition) (a : Nat)
    (h : a + ds.foldr (fun d n => d.height + n) 0 < Nat.pow 2 64) :
    ds.foldl (fun acc d => (acc + d.height) % Nat.pow 2 64) a = a + ds.foldr (fun d n => d.height + n) 0 := by
  induction ds generalizing a with
  | nil => rfl
  | cons d ds ih =>
    simp only [List.foldr_cons] at h
    rw [List.foldl_cons, Nat.mod_eq_of_lt (by omega), ih _ (by omega), List.foldr_cons, Nat.add_assoc]

theorem foldl_width (ds : List AreaDefinition) (a : Nat) :
    ds.foldl (fun acc d => Nat.max acc d.width) a = Nat.max a (ds.foldr (fun d n => Nat.max d.width n) 0) := by
  induction ds generalizing a with
  | nil => exact (Nat.max_zero a).symm
  | cons d ds ih =>
    rw [List.foldl_cons, ih, List.foldr_cons]
    exact Nat.max_assoc a d.width _

/-- 行数の和が 64 ビットに収まる領域の形は、行数の和と列数の最大（定義がなければ 0）。 -/
theorem shape_eq_of_lt (a : Area) (h : a.definitions.foldr (fun d n => d.height + n) 0 < Nat.pow 2 64) :
    a.shape = (a.definitions.foldr (fun d n => d.height + n) 0,
      a.definitions.foldr (fun d n => Nat.max d.width n) 0) := by
  rw [shape, foldl_height_of_lt _ 0 (by omega), foldl_width, Nat.zero_add]
  exact congrArg _ (Nat.zero_max _)

end Area

@[simp] theorem AreaDefinition.height_make (c : Channel) (d : String) (p : Projection) (n m : Nat)
    (e : AreaExtent) : (AreaDefinition.make c d p n m e).height = n := by
  unfold AreaDefinition.make
  split <;> rfl

@[simp] theorem AreaDefinition.width_make (c : Channel) (d : String) (p : Projection) (n m : Nat)
    (e : AreaExtent) : (AreaDefinition.make c d p n m e).width = m := by
  unfold AreaDefinition.make
  split <;> rfl

theorem foldr_height_filter_le (ds : List AreaDefinition) (P : AreaDefinition → Bool) :
    (ds.filter P).foldr (fun d n => d.height + n) 0 ≤ ds.foldr (fun d n => d.height + n) 0 := by
  induction ds with
  | nil => exact Nat.le_refl 0
  | cons d ds ih =>
    rw [List.filter_cons]
    split
    · simp only [List.foldr_cons]
      omega
    · simp only [List.foldr_cons]
      omega

/-- 行数が 2^32 以下の二つの窓を積み重ねて絞った領域の形は、残った窓の行数の和と列数の最大。 -/
theorem Area.shape_squeeze_stacked_pair {lo up : AreaDefinition} (hlo : lo.height ≤ Nat.pow 2 32)
    (hup : up.height ≤ Nat.pow 2 32) :
    (Area.stacked [lo, up]).squeeze.shape =
      (([lo, up].filter fun d => d.height ≠ 0 ∧ d.width ≠ 0).foldr (fun d n => d.height + n) 0,
        ([lo, up].filter fun d => d.height ≠ 0 ∧ d.width ≠ 0).foldr (fun d n => Nat.max d.width n) 0) := by
  -- 二つの窓の行数の和は 2^33 以下で、64 ビットに収まる
  have h32 : Nat.pow 2 32 = 4294967296 := rfl
  have h64 : Nat.pow 2 64 = 18446744073709551616 := rfl
  rw [Area.shape_eq_of_lt, Area.definitions_squeeze_stacked]
  rw [Area.definitions_squeeze_stacked]
  refine Nat.lt_of_le_of_lt (foldr_height_filter_le _ _) ?_
  simp only [List.foldr_cons, List.foldr_nil]
  omega

/-! ## 窓の行数と列数の大きさ -/

namespace Coverage

theorem numberOfLines_toNat_le (c : Coverage) : c.numberOfLines.toNat ≤ Nat.pow 2 32 := by
  have h1 := Int32.toInt_lt c.northLine
  have h2 := Int32.le_toInt c.southLine
  have hp : ((Nat.pow 2 32 : Nat) : Int) = 4294967296 := rfl
  rw [Int.toNat_le, hp, numberOfLines]
  omega

end Coverage

/-! ## 領域の定義の枝 -/

namespace Scene

variable {s : Scene} {c : Channel}

theorem areaDefinition_of_absent (hm : s.channels.mem c = false) :
    s.areaDefinition c = .error (.channelAbsent c) := by
  simp [areaDefinition, requireChannel, hm]

theorem areaDefinition_of_extent_error (hm : s.channels.mem c = true) {e : Fault}
    (he : s.areaExtent c = .error e) : s.areaDefinition c = .error e := by
  simp [areaDefinition, requireChannel, hm, he]

theorem areaDefinition_of_single (hm : s.channels.mem c = true) {e : AreaExtent}
    (he : s.areaExtent c = .ok (.single e)) :
    s.areaDefinition c = .ok (.single (if c = .hrv then
        AreaDefinition.make c "SEVIRI high resolution channel area" s.header.projection
          s.layout.hrvNumberOfLines s.layout.hrvColumns e
      else AreaDefinition.make c "SEVIRI low resolution channel area" s.header.projection
          s.layout.numberOfLines s.layout.visirColumns e)) := by
  by_cases hc : c = .hrv
  · subst hc
    simp [areaDefinition, requireChannel, hm, he, Channel.isHrv_eq_decide]
  · simp [areaDefinition, requireChannel, hm, he, Channel.isHrv_eq_decide, hc]

theorem areaDefinition_of_split (hm : s.channels.mem c = true) {up lo : WindowExtent}
    (he : s.areaExtent c = .ok (.split up lo)) :
    s.areaDefinition c = (do
      let l ← windowDefinition c s.header.projection "SEVIRI high resolution channel, lower window" lo
      let u ← windowDefinition c s.header.projection "SEVIRI high resolution channel, upper window" up
      pure (Area.stacked [l, u]).squeeze) := by
  simp only [areaDefinition, requireChannel, hm, if_true, ok_bind, he]

end Scene

/-! ## 枝の順 -/

/-- 領域の定義は、チャンネルの有無、地球の模型、チャンネルの基準格子の原点の順に確かめる。HRV の全円盤で
縮小走査でなければ、下の窓、上の窓の順に行数、列数が負でないことを確かめ、二つの窓の定義を積み重ねて
絞る：行数も列数も 0 でない窓だけがこの順に残り、ちょうど一つなら単独の定義になり、形は残った窓の行数の和と
列数の最大（残らなければ 0）。ほかの場合は、配置の行数と列数（HRV なら HRV のもの）の単独の定義を返す。 -/
theorem areaDefinition_branch_order (s : Scene) (c : Channel) :
    let h := s.header
    let t := s.trailer
    let L := s.layout
    let known := h.typeOfEarthModel = 1 ∨ h.typeOfEarthModel = 2
    let lower := t.coverageHrvLower
    let upper := t.coverageHrvUpper
    let lowerText := "SEVIRI high resolution channel, lower window"
    let upperText := "SEVIRI high resolution channel, upper window"
    (s.channels.mem c = false → s.areaDefinition c = .error (.channelAbsent c)) ∧
    (s.channels.mem c = true → ¬known →
      s.areaDefinition c = .error (.unknownEarthModel h.typeOfEarthModel.toNat)) ∧
    (s.channels.mem c = true → known → (h.gridOf c).gridOrigin ≠ 2 →
      s.areaDefinition c = .error (.unsupportedGridOrigin (h.gridOf c).gridOrigin.toNat)) ∧
    (s.channels.mem c = true → known → (h.gridOf c).gridOrigin = 2 →
      c = .hrv → L.isFullDisk = true → t.reducedScan = false →
      (lower.numberOfLines < 0 →
          s.areaDefinition c = .error (.negativeWindow lowerText lower.numberOfLines .lines)) ∧
      (0 ≤ lower.numberOfLines → lower.numberOfColumns < 0 →
          s.areaDefinition c = .error (.negativeWindow lowerText lower.numberOfColumns .columns)) ∧
      (0 ≤ lower.numberOfLines → 0 ≤ lower.numberOfColumns → upper.numberOfLines < 0 →
          s.areaDefinition c = .error (.negativeWindow upperText upper.numberOfLines .lines)) ∧
      (0 ≤ lower.numberOfLines → 0 ≤ lower.numberOfColumns → 0 ≤ upper.numberOfLines →
        upper.numberOfColumns < 0 →
          s.areaDefinition c = .error (.negativeWindow upperText upper.numberOfColumns .columns)) ∧
      (0 ≤ lower.numberOfLines → 0 ≤ lower.numberOfColumns → 0 ≤ upper.numberOfLines →
        0 ≤ upper.numberOfColumns →
        ∃ eLo eUp,
          let lo := AreaDefinition.make .hrv lowerText h.projection lower.numberOfLines.toNat
            lower.numberOfColumns.toNat eLo
          let up := AreaDefinition.make .hrv upperText h.projection upper.numberOfLines.toNat
            upper.numberOfColumns.toNat eUp
          let kept := [lo, up].filter fun d => d.height ≠ 0 ∧ d.width ≠ 0
          s.areaDefinition c = .ok (Area.stacked [lo, up]).squeeze ∧
            (Area.stacked [lo, up]).squeeze.definitions = kept ∧
            ((∃ d, (Area.stacked [lo, up]).squeeze = .single d) ↔ kept.length = 1) ∧
            (Area.stacked [lo, up]).squeeze.shape =
              (kept.foldr (fun d n => d.height + n) 0, kept.foldr (fun d n => Nat.max d.width n) 0))) ∧
    (s.channels.mem c = true → known → (h.gridOf c).gridOrigin = 2 →
      ¬(c = .hrv ∧ L.isFullDisk = true ∧ t.reducedScan = false) →
      ∃ e, s.areaDefinition c = .ok (.single (if c = .hrv then
          AreaDefinition.make c "SEVIRI high resolution channel area" h.projection L.hrvNumberOfLines
            L.hrvColumns e
        else AreaDefinition.make c "SEVIRI low resolution channel area" h.projection L.numberOfLines
            L.visirColumns e))) := by
  intro h t L known lower upper lowerText upperText
  refine ⟨Scene.areaDefinition_of_absent, fun hm hv => ?_, fun hm hv hg => ?_,
    fun hm hv hg hc hfd hr => ?_, fun hm hv hg hn => ?_⟩
  · exact Scene.areaDefinition_of_extent_error hm (areaExtent_unknownEarthModel hv)
  · exact Scene.areaDefinition_of_extent_error hm (areaExtent_unsupportedGridOrigin hv hg)
  · -- 全円盤の HRV：窓は下、上の順に、それぞれ行数、列数の順に確かめる
    subst hc
    obtain ⟨eUp, eLo, he⟩ := areaExtent_split hv hg hfd hr
    rw [Scene.areaDefinition_of_split hm he]
    refine ⟨fun hl => ?_, fun hl hlc => ?_, fun hl hlc hu => ?_, fun hl hlc hu huc => ?_,
      fun hl hlc hu huc => ⟨eLo, eUp, ?_, Area.definitions_squeeze_stacked _,
        Area.squeeze_stacked_eq_single_iff _, ?_⟩⟩
    · rw [windowDefinition_of_lines_neg hl]
      rfl
    · rw [windowDefinition_of_columns_neg hl hlc]
      rfl
    · rw [windowDefinition_of_nonneg hl hlc, ok_bind, windowDefinition_of_lines_neg hu]
      rfl
    · rw [windowDefinition_of_nonneg hl hlc, ok_bind, windowDefinition_of_columns_neg hu huc]
      rfl
    · rw [windowDefinition_of_nonneg hl hlc, ok_bind, windowDefinition_of_nonneg hu huc]
      rfl
    · -- 窓の行数はどちらも 2^32 以下
      exact Area.shape_squeeze_stacked_pair (by simpa using lower.numberOfLines_toNat_le)
        (by simpa using upper.numberOfLines_toNat_le)
  · obtain ⟨e, he⟩ := areaExtent_single hv hg hn
    exact ⟨e, Scene.areaDefinition_of_single hm he⟩

end SeviriScene
