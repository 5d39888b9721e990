import SeviriScene.Proofs.OpenFile

/-!
# 較正した画像

較正した画像 `Scene.getDataset` は、チャンネルの有無、チャンネルがその段階を持つか、計数値の読み取り、
較正の順に確かめ、画素ごとに同じ関数を施す。ここでは、誤りの順と、画素の値の規則
`calibratedValue` を示す（`getDataset_calibrates_pointwise`）。

画素の値の規則は表の引き方を明示する。ヘッダーの係数と処理の種類はチャンネルの 12 の表の位置
`c.index` で引き、ファイルにあるチャンネルの中の位置では引かない。太陽放射照度の表の列は HRV、VIS006、
VIS008、IR_016 の順で、可視のチャンネルでは `(c.index + 1) % 12` に当たる。赤外の定数と輝度温度の
二次式の係数の列は `c.index - 3` である。

較正は衛星番号から決まる衛星の定数を使う。輝度温度の定数は開いたファイルの衛星の逆変換から引くが、
開いたファイルの衛星はヘッダーの衛星番号の衛星なので（`Scene.platform_eq`）、同じ衛星である。
-/

namespace SeviriScene

open Outcome

/-! ## 画素の値の規則 -/

/-- 計数値の画素：0 は欠測で NaN、ほかは計数値を単精度にしたもの。 -/
def countValue (n : UInt16) : Float32 :=
  if n = 0 then (0.0 : Float32) / 0.0 else n.toNat.toFloat32

/-- 放射輝度 `x * gain + offset` を単精度に丸めたもの。係数はヘッダーの表の位置 `c.index` から取り、
GSICS を選んだ赤外のチャンネルでは利得を GSICS の表から、切片を計数の切片と利得の積とする。 -/
def radianceValue (h : FileHeader) (mode : CalibrationMode) (c : Channel) (x : Float32) : Float32 :=
  if mode = .gsics ∧ c.isVisible = false then
    (x.toFloat * (h.gsicsCalCoeff.get ⟨c.index, c.index_lt⟩).toFloat +
      (h.gsicsOffsetCount.get ⟨c.index, c.index_lt⟩).toFloat *
        (h.gsicsCalCoeff.get ⟨c.index, c.index_lt⟩).toFloat).toFloat32
  else
    (x.toFloat * (h.calSlope.get ⟨c.index, c.index_lt⟩).toFloat +
      (h.calOffset.get ⟨c.index, c.index_lt⟩).toFloat).toFloat32

/-- 段階 `level` の画素の値。反射率は放射輝度の 100 倍を衛星 `p` の行の列 `(c.index + 1) % 12` の
太陽放射照度で割る。輝度温度は衛星の行の列 `c.index - 3` の帯域の定数で Planck 関数を逆に解き、処理の
種類 `kind` が 1 なら `(T - beta) / alpha`、そうでなければ列 `c.index - 3` の二次式を施す。 -/
def calibratedValue (h : FileHeader) (p : Platform) (mode : CalibrationMode) (c : Channel) (kind : Nat) :
    CalibrationLevel → Float32 → Float32
  | .counts, x => x
  | .radiance, x => radianceValue h mode c x
  | .reflectance, x =>
    ((radianceValue h mode c x).toFloat * 100.0 /
      (solarIrradianceTable.getD p.index []).getD ((c.index + 1) % 12) 0).toFloat32
  | .brightnessTemperature, x =>
    let k := (irConstantsTable.getD p.index []).getD (c.index - 3) ⟨0, 0, 0⟩
    let t := planckTemperature (radianceValue h mode c x).toFloat k.vc
    let fit := brightnessFitTable.getD (c.index - 3) (0, 0, 0)
    if kind = 1 then ((t - k.beta) / k.alpha).toFloat32
    else (fit.1 * t * t + fit.2.1 * t + fit.2.2).toFloat32

/-! ## 表を引く -/

theorem Channel.mem_calibrations (c : Channel) (level : CalibrationLevel) :
    level ∈ c.calibrations ↔
      ¬(level = .reflectance ∧ c.isVisible = false ∨ level = .brightnessTemperature ∧ c.isVisible = true) := by
  cases c <;> cases level <;> simp [Channel.calibrations, Channel.isVisible]

theorem Channel.calibrations_contains_of_mem {c : Channel} {level : CalibrationLevel}
    (h : level ∈ c.calibrations) : c.calibrations.contains level = true := by
  cases c <;> cases level <;> first | rfl | simp [Channel.calibrations, Channel.isVisible] at h

theorem Channel.calibrations_contains_of_not_mem {c : Channel} {level : CalibrationLevel}
    (h : level ∉ c.calibrations) : c.calibrations.contains level = false := by
  cases c <;> cases level <;> first | rfl | simp [Channel.calibrations, Channel.isVisible] at h

/-- 可視のチャンネルの太陽放射照度は、衛星の行の、HRV を先頭にした列から引く。 -/
theorem solarIrradiance_of_visible (p : Platform) {c : Channel} (hv : c.isVisible = true) :
    solarIrradiance p c = .ok ((solarIrradianceTable.getD p.index []).getD ((c.index + 1) % 12) 0) := by
  cases p <;> cases c <;> first | rfl | simp [Channel.isVisible] at hv

/-- 赤外のチャンネルの帯域の定数は、衛星の行の列 `c.index - 3` から引く。 -/
theorem irConstants_of_infrared (p : Platform) {c : Channel} (hv : c.isVisible = false) :
    irConstants p c = .ok ((irConstantsTable.getD p.index []).getD (c.index - 3) ⟨0, 0, 0⟩) := by
  cases p <;> cases c <;> first | rfl | simp [Channel.isVisible] at hv

theorem brightnessFit?_of_infrared {c : Channel} (hv : c.isVisible = false) :
    brightnessFit? c = some (brightnessFitTable.getD (c.index - 3) (0, 0, 0)) := by
  cases c <;> first | rfl | simp [Channel.isVisible] at hv

/-! ## 画素ごとの写像 -/

theorem Image.map_map {α β γ : Type} (f : β → γ) (g : α → β) (img : Image α) :
    Image.map f (Image.map g img) = Image.map (fun x => f (g x)) img := by
  simp [Image.map, Function.comp_def]

theorem Image.map_id' {α : Type} (img : Image α) : Image.map (fun x => x) img = img := by
  simp [Image.map]

theorem maskFill_eq (counts : Image UInt16) : maskFill counts = Image.map countValue counts := rfl

theorem toRadiance_select (h : FileHeader) (c : Channel) (mode : CalibrationMode) (data : Image Float32) :
    toRadiance (Coefficients.select h c mode) data = Image.map (radianceValue h mode c) data := by
  unfold toRadiance
  congr 1
  funext x
  -- simp は添字記法に書き換えるが Vector.get には書き換えない；残る両辺は定義で等しい
  cases mode <;> cases hv : c.isVisible <;> simp [Coefficients.select, radianceValue, hv] <;> rfl

/-- 赤外のチャンネルの輝度温度は、処理の種類が 1 か 2 なら画素ごとの規則、そうでなければ未実装。 -/
theorem toBrightnessTemperature_radiance (h : FileHeader) (p : Platform) (mode : CalibrationMode)
    {c : Channel} (hv : c.isVisible = false) (kind : Nat) (data : Image Float32) :
    toBrightnessTemperature p c kind (toRadiance (Coefficients.select h c mode) data) =
      if kind ≠ 1 ∧ kind ≠ 2 then .error (.unknownCalibrationType kind c)
      else .ok (Image.map (calibratedValue h p mode c kind .brightnessTemperature) data) := by
  rw [toBrightnessTemperature, irConstants_of_infrared p hv, ok_bind, toRadiance_select,
    brightnessFit?_of_infrared hv]
  -- 処理の種類で場合を分ける：1 は帯域の補正、2 は二次式、ほかは未実装
  rcases Nat.lt_trichotomy kind 1 with hk | rfl | hk
  · obtain rfl : kind = 0 := by omega
    rfl
  · exact congrArg Except.ok (Image.map_map _ _ _)
  · rcases Nat.lt_or_ge kind 3 with hk2 | hk2
    · obtain rfl : kind = 2 := by omega
      exact congrArg Except.ok (Image.map_map _ _ _)
    · obtain ⟨m, rfl⟩ : ∃ m, kind = m + 3 := ⟨kind - 3, by omega⟩
      simp

/-- 準備した較正を段階 `level` まで施す。段階がチャンネルにあれば、輝度温度で処理の種類が 1 でも 2 でも
ないときに限って未実装で失敗し、ほかは画素ごとの規則を施す。 -/
theorem Calibrator.apply_select (h : FileHeader) (p : Platform) (mode : CalibrationMode) {c : Channel}
    {level : CalibrationLevel} (hlev : level ∈ c.calibrations) (kind : Nat) (data : Image Float32) :
    (⟨c, p, Coefficients.select h c mode, kind⟩ : Calibrator).apply data level =
      if level = .brightnessTemperature ∧ kind ≠ 1 ∧ kind ≠ 2 then .error (.unknownCalibrationType kind c)
      else .ok (Image.map (calibratedValue h p mode c kind level) data) := by
  have hoff := (Channel.mem_calibrations c level).mp hlev
  simp only [Calibrator.apply, Calibrator.applyWith, Channel.calibrations_contains_of_mem hlev, Bool.not_true, Bool.false_eq_true,
    if_false]
  cases level with
  | counts => exact congrArg Except.ok (Image.map_id' data).symm
  | radiance => exact congrArg Except.ok (toRadiance_select h c mode data)
  | reflectance =>
    -- 反射率を持つのは可視のチャンネル
    have hv : c.isVisible = true := by simpa using hoff
    rw [solarIrradiance_of_visible p hv, ok_bind, toRadiance_select]
    exact congrArg Except.ok (Image.map_map _ _ _)
  | brightnessTemperature =>
    -- 輝度温度を持つのは赤外のチャンネル
    have hv : c.isVisible = false := by simpa using hoff
    rw [toBrightnessTemperature_radiance h p mode hv]
    simp

/-! ## 較正した画像の誤りの順と画素の値 -/

namespace Scene

variable {s : Scene} {c : Channel} {level : CalibrationLevel}

/-- チャンネルがあり、段階がチャンネルにあり、計数値が読めれば、較正の準備は衛星番号の衛星と、
表の位置 `c.index` の係数と処理の種類を使い、その結果を画像の属性とともに返す。 -/
theorem getDataset_of_counts {p : Platform} (hp : Platform.ofSatelliteId? s.header.satelliteId.toNat = some p)
    (hm : s.channels.mem c = true) (hlev : level ∈ c.calibrations) {counts : Image UInt16}
    (hc : s.readCounts c = .ok counts) :
    s.getDataset c level = (do
      let data ← (⟨c, p, Coefficients.select s.header c s.config.calibMode,
        (s.header.plannedChanProcessing.get ⟨c.index, c.index_lt⟩).toNat⟩ : Calibrator).apply
          (maskFill counts) level
      pure ⟨c, level, data, s.datasetAttributes c level⟩) := by
  -- 開いたファイルの衛星はヘッダーの衛星番号の衛星なので、逆変換の衛星は較正の準備の衛星に等しい
  obtain rfl : p = s.platform := Option.some.inj (hp.symm.trans s.platform_eq)
  simp only [getDataset, requireChannel, hm, if_true, ok_bind, Channel.calibrations_contains_of_mem hlev,
    Bool.not_true, Bool.false_eq_true, if_false, hc, Calibrator.ofHeader, hp]
  rfl

end Scene

/-- 較正した画像は、チャンネルがなければそのチャンネルの不在、段階がチャンネルになければ設定の誤り
（可視でないチャンネルの反射率、可視のチャンネルの輝度温度）、計数値が読めなければその誤り、輝度温度で
処理の種類が 1 でも 2 でもなければ未実装で失敗する。ほかは計数値の各画素に、欠測を NaN にしてから、
衛星番号の衛星とチャンネルの表の位置で引いた係数による規則 `calibratedValue` を施す。 -/
theorem getDataset_calibrates_pointwise {s : Scene} {p : Platform}
    (hp : Platform.ofSatelliteId? s.header.satelliteId.toNat = some p) (c : Channel) (level : CalibrationLevel) :
    let kind := (s.header.plannedChanProcessing.get ⟨c.index, c.index_lt⟩).toNat
    (level ∉ c.calibrations ↔
      level = .reflectance ∧ c.isVisible = false ∨ level = .brightnessTemperature ∧ c.isVisible = true) ∧
    (s.channels.mem c = false → s.getDataset c level = .error (.channelAbsent c)) ∧
    (s.channels.mem c = true → level ∉ c.calibrations →
      s.getDataset c level = .error (.levelNotOffered level c)) ∧
    (s.channels.mem c = true → level ∈ c.calibrations → ∀ e, s.readCounts c = .error e →
      s.getDataset c level = .error e) ∧
    (s.channels.mem c = true → level ∈ c.calibrations → ∀ counts, s.readCounts c = .ok counts →
      (level = .brightnessTemperature ∧ kind ≠ 1 ∧ kind ≠ 2 →
        s.getDataset c level = .error (.unknownCalibrationType kind c)) ∧
      (¬(level = .brightnessTemperature ∧ kind ≠ 1 ∧ kind ≠ 2) →
        s.getDataset c level = .ok ⟨c, level,
          Image.map (fun n => calibratedValue s.header p s.config.calibMode c kind level (countValue n)) counts,
          s.datasetAttributes c level⟩)) := by
  intro kind
  refine ⟨by rw [Channel.mem_calibrations, not_not], fun hm => ?_, fun hm hlev => ?_, fun hm hlev e he => ?_,
    fun hm hlev counts hc => ?_⟩
  · simp [Scene.getDataset, Scene.requireChannel, hm]
  · simp [Scene.getDataset, Scene.requireChannel, hm, Channel.calibrations_contains_of_not_mem hlev]
  · simp [Scene.getDataset, Scene.requireChannel, hm, Channel.calibrations_contains_of_mem hlev, he]
  · -- 計数値が読めたあとは、準備した較正を施すだけ
    rw [Scene.getDataset_of_counts hp hm hlev hc, Calibrator.apply_select _ _ _ hlev, maskFill_eq,
      Image.map_map]
    constructor
    · intro hk
      rw [if_pos hk]
      rfl
    · intro hk
      rw [if_neg hk]
      rfl

/-- 見本の全円盤のヘッダー（衛星番号 324、12 チャンネル、IR_108 の処理の種類は 1）の場面。 -/
theorem getDataset_calibrates_pointwise_meteosat11 :
    let s : Scene := ⟨"scene.nat", {}, FileHeader.sample,
      ⟨fun c => "XXXXXXXXXXXX".toList[c.index]? == some 'X'⟩, .meteosat11,
      ⟨11, 3712, 3712, true, 5568, 11136, true⟩, ⟨⟨11, 3712, 3712, true, 5568, 11136, true⟩, ByteArray.empty⟩,
      Trailer.sample, rfl, rfl, rfl⟩
    Platform.ofSatelliteId? s.header.satelliteId.toNat = some .meteosat11 ∧
      let kind := (s.header.plannedChanProcessing.get ⟨Channel.ir108.index, Channel.ir108.index_lt⟩).toNat
      (CalibrationLevel.brightnessTemperature ∉ Channel.ir108.calibrations ↔
        CalibrationLevel.brightnessTemperature = .reflectance ∧ Channel.ir108.isVisible = false ∨
          CalibrationLevel.brightnessTemperature = .brightnessTemperature ∧ Channel.ir108.isVisible = true) ∧
      (s.channels.mem .ir108 = false → s.getDataset .ir108 .brightnessTemperature = .error (.channelAbsent .ir108)) ∧
      (s.channels.mem .ir108 = true → CalibrationLevel.brightnessTemperature ∉ Channel.ir108.calibrations →
        s.getDataset .ir108 .brightnessTemperature = .error (.levelNotOffered .brightnessTemperature .ir108)) ∧
      (s.channels.mem .ir108 = true → CalibrationLevel.brightnessTemperature ∈ Channel.ir108.calibrations →
        ∀ e, s.readCounts .ir108 = .error e → s.getDataset .ir108 .brightnessTemperature = .error e) ∧
      (s.channels.mem .ir108 = true → CalibrationLevel.brightnessTemperature ∈ Channel.ir108.calibrations →
        ∀ counts, s.readCounts .ir108 = .ok counts →
        (CalibrationLevel.brightnessTemperature = .brightnessTemperature ∧ kind ≠ 1 ∧ kind ≠ 2 →
          s.getDataset .ir108 .brightnessTemperature = .error (.unknownCalibrationType kind .ir108)) ∧
        (¬(CalibrationLevel.brightnessTemperature = .brightnessTemperature ∧ kind ≠ 1 ∧ kind ≠ 2) →
          s.getDataset .ir108 .brightnessTemperature = .ok ⟨.ir108, .brightnessTemperature,
            Image.map (fun n => calibratedValue s.header .meteosat11 s.config.calibMode .ir108 kind
              .brightnessTemperature (countValue n)) counts,
            s.datasetAttributes .ir108 .brightnessTemperature⟩)) :=
  ⟨rfl, getDataset_calibrates_pointwise rfl .ir108 .brightnessTemperature⟩

end SeviriScene
