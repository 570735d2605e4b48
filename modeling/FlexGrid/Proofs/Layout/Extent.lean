import FlexGrid.Layout.Extent
import FlexGrid.Proofs.Layout.Calc.Reading

/-! What the text of an extent denotes. Its expression has the shape of the documented width, except that the
gutters between the tracks and those it absorbs are two lengths of their own. Each of them is rounded once, so
the text is off by two roundings at most, and by none where the gutter is a whole number of ten-thousandths. -/
namespace FlexGrid

/-- A length that is printed is worth its rounded value, for it is rounded once, when it is printed. -/
theorem Length.value_printed (l : Length Rat) (size : LengthUnit → Rat) :
    l.printed.value size = l.rounded * size l.unit := by
  by_cases h : l.rounded = 0
  · simp [printed, h, Calc.value, Scalar.natural]
  · simp [printed, h, Calc.value]

/-- Where a gutter has a width in pixels, it is its number times the size of its unit. -/
theorem Length.pixels?_eq_some {l : Length Rat} (hUnit : l.unit = .px ∨ l.unit = .percent)
    {container : Rat} {size : LengthUnit → Rat} (hPx : size .px = 1)
    (hPercent : size .percent = container / 100) :
    l.pixels? container = some (l.value * size l.unit) := by
  rcases hUnit with h | h
  · rw [pixels?, h, hPx, mul_one]
  · simp only [pixels?, h, hPercent, Scalar.natural, Option.some.injEq]
    push_cast
    ring

namespace Calc

variable (size : LengthUnit → Rat)

theorem value_container : (container : Calc Rat).printed.value size = 100 * size .percent := by
  have hMultiple : (Scalar.natural 100 : Rat) = ((1000000 : Int) : Rat) / 10000 := by
    norm_num [Scalar.natural]
  rw [container, printed, Length.value_printed, Length.rounded_of_multiple hMultiple]
  rfl

/-- The container is read back from how it is printed, although it is printed without an expression around it. -/
theorem parse?_whole : parse? "100%" = some (container : Calc Rat).printed := by
  have hText : (⟨Scalar.natural 100, .percent⟩ : Length Rat).css = "100%" := by decide +kernel
  rw [← hText, parse?_length]
  rfl

/-! Terms that would change nothing are left out. With or without them the value is the same. -/

theorem value_divided (e : Calc Rat) (n : Nat) :
    (if n = 1 then e else .quotient e (.number n)).printed.value size = e.printed.value size / n := by
  split_ifs with h
  · rw [h, Nat.cast_one, div_one]
  · rfl

theorem value_times (e : Calc Rat) (n : Nat) :
    (if n = 1 then e else .product e (.number n)).printed.value size = e.printed.value size * n := by
  split_ifs with h
  · rw [h, Nat.cast_one, mul_one]
  · rfl

/-- To leave out a length of zero that is taken off changes nothing, for it is rounded to zero. -/
theorem value_less (e : Calc Rat) (l : Length Rat) :
    (if l.isZero then e else .difference e (.length l)).printed.value size =
      e.printed.value size - l.rounded * size l.unit := by
  split_ifs with h
  · rw [Length.rounded_eq_zero_of_isZero h, zero_mul, sub_zero]
  · rw [← Length.value_printed]
    rfl

/-- To leave out a length of zero that is added changes nothing either. -/
theorem value_more (e : Calc Rat) (l : Length Rat) :
    (if l.isZero then e else .sum e (.length l)).printed.value size =
      e.printed.value size + l.rounded * size l.unit := by
  split_ifs with h
  · rw [Length.rounded_eq_zero_of_isZero h, zero_mul, add_zero]
  · rw [← Length.value_printed]
    rfl

end Calc

namespace Extent

section

variable {α : Type}

/-- The tracks that an extent covers. -/
def count : Extent α → Nat
  | .span count _ _ => count
  | .offset count _ _ => count

/-- The tracks that the container is divided into for an extent. -/
def tracks : Extent α → Nat
  | .span _ tracks _ => tracks
  | .offset _ tracks _ => tracks

/-- The distance between two tracks. -/
def gutter : Extent α → Length α
  | .span _ _ gutter => gutter
  | .offset _ _ gutter => gutter

variable [Scalar α]

/-- Only a width that takes up all tracks is printed without an expression. More tracks than there are would be
printed so too. -/
theorem expression?_eq_none_iff {e : Extent α} :
    e.expression? = none ↔ ∃ count tracks gutter, e = .span count tracks gutter ∧ tracks ≤ count := by
  cases e with
  | span count tracks gutter =>
      by_cases h : tracks ≤ count <;> simp [expression?, h]
  | offset count tracks gutter => simp [expression?]

/-- No other extent is written as the whole width, for a text that opens a formula is not the same as one that begins
with a digit. -/
theorem css_eq_whole_iff {e : Extent α} : e.css = "100%" ↔ e.expression? = none := by
  cases h : e.expression? with
  | none => simp [css, h]
  | some expression =>
      have hFirst : ("calc(" ++ expression.css ++ ")").toList.head? = some 'c' := by simp
      simp only [css, h, reduceCtorEq, iff_false]
      intro hWhole
      rw [hWhole] at hFirst
      cases hFirst

end

/-- The documented width of an extent in a container, for a gutter that is `g` wide there. -/
def width (container g : Rat) : Extent Rat → Rat
  | .span count tracks _ => count * ((container - (tracks - 1) * g) / tracks + g) - g
  | .offset count tracks _ => count * ((container - (tracks - 1) * g) / tracks + g)

/-- The gutters that an extent covers besides its tracks. A width ends with a track and covers one gutter less than
tracks, and a margin leads up to the next cell and covers as many. -/
def absorbed : Extent Rat → Int
  | .span count _ _ => count - 1
  | .offset count _ _ => count

/-- The width of tracks between which `gutters` lie in all, with the width that they absorb. -/
def tracksWidth (container : Rat) (count tracks : Nat) (gutters absorbed : Rat) : Rat :=
  (container - gutters) / tracks * count + absorbed

/-- The width of an extent is that of its tracks, less the gutters between all tracks and with those that it spans. -/
theorem width_eq_tracksWidth (container g : Rat) (e : Extent Rat) :
    e.width container g =
      tracksWidth container e.count e.tracks ((e.tracks - 1) * g) (e.absorbed * g) := by
  cases e <;>
    simp only [width, tracksWidth, count, tracks, absorbed] <;>
    push_cast <;>
    ring

/-- What an extent comes to in pixels is its documented width. -/
theorem pixels?_eq (e : Extent Rat) (container : Rat) :
    e.pixels? container = (e.gutter.pixels? container).map (e.width container) := by
  cases e <;> rfl

/-- A track is worth its share of what the gutters between the tracks leave of the container. -/
theorem value_trackCalc (tracks : Nat) (gutter : Length Rat) (size : LengthUnit → Rat) :
    (trackCalc tracks gutter).printed.value size =
      (100 * size .percent - (gutter.scaled (Scalar.natural (tracks - 1))).rounded * size gutter.unit) /
        tracks := by
  rw [trackCalc, Calc.value_divided, Calc.value_less, Calc.value_container]
  rfl

/-- Tracks side by side are worth that many tracks with the gutters that they take in. Each of the two lengths is
rounded by itself. -/
theorem value_tracksCalc (count tracks : Nat) (gutter absorbed : Length Rat) (size : LengthUnit → Rat) :
    (tracksCalc count tracks gutter absorbed).printed.value size =
      tracksWidth (100 * size .percent) count tracks
        ((gutter.scaled (Scalar.natural (tracks - 1))).rounded * size gutter.unit)
        (absorbed.rounded * size absorbed.unit) := by
  rw [tracksCalc, Calc.value_more, Calc.value_times, value_trackCalc, tracksWidth]

/-- Two roundings move a width by a ten-thousandth of the gutter's unit at most, for an extent has no more than
the whole of what lies between the tracks. -/
theorem abs_tracksWidth_sub_le {count tracks : Nat} (hTracks : count ≤ tracks)
    {gutters gutters' absorbed absorbed' : Rat} (hGutters : |gutters' - gutters| ≤ 1 / 20000)
    (hAbsorbed : |absorbed' - absorbed| ≤ 1 / 20000) (container unit : Rat) :
    |tracksWidth container count tracks (gutters' * unit) (absorbed' * unit) -
      tracksWidth container count tracks (gutters * unit) (absorbed * unit)| ≤ |unit| / 10000 := by
  let share : Rat := count / tracks
  have hShare : |share| ≤ 1 := by
    have hNonneg : 0 ≤ share := by positivity
    rw [abs_of_nonneg hNonneg]
    exact div_le_one_of_le₀ (by exact_mod_cast hTracks) (Nat.cast_nonneg tracks)
  have hMoved : |(gutters' - gutters) * share| ≤ 1 / 20000 := by
    calc
      |(gutters' - gutters) * share| = |gutters' - gutters| * |share| := abs_mul _ _
      _ ≤ 1 / 20000 * 1 := mul_le_mul hGutters hShare (abs_nonneg _) (by norm_num)
      _ = 1 / 20000 := mul_one _
  calc
    _ = |((absorbed' - absorbed) - (gutters' - gutters) * share) * unit| := by
      congr 1
      simp only [tracksWidth, share]
      ring
    _ = |(absorbed' - absorbed) - (gutters' - gutters) * share| * |unit| := abs_mul _ _
    _ ≤ (1 / 20000 + 1 / 20000) * |unit| := by
      refine mul_le_mul_of_nonneg_right ?_ (abs_nonneg unit)
      exact (abs_sub _ _).trans (add_le_add hAbsorbed hMoved)
    _ = |unit| / 10000 := by ring

/-- An extent that is not the whole container is printed as its tracks side by side. -/
theorem expression?_of_ne_none {e : Extent Rat} (h : e.expression? ≠ none) :
    e.expression? =
      some (tracksCalc e.count e.tracks e.gutter (e.gutter.scaled (e.absorbed : Rat))) := by
  cases e with
  | span n all g =>
      have hPart : ¬all ≤ n := fun hWhole => h (expression?_eq_none_iff.mpr ⟨n, all, g, rfl, hWhole⟩)
      simp [expression?, hPart, count, tracks, gutter, absorbed, Scalar.natural]
  | offset n all g =>
      simp [expression?, count, tracks, gutter, absorbed, Scalar.natural]

/-- An extent of all tracks is the container, for its gutters are those that the tracks had to leave room for. -/
theorem tracksWidth_whole {tracks : Nat} (h : 1 ≤ tracks) (container gutters : Rat) :
    tracksWidth container tracks tracks gutters gutters = container := by
  have hTracks : (tracks : Rat) ≠ 0 := by exact_mod_cast Nat.ne_of_gt h
  rw [tracksWidth, div_mul_cancel₀ _ hTracks, sub_add_cancel]

/-- The text of an extent denotes its documented width, but for the two lengths that are written in it. -/
theorem exists_parse?_css {e : Extent Rat} (hCount : 1 ≤ e.count) (hTracks : e.count ≤ e.tracks) :
    ∃ x gutters absorbed, Calc.parse? e.css = some x ∧
      Length.Writes ((e.tracks - 1) * e.gutter.value) gutters ∧
      Length.Writes (e.absorbed * e.gutter.value) absorbed ∧
      ∀ size, x.value size = tracksWidth (100 * size .percent) e.count e.tracks
        (gutters * size e.gutter.unit) (absorbed * size e.gutter.unit) := by
  by_cases hWhole : e.expression? = none
  · obtain ⟨n, all, g, rfl, hLe⟩ := expression?_eq_none_iff.mp hWhole
    obtain rfl : all = n := Nat.le_antisymm hLe hTracks
    refine ⟨Calc.container.printed, _, _, ?_, Length.writes_self _, Length.writes_self _, ?_⟩
    · rw [css_eq_whole_iff.mpr hWhole, Calc.parse?_whole]
    · intro size
      -- Nothing of the gutter is written here: what lies between the tracks is just what is absorbed.
      have hAll : ((span all all g).absorbed : Rat) = all - 1 := by
        rw [absorbed]
        push_cast
        rfl
      rw [hAll, Calc.value_container]
      exact (tracksWidth_whole hCount _ _).symm
  · have hGutters : (e.gutter.scaled (Scalar.natural (e.tracks - 1))).value =
        (e.tracks - 1) * e.gutter.value := by
      have hPos : 1 ≤ e.tracks := Nat.le_trans hCount hTracks
      simp only [Length.scaled, Scalar.natural, Nat.cast_sub hPos, Nat.cast_one]
      exact mul_comm _ _
    have hAbsorbed : (e.gutter.scaled (e.absorbed : Rat)).value = e.absorbed * e.gutter.value :=
      mul_comm _ _
    refine ⟨_, _, _, ?_, hGutters ▸ Length.writes_rounded _, hAbsorbed ▸ Length.writes_rounded _,
      fun size => value_tracksCalc e.count e.tracks e.gutter (e.gutter.scaled e.absorbed) size⟩
    rw [css, expression?_of_ne_none hWhole]
    exact Calc.parse?_calc _

/-- The text of an extent means what the extent computes, whatever gutter it has. Read as arithmetic, it denotes
the documented width in every container, up to one ten-thousandth of the gutter's unit. It denotes just this
width if the gutter is a whole number of ten-thousandths, and then also what the extent comes to in pixels. -/
theorem css_meaning (e : Extent Rat) (hCount : 1 ≤ e.count) (hTracks : e.count ≤ e.tracks) :
    ∃ x, Calc.parse? e.css = some x ∧
      (∀ size, |x.value size - e.width (100 * size .percent) (e.gutter.value * size e.gutter.unit)| ≤
        |size e.gutter.unit| / 10000) ∧
      ((∃ k : Int, e.gutter.value = k / 10000) →
        (∀ size, x.value size =
          e.width (100 * size .percent) (e.gutter.value * size e.gutter.unit)) ∧
        (e.gutter.unit = .px ∨ e.gutter.unit = .percent →
          ∀ container size, size .px = 1 → size .percent = container / 100 →
            e.pixels? container = some (x.value size))) := by
  obtain ⟨x, gutters, absorbed, hParse, hGutters, hAbsorbed, hValue⟩ := exists_parse?_css hCount hTracks
  refine ⟨x, hParse, ?_, ?_⟩
  · intro size
    rw [hValue, width_eq_tracksWidth, ← mul_assoc, ← mul_assoc]
    exact abs_tracksWidth_sub_le hTracks hGutters.near hAbsorbed.near _ _
  · rintro ⟨k, hk⟩
    have hExact : ∀ size, x.value size =
        e.width (100 * size .percent) (e.gutter.value * size e.gutter.unit) := by
      intro size
      have hBetween := hGutters.eq_of_multiple ((e.tracks - 1) * k) (by rw [hk]; push_cast; ring)
      have hCovered := hAbsorbed.eq_of_multiple (e.absorbed * k) (by rw [hk]; push_cast; ring)
      rw [hValue, width_eq_tracksWidth, hBetween, hCovered, mul_assoc, mul_assoc]
    refine ⟨hExact, ?_⟩
    intro hUnit container size hPx hPercent
    rw [pixels?_eq, Length.pixels?_eq_some hUnit hPx hPercent, Option.map_some, hExact, hPercent,
      mul_div_cancel₀ _ (by norm_num)]

/-- Two of three columns with 30px between them, in a container of 960px. -/
theorem css_meaning_of_two_thirds :
    ∃ x : Calc Rat, Calc.parse? "calc((100% - 60px) / 3 * 2 + 30px)" = some x ∧
      ∀ size, size .px = 1 → size .percent = 960 / 100 → x.value size = 630 := by
  let e : Extent Rat := .span 2 3 ⟨30, .px⟩
  have hText : e.css = "calc((100% - 60px) / 3 * 2 + 30px)" := by decide +kernel
  have hPixels : e.pixels? 960 = some 630 := by decide +kernel
  obtain ⟨x, hParse, -, hExact⟩ := css_meaning e (by decide) (by decide)
  obtain ⟨-, hMeans⟩ := hExact ⟨300000, by norm_num [e, gutter]⟩
  refine ⟨x, hText ▸ hParse, ?_⟩
  intro size hPx hPercent
  have hSame := hMeans (Or.inl rfl) 960 size hPx hPercent
  exact Option.some.inj (hSame.symm.trans hPixels)

end Extent

end FlexGrid
