import FlexGrid.Settings

/-! Settings in any number of layers. However the layers are grouped, of each setting the last one that is given counts,
and a layout is chosen by these alone: a length that is overridden may be written in any way. -/
namespace FlexGrid

namespace Settings

/-- Layers of settings, laid over each other in some grouping. A group may be merged first and then be laid over what
is below it. -/
inductive Layering where
  | single (settings : Settings)
  | overlay (below above : Layering)

namespace Layering

/-- The layers, the lowest first. -/
def layers : Layering → List Settings
  | .single settings => [settings]
  | .overlay below above => below.layers ++ above.layers

/-- What the layers come to, when each group is merged by itself first. -/
def merged : Layering → Settings
  | .single settings => settings
  | .overlay below above => below.merged.overlay above.merged

end Layering

/-- The value that is given for a setting by the last layer that gives one, or none if no layer does. -/
inductive LastGiven {β : Type} (setting : Settings → Option β) (layers : List Settings) : Option β → Prop where
  | given {before after : List Settings} {layer : Settings} {value : β}
      (split : layers = before ++ layer :: after) (gives : setting layer = some value)
      (silent : ∀ later ∈ after, setting later = none) : LastGiven setting layers (some value)
  | unset (silent : ∀ layer ∈ layers, setting layer = none) : LastGiven setting layers none

/-- Whether each setting is the one that was given last. The settings are looked at one by one, so each may come from
another layer. -/
structure AreLast (layers : List Settings) (settings : Settings) : Prop where
  gutter : LastGiven Settings.gutter layers settings.gutter
  gutterHeight : LastGiven Settings.gutterHeight layers settings.gutterHeight
  columns : LastGiven Settings.columns layers settings.columns
  selector : LastGiven Settings.selector layers settings.selector

section Last

variable {β : Type} {setting : Settings → Option β} {layers below above : List Settings} {value : Option β}

/-- Of two groups of layers the upper one decides, if it gives a value at all. Otherwise it is as if it were not
there. -/
theorem LastGiven.append {lower upper : Option β} (hBelow : LastGiven setting below lower)
    (hAbove : LastGiven setting above upper) : LastGiven setting (below ++ above) (upper.or lower) := by
  cases hAbove with
  | @given before after layer found split gives silent =>
      subst split
      exact .given (List.append_assoc below before (layer :: after)).symm gives silent
  | unset silentAbove =>
      cases hBelow with
      | @given before after layer found split gives silent =>
          subst split
          apply LastGiven.given (List.append_assoc before (layer :: after) above) gives
          intro later hLater
          rcases List.mem_append.mp hLater with hLater | hLater
          · exact silent later hLater
          · exact silentAbove later hLater
      | unset silent =>
          apply LastGiven.unset
          intro layer hLayer
          rcases List.mem_append.mp hLayer with hLayer | hLayer
          · exact silent layer hLayer
          · exact silentAbove layer hLayer

theorem findSome?_reverse_of_silent (silent : ∀ layer ∈ layers, setting layer = none) :
    layers.reverse.findSome? setting = none := by
  rw [List.findSome?_eq_none_iff]
  intro layer hLayer
  exact silent layer (List.mem_reverse.mp hLayer)

/-- The value is found by a search from the last layer down, so there is only one. -/
theorem LastGiven.eq_findSome? (h : LastGiven setting layers value) :
    value = layers.reverse.findSome? setting := by
  cases h with
  | given split gives silent =>
      rw [split, List.reverse_append, List.reverse_cons, List.append_assoc, List.findSome?_append,
        findSome?_reverse_of_silent silent]
      simp [gives]
  | unset silent => exact (findSome?_reverse_of_silent silent).symm

/-- A layer that gives nothing changes nothing. In particular the unset settings below all others can be left out. -/
theorem LastGiven.of_cons {layer : Settings} (hLayer : setting layer = none)
    (h : LastGiven setting (layer :: layers) value) : LastGiven setting layers value := by
  cases h with
  | @given before after found value split gives silent =>
      cases before with
      | nil =>
          obtain ⟨rfl, -⟩ := List.cons.inj split
          rw [hLayer] at gives
          cases gives
      | cons first before => exact .given (List.cons.inj split).2 gives silent
  | unset silent => exact .unset (List.forall_mem_cons.mp silent).2

end Last

section Layers

variable {layers below above : List Settings} {settings lower upper : Settings}

/-- Layers come to one thing only, for each setting is found by a search that has one result. -/
theorem AreLast.unique (h : AreLast layers settings) {other : Settings} (hOther : AreLast layers other) :
    other = settings := by
  cases settings
  cases other
  congr 1
  · exact hOther.gutter.eq_findSome?.trans h.gutter.eq_findSome?.symm
  · exact hOther.gutterHeight.eq_findSome?.trans h.gutterHeight.eq_findSome?.symm
  · exact hOther.columns.eq_findSome?.trans h.columns.eq_findSome?.symm
  · exact hOther.selector.eq_findSome?.trans h.selector.eq_findSome?.symm

theorem areLast_single (settings : Settings) : AreLast [settings] settings := by
  have hOne {β : Type} (setting : Settings → Option β) :
      LastGiven setting [settings] (setting settings) := by
    cases hSetting : setting settings with
    | none => exact .unset (by simpa using hSetting)
    | some value => exact .given (List.nil_append _).symm hSetting (by simp)
  exact ⟨hOne _, hOne _, hOne _, hOne _⟩

/-- Groups of layers can be merged first and laid over each other then. -/
theorem AreLast.overlay (hBelow : AreLast below lower) (hAbove : AreLast above upper) :
    AreLast (below ++ above) (lower.overlay upper) :=
  ⟨hBelow.gutter.append hAbove.gutter, hBelow.gutterHeight.append hAbove.gutterHeight,
    hBelow.columns.append hAbove.columns, hBelow.selector.append hAbove.selector⟩

/-- However layers are grouped, of each setting the last value is left. -/
theorem Layering.areLast_merged (layering : Layering) : AreLast layering.layers layering.merged := by
  induction layering with
  | single settings => exact areLast_single settings
  | overlay below above ihBelow ihAbove => exact ihBelow.overlay ihAbove

theorem AreLast.foldl (h : AreLast below lower) (layers : List Settings) :
    AreLast (below ++ layers) (layers.foldl Settings.overlay lower) := by
  induction layers generalizing below lower with
  | nil =>
      rw [List.append_nil]
      exact h
  | cons layer rest ih =>
      rw [List.append_cons]
      exact ih (h.overlay (areLast_single layer))

theorem AreLast.of_unset (h : AreLast (.unset :: layers) settings) : AreLast layers settings :=
  ⟨h.gutter.of_cons rfl, h.gutterHeight.of_cons rfl, h.columns.of_cons rfl, h.selector.of_cons rfl⟩

end Layers

/-- Whether a literal is given that cannot be read, and what is said of it. -/
inductive IsRefused (α : Type) [Scalar α] : Option String → Length.BadLiteral → Prop where
  | literal {text : String} {e : Length.BadLiteral}
      (read : (Length.parse text : Except Length.BadLiteral (Length α)) = .error e) : IsRefused α (some text) e

section Options

variable {α : Type} [Scalar α]

/-- The length that a literal stands for. Where no literal is given, another length takes its place. -/
inductive Chooses (otherwise : Length α) : Option String → Length α → Prop where
  | literal {text : String} {l : Length α} (read : Length.parse text = .ok l) : Chooses otherwise (some text) l
  | unset : Chooses otherwise none otherwise

/-- A literal is refused just if the reader of settings fails on it, with the same message. -/
theorem isRefused_iff {given : Option String} {e : Length.BadLiteral} :
    IsRefused α given e ↔ (literal? given : Except Length.BadLiteral (Option (Length α))) = .error e := by
  cases given with
  | none =>
      constructor
      · intro h
        cases h
      · intro h
        cases h
  | some text =>
      rw [literal?]
      constructor
      · rintro ⟨read⟩
        rw [read]
        rfl
      · intro h
        cases hRead : (Length.parse text : Except Length.BadLiteral (Length α)) with
        | ok l =>
            rw [hRead] at h
            cases h
        | error found =>
            rw [hRead] at h
            cases h
            exact .literal hRead

/-- A length is chosen just if the reader of settings does not fail, and comes to that length or leaves it open. -/
theorem chooses_iff {given : Option String} {otherwise l : Length α} :
    Chooses otherwise given l ↔ ∃ read, literal? given = .ok read ∧ l = read.getD otherwise := by
  cases given with
  | none =>
      constructor
      · intro h
        cases h
        exact ⟨none, rfl, rfl⟩
      · rintro ⟨read, hRead, rfl⟩
        cases hRead
        exact .unset
  | some text =>
      rw [literal?]
      constructor
      · rintro ⟨read⟩
        rw [read]
        exact ⟨some l, rfl, rfl⟩
      · rintro ⟨read, hRead, rfl⟩
        cases hText : (Length.parse text : Except Length.BadLiteral (Length α)) with
        | ok found =>
            rw [hText] at hRead
            cases hRead
            exact .literal hText
        | error found =>
            rw [hText] at hRead
            cases hRead

/-- The gutter is read first, so the height is refused only if the gutter is not. -/
theorem options_eq_error_iff {settings : Settings} {e : Length.BadLiteral} :
    (settings.options : Except Length.BadLiteral (Options α)) = .error e ↔
      IsRefused α settings.gutter e ∨
        (∀ other, ¬IsRefused α settings.gutter other) ∧ IsRefused α settings.gutterHeight e := by
  simp only [isRefused_iff, options]
  cases (literal? settings.gutter : Except Length.BadLiteral (Option (Length α))) with
  | error first => simp [bind, Except.bind]
  | ok gutter =>
      cases (literal? settings.gutterHeight : Except Length.BadLiteral (Option (Length α))) <;>
        simp [bind, Except.bind]

/-- Options are made from the settings just if both lengths can be read. The gutter between rows falls back on the
other one, which may itself be the default. -/
theorem exists_options_iff {settings : Settings} {gutters : Gutters α} {columns : Option Nat} :
    (∃ o : Options α, settings.options = .ok o ∧ o.gutters = gutters ∧ o.columns = columns) ↔
      Chooses ⟨Scalar.natural 30, .px⟩ settings.gutter gutters.across ∧
        Chooses gutters.across settings.gutterHeight gutters.down ∧ columns = settings.columns := by
  obtain ⟨across, down⟩ := gutters
  simp only [chooses_iff, options]
  cases (literal? settings.gutter : Except Length.BadLiteral (Option (Length α))) with
  | error first => simp [bind, Except.bind]
  | ok gutter =>
      cases (literal? settings.gutterHeight : Except Length.BadLiteral (Option (Length α))) with
      | error second => simp [bind, Except.bind]
      | ok height =>
          constructor
          · rintro ⟨o, hOptions, hGutters, hColumns⟩
            cases hOptions
            cases hGutters
            exact ⟨⟨gutter, rfl, rfl⟩, ⟨height, rfl, rfl⟩, hColumns.symm⟩
          · rintro ⟨⟨read, hRead, rfl⟩, ⟨readHeight, hHeight, rfl⟩, rfl⟩
            cases hRead
            cases hHeight
            exact ⟨_, rfl, rfl, rfl⟩

end Options

/-- Layers that are laid over the unset settings, one after the other or in any other grouping, come to one thing: of
each setting, what the last layer says that gives it. A layout is refused just if the gutter that counts cannot be
read, or else the gutter height that counts, and then for the first of the two. Otherwise it has the gutter that
counts, or one of thirty pixels, the height that counts, or again the gutter, and the columns that count. -/
theorem options_of_layers (α : Type) [Scalar α] (layers : List Settings) (layering : Layering)
    (hLayers : layering.layers = .unset :: layers) :
    layering.merged = layers.foldl Settings.overlay .unset ∧
    (∀ settings, AreLast layers settings ↔ settings = layering.merged) ∧
    (∀ e, (layering.merged.options : Except Length.BadLiteral (Options α)) = .error e ↔
      IsRefused α layering.merged.gutter e ∨
        (∀ other, ¬IsRefused α layering.merged.gutter other) ∧ IsRefused α layering.merged.gutterHeight e) ∧
    ∀ (gutters : Gutters α) columns,
      (∃ o : Options α, layering.merged.options = .ok o ∧ o.gutters = gutters ∧ o.columns = columns) ↔
        Chooses ⟨Scalar.natural 30, .px⟩ layering.merged.gutter gutters.across ∧
          Chooses gutters.across layering.merged.gutterHeight gutters.down ∧
          columns = layering.merged.columns := by
  have hMerged : AreLast (.unset :: layers) layering.merged := hLayers ▸ layering.areLast_merged
  have hFold : AreLast (.unset :: layers) (layers.foldl Settings.overlay .unset) :=
    (areLast_single .unset).foldl layers
  refine ⟨hFold.unique hMerged, ?_, fun e => options_eq_error_iff, fun gutters columns => exists_options_iff⟩
  intro settings
  constructor
  · intro h
    exact hMerged.of_unset.unique h
  · rintro rfl
    exact hMerged.of_unset

/-- A gutter that cannot be read under one that can, a height that only the layer between them gives, and the two upper
layers merged first. -/
theorem options_of_three_layers :
    let low : Settings := ⟨some "wide", none, some 6, none⟩
    let middle : Settings := ⟨none, some " 1.5em ", none, none⟩
    let high : Settings := ⟨some "12px", none, none, some ".flag"⟩
    let layering : Layering :=
      .overlay (.overlay (.single .unset) (.single low)) (.overlay (.single middle) (.single high))
    layering.layers = [.unset, low, middle, high] ∧ IsRefused Rat low.gutter ⟨"wide"⟩ ∧
      layering.merged = ⟨some "12px", some " 1.5em ", some 6, some ".flag"⟩ ∧
      ∃ o : Options Rat, layering.merged.options = .ok o ∧
        o.gutters = ⟨⟨12, .px⟩, ⟨3 / 2, .em⟩⟩ ∧ o.columns = some 6 := by
  intro low middle high layering
  have hLayers : layering.layers = [.unset, low, middle, high] := rfl
  obtain ⟨hFold, -, -, hOptions⟩ := options_of_layers Rat [low, middle, high] layering hLayers
  have hGutter : Length.parse "12px" = .ok (⟨12, .px⟩ : Length Rat) := rfl
  have hTrimmed : Length.ofLiteral? (Text.trim " 1.5em ".toList) = some (⟨3 / 2, .em⟩ : Length Rat) := by
    decide +kernel
  have hHeight : Length.parse " 1.5em " = .ok (⟨3 / 2, .em⟩ : Length Rat) := by
    rw [Length.parse, hTrimmed]
  exact ⟨hLayers, .literal rfl, hFold, (hOptions ⟨_, _⟩ _).mpr ⟨.literal hGutter, .literal hHeight, rfl⟩⟩

end Settings

end FlexGrid
