/-
  Cidre.NiriConfig.Flattened

  What a list of sections amounts to, kind by kind: lists are concatenated,
  merged sections folded, single values taken from the last section and binds
  from the last definition of their key.  With the inlining of the files this is
  the meaning of a config with includes (`Config.parse_inlines`).
-/

import Cidre.NiriConfig.Termination

namespace Cidre.NiriConfig

open Override (Last override)

universe u v w x

/-! ## One component of a folded state -/

/-- A component that a step changes by `g` for the entries `pick` picks, and
    leaves alone otherwise, is the fold of `g` over what is picked. -/
theorem foldl_component {σ : Type u} {ε : Type v} {β : Type w} {γ : Type x} {step : σ → ε → σ}
    {pick : ε → Option γ} {g : β → γ → β} (view : σ → β)
    (h : ∀ s e, view (step s e) = (pick e).elim (view s) (g (view s))) (s : σ) (es : List ε) :
    view (es.foldl step s) = (es.filterMap pick).foldl g (view s) := by
  induction es generalizing s with
  | nil => rfl
  | cons e es ih =>
    rw [List.foldl_cons, ih, h]
    cases hpick : pick e with
    | none => rw [List.filterMap_cons_none hpick]; rfl
    | some c => rw [List.filterMap_cons_some hpick]; rfl

theorem foldl_snoc {α : Type u} (start es : List α) :
    es.foldl (fun l e => l ++ [e]) start = start ++ es := by
  induction es generalizing start with
  | nil => exact (List.append_nil start).symm
  | cons e es ih => rw [List.foldl_cons, ih, List.append_assoc, List.singleton_append]

theorem foldl_append_flatten {α : Type u} (start : List α) (es : List (List α)) :
    es.foldl (fun l e => l ++ e) start = start ++ es.flatten := by
  induction es generalizing start with
  | nil => exact (List.append_nil start).symm
  | cons e es ih => rw [List.foldl_cons, ih, List.flatten_cons, List.append_assoc]

theorem foldl_last {α : Type u} (start : α) (es : List α) :
    es.foldl (fun _ e => e) start = es.getLast?.getD start := by
  induction es generalizing start with
  | nil => rfl
  | cons e es ih =>
    rw [List.foldl_cons, ih, List.getLast?_cons]
    rfl

theorem foldl_latest {α : Type u} (start : Option α) (es : List α) :
    es.foldl (fun _ e => some e) start = es.getLast?.or start := by
  induction es generalizing start with
  | nil => rfl
  | cons e es ih =>
    rw [List.foldl_cons, ih, List.getLast?_cons]
    cases es.getLast? <;> rfl

/-! ## The sections of each kind -/

variable {S : Schema}

namespace Section

def mergedPart? (m : Merged) : Section S → Option (S.MergedPart m)
  | merged m' part => if h : m' = m then some (h ▸ part) else none
  | _ => none

def pushed? (p : Pushed) : Section S → Option (S.Entry p)
  | pushed p' entry => if h : p' = p then some (h ▸ entry) else none
  | _ => none

@[simp] theorem mergedPart?_self (m : Merged) (part : S.MergedPart m) :
    (merged m part).mergedPart? m = some part := dif_pos rfl

theorem mergedPart?_of_ne {m m' : Merged} (h : m' ≠ m) (part : S.MergedPart m') :
    (merged m' part).mergedPart? m = none := dif_neg h

@[simp] theorem pushed?_self (p : Pushed) (entry : S.Entry p) :
    (pushed p entry).pushed? p = some entry := dif_pos rfl

theorem pushed?_of_ne {p p' : Pushed} (h : p' ≠ p) (entry : S.Entry p') :
    (pushed p' entry).pushed? p = none := dif_neg h

def actionPalette? : Section S → Option ActionPalettePart
  | actionPalette part => some part
  | _ => none

def workspace? : Section S → Option (Workspace S)
  | workspace entry => some entry
  | _ => none

def activeAnimationProfile? : Section S → Option String
  | activeAnimationProfile name => some name
  | _ => none

def binds? : Section S → Option (List Bind)
  | binds part => some part
  | _ => none

def environment? : Section S → Option (List (String × Option String))
  | environment part => some part
  | _ => none

def preferNoCsd? : Section S → Option Bool
  | preferNoCsd flag => some flag
  | _ => none

def screenshotPath? : Section S → Option (Option String)
  | screenshotPath path => some path
  | _ => none

def layout? : Section S → Option (LayoutPart S)
  | layout part => some part
  | _ => none

def recentWindows? : Section S → Option (RecentWindowsPart S)
  | recentWindows part => some part
  | _ => none

end Section

/-- The recent windows the sections are merged into: the default binds go as soon
    as one section has binds. -/
def RecentWindows.start (parts : List (RecentWindowsPart S)) : RecentWindows S :=
  if parts.any (·.binds.isSome) then { RecentWindows.default with binds := [] }
  else RecentWindows.default

/-- The definition of a key that counts: the one of the palette, or else the last
    one of the sections. -/
def Binding (palette : Option Bind) (parts : List (Section S)) (bind : Bind) : Prop :=
  palette = some bind ∨
    (∀ p ∈ palette, p.key ≠ bind.key) ∧
      Last Bind.key (parts.filterMap Section.binds?).flatten bind

/-- The config is what the sections amount to, in their order. -/
structure Reflects (env : Env S) (config : Config S) (parts : List (Nat × Section S)) : Prop where
  pushed : ∀ p, config.pushed p = (parts.map Prod.snd).filterMap (Section.pushed? p)
  workspaces : config.workspaces = (parts.map Prod.snd).filterMap Section.workspace?
  environment : config.environment =
    ((parts.map Prod.snd).filterMap Section.environment?).flatten
  merged : ∀ m, config.merged m = ((parts.map Prod.snd).filterMap (Section.mergedPart? m)).foldl
    (S.mergeWith m) (S.mergedDefault m)
  actionPalette : config.actionPalette =
    ((parts.map Prod.snd).filterMap Section.actionPalette?).foldl ActionPalette.mergeWith {}
  layout : config.layout = (parts.filterMap fun x => x.2.layout?.map (·.located x.1)).foldl
    Layout.mergeWith Layout.default
  recentWindows : config.recentWindows =
    ((parts.map Prod.snd).filterMap Section.recentWindows?).foldl RecentWindows.mergeWith
      (RecentWindows.start ((parts.map Prod.snd).filterMap Section.recentWindows?))
  activeAnimationProfile : config.activeAnimationProfile =
    ((parts.map Prod.snd).filterMap Section.activeAnimationProfile?).getLast?
  preferNoCsd : config.preferNoCsd =
    ((parts.map Prod.snd).filterMap Section.preferNoCsd?).getLast?.getD false
  screenshotPath : config.screenshotPath =
    ((parts.map Prod.snd).filterMap Section.screenshotPath?).getLast?.getD
      (Config.default (S := S)).screenshotPath
  bindsDistinct : (config.binds.map Bind.key).Nodup
  binds : ∀ bind, bind ∈ config.binds ↔
    Binding (paletteBind env config.actionPalette) (parts.map Prod.snd) bind

/-! ## The config after the sections -/

/-- Merging into recent windows, the default binds going at the first part that
    has binds. -/
def mergeRecent (x : RecentWindows S × Bool) (part : RecentWindowsPart S) :
    RecentWindows S × Bool :=
  let clear := !x.2 && part.binds.isSome
  ((if clear then { x.1 with binds := [] } else x.1).mergeWith part, x.2 || clear)

theorem foldl_mergeRecent (r : RecentWindows S) (saw : Bool) (parts : List (RecentWindowsPart S)) :
    (parts.foldl mergeRecent (r, saw)).1 = parts.foldl RecentWindows.mergeWith
      (if !saw && parts.any (·.binds.isSome) then { r with binds := [] } else r) := by
  induction parts generalizing r saw with
  | nil => rw [List.any_nil, Bool.and_false]; rfl
  | cons part parts ih =>
    rw [List.foldl_cons, List.foldl_cons, List.any_cons,
      ← Prod.mk.eta (p := mergeRecent (r, saw) part), ih]
    unfold mergeRecent
    cases saw with
    | true => rfl
    | false =>
      cases hbinds : part.binds with
      | some binds => rfl
      | none =>
        -- A part without binds keeps them as they are, cleared or not.
        cases parts.any (·.binds.isSome) with
        | false => rfl
        | true =>
          refine congrArg (List.foldl RecentWindows.mergeWith · parts) ?_
          show { r.mergeWith part with binds := [] } =
            ({ r with binds := [] } : RecentWindows S).mergeWith part
          unfold RecentWindows.mergeWith
          rw [hbinds]

namespace Settings

section Components

variable (s : Settings S) (parts : List (Nat × Section S))

theorem applyAll_merged (m : Merged) :
    (s.applyAll parts).config.merged m =
      ((parts.map Prod.snd).filterMap (Section.mergedPart? m)).foldl (S.mergeWith m)
        (s.config.merged m) := by
  rw [List.filterMap_map]
  refine foldl_component (fun s : Settings S => s.config.merged m) ?_ s parts
  rintro s ⟨depth, part⟩
  cases part with
  | merged m' part =>
    show Function.update s.config.merged m' _ m =
      ((Section.merged m' part).mergedPart? m).elim _ _
    by_cases h : m' = m
    · cases h
      rw [Function.update_self, Section.mergedPart?_self]
      rfl
    · rw [Function.update_of_ne (Ne.symm h), Section.mergedPart?_of_ne h]
      rfl
  | _ => rfl

theorem applyAll_pushed (p : Pushed) :
    (s.applyAll parts).config.pushed p =
      s.config.pushed p ++ (parts.map Prod.snd).filterMap (Section.pushed? p) := by
  rw [List.filterMap_map, ← foldl_snoc]
  refine foldl_component (fun s : Settings S => s.config.pushed p) ?_ s parts
  rintro s ⟨depth, part⟩
  cases part with
  | pushed p' entry =>
    show Function.update s.config.pushed p' _ p =
      ((Section.pushed p' entry).pushed? p).elim _ _
    by_cases h : p' = p
    · cases h
      rw [Function.update_self, Section.pushed?_self]
      rfl
    · rw [Function.update_of_ne (Ne.symm h), Section.pushed?_of_ne h]
      rfl
  | _ => rfl

theorem applyAll_workspaces :
    (s.applyAll parts).config.workspaces =
      s.config.workspaces ++ (parts.map Prod.snd).filterMap Section.workspace? := by
  rw [List.filterMap_map, ← foldl_snoc]
  refine foldl_component (fun s : Settings S => s.config.workspaces) ?_ s parts
  rintro s ⟨depth, part⟩
  cases part <;> rfl

theorem applyAll_environment :
    (s.applyAll parts).config.environment = s.config.environment ++
      ((parts.map Prod.snd).filterMap Section.environment?).flatten := by
  rw [List.filterMap_map, ← foldl_append_flatten]
  refine foldl_component (fun s : Settings S => s.config.environment) ?_ s parts
  rintro s ⟨depth, part⟩
  cases part <;> rfl

theorem applyAll_actionPalette :
    (s.applyAll parts).config.actionPalette =
      ((parts.map Prod.snd).filterMap Section.actionPalette?).foldl ActionPalette.mergeWith
        s.config.actionPalette := by
  rw [List.filterMap_map]
  refine foldl_component (fun s : Settings S => s.config.actionPalette) ?_ s parts
  rintro s ⟨depth, part⟩
  cases part <;> rfl

theorem applyAll_activeAnimationProfile :
    (s.applyAll parts).config.activeAnimationProfile =
      ((parts.map Prod.snd).filterMap Section.activeAnimationProfile?).getLast?.or
        s.config.activeAnimationProfile := by
  rw [List.filterMap_map, ← foldl_latest]
  refine foldl_component (fun s : Settings S => s.config.activeAnimationProfile) ?_ s parts
  rintro s ⟨depth, part⟩
  cases part <;> rfl

theorem applyAll_preferNoCsd :
    (s.applyAll parts).config.preferNoCsd =
      ((parts.map Prod.snd).filterMap Section.preferNoCsd?).getLast?.getD
        s.config.preferNoCsd := by
  rw [List.filterMap_map, ← foldl_last]
  refine foldl_component (fun s : Settings S => s.config.preferNoCsd) ?_ s parts
  rintro s ⟨depth, part⟩
  cases part <;> rfl

theorem applyAll_screenshotPath :
    (s.applyAll parts).config.screenshotPath =
      ((parts.map Prod.snd).filterMap Section.screenshotPath?).getLast?.getD
        s.config.screenshotPath := by
  rw [List.filterMap_map, ← foldl_last]
  refine foldl_component (fun s : Settings S => s.config.screenshotPath) ?_ s parts
  rintro s ⟨depth, part⟩
  cases part <;> rfl

theorem applyAll_layout :
    (s.applyAll parts).config.layout =
      (parts.filterMap fun x => x.2.layout?.map (·.located x.1)).foldl Layout.mergeWith
        s.config.layout := by
  refine foldl_component (fun s : Settings S => s.config.layout) ?_ s parts
  rintro s ⟨depth, part⟩
  cases part <;> rfl

theorem applyAll_recentWindows :
    (s.applyAll parts).config.recentWindows =
      (((parts.map Prod.snd).filterMap Section.recentWindows?).foldl mergeRecent
        (s.config.recentWindows, s.sawMruBinds)).1 := by
  rw [List.filterMap_map]
  refine congrArg Prod.fst (foldl_component
    (fun s : Settings S => (s.config.recentWindows, s.sawMruBinds)) ?_ s parts)
  rintro s ⟨depth, part⟩
  cases part <;> rfl

theorem applyAll_binds :
    (s.applyAll parts).config.binds =
      ((parts.map Prod.snd).filterMap Section.binds?).foldl (override Bind.key)
        s.config.binds := by
  rw [List.filterMap_map]
  refine foldl_component (fun s : Settings S => s.config.binds) ?_ s parts
  rintro s ⟨depth, part⟩
  cases part <;> rfl

end Components

end Settings

/-! ## The binds of one section -/

variable {env : Env S}

/-- The loop over the binds keeps their keys distinct. -/
theorem decodeBindNodes_nodup {nodes : List Node} {binds binds' : List Bind}
    (hbinds : (binds.map Bind.key).Nodup)
    (h : (decodeBindNodes env nodes binds).Clean binds') : (binds'.map Bind.key).Nodup := by
  induction nodes generalizing binds with
  | nil =>
    cases Decode.clean_pure.mp h
    exact hbinds
  | cons child rest ih =>
    unfold decodeBindNodes at h
    obtain ⟨result, -, h⟩ := Decode.clean_bind.mp h
    cases result with
    | error e =>
      obtain ⟨_, hemit, -⟩ := Decode.clean_bind.mp h
      exact absurd hemit Decode.not_clean_emit
    | ok bind =>
      dsimp only at h
      split at h
      · obtain ⟨_, hemit, -⟩ := Decode.clean_bind.mp h
        exact nomatch hemit.2
      · rename_i hfree
        refine ih ?_ h
        rw [List.map_append, List.map_singleton]
        refine List.nodup_append.mpr ⟨hbinds, List.nodup_singleton _, ?_⟩
        rintro k hk k' hk' rfl
        obtain ⟨b, hb, rfl⟩ := List.mem_map.mp hk
        rw [Bool.not_eq_true, List.any_eq_false] at hfree
        exact hfree b hb (decide_eq_true (List.mem_singleton.mp hk'))

theorem decodeOwnSection_binds {node : Node} {decoded : Decode (Section S)} {part : Section S}
    {binds : List Bind} (h : decodeOwnSection env node = some decoded)
    (hclean : decoded.Clean part) (hbinds : part.binds? = some binds) :
    (decodeBinds env node).Clean binds := by
  unfold decodeOwnSection at h
  split at h
  case h_3 =>
    cases h
    obtain ⟨bs, hbs, rfl⟩ := Decode.clean_map.mp hclean
    cases hbinds
    exact hbs
  case h_9 =>
    split at h
    · cases h
      obtain ⟨_, -, rfl⟩ := Decode.clean_map.mp hclean
      exact nomatch hbinds
    split at h
    · cases h
      obtain ⟨_, -, rfl⟩ := Decode.clean_map.mp hclean
      exact nomatch hbinds
    · exact nomatch h
  all_goals
    cases h
    obtain ⟨_, -, rfl⟩ := Decode.clean_map.mp hclean
    exact nomatch hbinds

theorem Spells.binds_nodup {node : Node} {part : Section S} {binds : List Bind}
    (h : Spells env node part) (hbinds : part.binds? = some binds) :
    (binds.map Bind.key).Nodup := by
  obtain ⟨decoded, names, hdecoded, hclean⟩ := h
  unfold decodeSection at hdecoded
  split at hdecoded
  · cases hdecoded
    obtain ⟨_, -, heq⟩ := Decode.clean_map.mp hclean
    cases heq
    exact nomatch hbinds
  · obtain ⟨own, hown, rfl⟩ := Option.map_eq_some_iff.mp hdecoded
    obtain ⟨p, hp, heq⟩ := Decode.clean_map.mp hclean
    cases heq
    have hdecode := decodeOwnSection_binds hown hp hbinds
    obtain ⟨_, -, hnodes⟩ := Decode.clean_bind.mp hdecode
    have hnil : (([] : List Bind).map Bind.key).Nodup := List.nodup_nil
    exact decodeBindNodes_nodup hnil hnodes

theorem Inlined.binds_nodup {depth : Nat} {base : Path} {nodes : List Node}
    {parts : List (Nat × Section S)} (h : Inlined env depth base nodes parts) :
    ∀ g ∈ (parts.map Prod.snd).filterMap Section.binds?, (g.map Bind.key).Nodup := by
  induction h with
  | nil => exact fun g hg => absurd hg List.not_mem_nil
  | own name spells rest ih =>
    intro g hg
    rw [List.map_cons] at hg
    obtain ⟨part, hpart, hbinds⟩ := List.mem_filterMap.mp hg
    rcases List.mem_cons.mp hpart with rfl | hpart
    · exact spells.binds_nodup hbinds
    · exact ih g (List.mem_filterMap.mpr ⟨part, hpart, hbinds⟩)
  | file name target read parsed inner rest ihInner ihRest =>
    intro g hg
    rw [List.map_append, List.filterMap_append] at hg
    exact (List.mem_append.mp hg).elim (ihInner g) (ihRest g)
  | absent name target read missing rest ih => exact ih

/-! ## The config of the files -/

/-- The palette's bind takes the place of the one under its key. -/
theorem mem_override_palette {palette : Option Bind} {binds : List Bind} {bind : Bind} :
    bind ∈ override Bind.key binds palette.toList ↔
      palette = some bind ∨ (∀ p ∈ palette, p.key ≠ bind.key) ∧ bind ∈ binds := by
  rw [Override.mem_override, Option.mem_toList, and_comm]
  exact or_congr_right (and_congr_left' (forall_congr' fun p => by
    rw [Option.mem_toList, Option.mem_def]))

/-- The config of a file that stands for the sections `parts`. -/
theorem reflects_of_inlined {depth : Nat} {base : Path} {nodes : List Node}
    {parts : List (Nat × Section S)} {s : Settings S}
    (h : Inlined env depth base nodes parts)
    (hs : s = Settings.applyAll ⟨Config.default, false⟩ parts) :
    Reflects env
      { s.config with
        binds := override Bind.key s.config.binds
          (paletteBind env s.config.actionPalette).toList } parts := by
  subst hs
  have hgroups := h.binds_nodup
  have hempty : ((Config.default (S := S)).binds.map Bind.key).Nodup := List.nodup_nil
  refine
    { pushed := fun p => Settings.applyAll_pushed _ _ p
      workspaces := Settings.applyAll_workspaces _ _
      environment := Settings.applyAll_environment _ _
      merged := fun m => Settings.applyAll_merged _ _ m
      actionPalette := Settings.applyAll_actionPalette _ _
      layout := Settings.applyAll_layout _ _
      recentWindows := ?_
      activeAnimationProfile := ?_
      preferNoCsd := Settings.applyAll_preferNoCsd _ _
      screenshotPath := Settings.applyAll_screenshotPath _ _
      bindsDistinct := ?_
      binds := fun bind => ?_ }
  · exact (Settings.applyAll_recentWindows _ _).trans (foldl_mergeRecent _ _ _)
  · exact (Settings.applyAll_activeAnimationProfile _ _).trans Option.or_none
  · refine Override.nodup_override ?_ ?_
    · rw [Settings.applyAll_binds]
      exact Override.nodup_foldl_override hgroups hempty
    · cases paletteBind env (Settings.applyAll ⟨Config.default, false⟩ parts).config.actionPalette
      · exact List.nodup_nil
      · exact List.nodup_singleton _
  · rw [mem_override_palette, Settings.applyAll_binds, Override.mem_foldl_override hgroups]
    exact or_congr_right (and_congr_right fun _ =>
      or_iff_left fun hdefault => absurd hdefault.1 List.not_mem_nil)

/-- Parsing ends, and a config that parses is what the sections of its files
    amount to, with each include replaced by the file it names. -/
theorem Config.parse_inlines (env : Env S) (path : Path) (text : String) :
    ∃ result : ConfigParseResult S,
      (∀ fuel, recursionLimit ≤ fuel → Config.parse env fuel path text = some result) ∧
      ∀ config, result.config = .ok config →
        ∃ nodes parts, env.parseDocument text = .ok nodes ∧
          (∀ parts', Inlined env 0 (path.parent.getD .empty) nodes parts' ↔ parts' = parts) ∧
          Reflects env config parts := by
  obtain ⟨result, hresult⟩ := Config.parse_terminates env path text
  refine ⟨result, hresult, fun config hconfig => ?_⟩
  have hparse := hresult recursionLimit (Nat.le_refl _)
  unfold Config.parse at hparse
  split at hparse
  · exact nomatch hparse
  · cases hparse
    exact nomatch hconfig
  · rename_i shared hrun
    cases hparse
    cases hconfig
    obtain ⟨nodes, parts, hnodes, hinlined, hsettings⟩ :=
      parseWithContext_inlines recursionLimit _ _ _ _ _ hrun
    exact ⟨nodes, parts, hnodes, fun parts' => ⟨fun h => h.unique hinlined, fun h => h ▸ hinlined⟩,
      reflects_of_inlined hinlined hsettings⟩

/-! ## The border -/

/-- Sections with nothing in them but what the rules look at. -/
def emptySchema : Schema where
  MergedValue := fun _ => Unit
  MergedPart := fun _ => Unit
  mergedDefault := fun _ => ()
  mergeWith := fun _ _ _ => ()
  Entry := fun _ => Unit
  BorderLook := Unit
  BorderLookPart := Unit
  borderLookDefault := ()
  mergeBorderLook := fun _ _ => ()
  LayoutRest := Unit
  LayoutRestPart := Unit
  layoutRestDefault := ()
  mergeLayoutRest := fun _ _ => ()
  MruLook := Unit
  MruLookPart := Unit
  mruLookDefault := ()
  mergeMruLook := fun _ _ => ()
  WorkspaceRest := Unit

/-- Every document is `layout { border {} }`. -/
def borderEnv : Env emptySchema where
  homeDir := none
  readToString := fun _ => .error ⟨true, "not found"⟩
  trim := id
  escapeDefault := id
  debugPath := Path.text
  keysymFromName := fun _ _ => keysymNone
  parseDocument := fun _ =>
    .ok [.mk none "layout" [] [] [.mk none "border" [] [] []]]
  scalarString := fun _ => .ok ""
  scalarBool := fun _ => .ok false
  scalarPath := fun _ => .ok .empty
  scalarMillis := fun _ => .ok 0
  scalarTitle := fun _ => .ok none
  action := fun _ => .ok (.spawn [])
  mergedPart := fun _ _ => .ok ()
  entry := fun _ _ => .ok ()
  actionPalettePart := fun _ => .ok ⟨none, none, none, none, none, none⟩
  environment := fun _ => .ok []
  flag := fun _ => .ok true
  screenshotPath := fun _ => .ok none
  layoutPart := fun _ => .ok ⟨some ⟨false, false, ()⟩, ()⟩
  recentWindowsPart := fun _ => .ok ⟨false, false, none, none, (), none⟩
  workspaceRest := fun _ => .ok ()

/-- The layout is not the plain fold of its sections: `layout { border {} }` in
    the main file turns the border on, and merging the section does not. -/
theorem border_depends_on_depth :
    ¬∀ (S : Schema) (env : Env S) (path : Path) (text : String) (config : Config S)
      (includes : List Path) (nodes : List Node) (parts : List (Nat × Section S)),
      Config.parse env recursionLimit path text = some ⟨.ok config, includes⟩ →
      env.parseDocument text = .ok nodes →
      Inlined env 0 (path.parent.getD .empty) nodes parts →
      config.layout = ((parts.map Prod.snd).filterMap Section.layout?).foldl
        Layout.mergeWith Layout.default := by
  intro hclaim
  have hinlined : Inlined borderEnv 0 .empty
      [.mk none "layout" [] [] [.mk none "border" [] [] []]]
      [(0, .layout ⟨some ⟨false, false, ()⟩, ()⟩)] :=
    .own (by decide) ⟨_, [], rfl, ⟨rfl, rfl⟩⟩ .nil
  have hlayout := hclaim emptySchema borderEnv ⟨false, [.normal "config.kdl"]⟩ "" _ _ _ _
    rfl rfl hinlined
  exact absurd (congrArg (fun l => l.border.off) hlayout) (by decide)

end Cidre.NiriConfig
