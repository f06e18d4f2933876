/-
  Cidre.NiriConfig.Inlining

  Includes as textual inlining.  `Inlined` says which sections a file stands for
  once every include is replaced by the file it names; a config that parses is
  what these sections amount to, one after the other (`Reflects`).  Parsing ends
  on every file system, as each include is one level deeper and the limit stops
  them all the same (`parse_inlines`).

  Two kinds of sections are not a plain left fold of `merge_with`, on purpose: an
  empty border in the main file turns the border on (`border_depends_on_depth`),
  and the first recent-windows binds clear the default ones.
-/

import Cidre.NiriConfig.Parse

namespace Cidre.NiriConfig

open Override (Last override)

variable {S : Schema} (env : Env S)

/-! ## Inlining -/

/-- The section a node spells on its own, with nothing wrong about it. -/
def Spells (node : Node) (part : Section S) : Prop :=
  ∃ decoded names, decodeSection env [] node = some decoded ∧ decoded.Clean (part, names)

/-- The file an include stands for, and whether it may be missing. -/
def Targets (base : Path) (node : Node) (path : Path) (isOptional : Bool) : Prop :=
  ∃ spelled, (includeArguments env node).Clean (spelled, isOptional) ∧
    includedPath env base spelled = .ok path

/-- The sections of a file at some depth, with the ones of the files it includes
    in the place of the includes.  Each comes with the depth of its file. -/
inductive Inlined : Nat → Path → List Node → List (Nat × Section S) → Prop
  | nil {depth : Nat} {base : Path} : Inlined depth base [] []
  | own {depth : Nat} {base : Path} {node : Node} {nodes : List Node} {part : Section S}
      {parts : List (Nat × Section S)} (name : node.name ≠ "include")
      (spells : Spells env node part) (rest : Inlined depth base nodes parts) :
      Inlined depth base (node :: nodes) ((depth, part) :: parts)
  | file {depth : Nat} {base path : Path} {node : Node} {nodes document : List Node}
      {isOptional : Bool} {text : String} {included parts : List (Nat × Section S)}
      (name : node.name = "include") (target : Targets env base node path isOptional)
      (read : env.readToString path = .ok text) (parsed : env.parseDocument text = .ok document)
      (inner : Inlined (depth + 1) (path.parent.getD .empty) document included)
      (rest : Inlined depth base nodes parts) :
      Inlined depth base (node :: nodes) (included ++ parts)
  | absent {depth : Nat} {base path : Path} {node : Node} {nodes : List Node}
      {err : ReadError} {parts : List (Nat × Section S)} (name : node.name = "include")
      (target : Targets env base node path true) (read : env.readToString path = .error err)
      (missing : err.notFound = true) (rest : Inlined depth base nodes parts) :
      Inlined depth base (node :: nodes) parts

variable {env}

theorem Spells.unique {node : Node} {p q : Section S} (hp : Spells env node p)
    (hq : Spells env node q) : p = q := by
  obtain ⟨x, names, hx, hcleanx⟩ := hp
  obtain ⟨y, names', hy, hcleany⟩ := hq
  cases hx.symm.trans hy
  exact (Prod.mk.inj (Except.ok.inj (hcleanx.1.symm.trans hcleany.1))).1

theorem Targets.unique {base : Path} {node : Node} {p q : Path} {o o' : Bool}
    (hp : Targets env base node p o) (hq : Targets env base node q o') : p = q := by
  obtain ⟨x, hcleanx, hx⟩ := hp
  obtain ⟨y, hcleany, hy⟩ := hq
  cases (Prod.mk.inj (Except.ok.inj (hcleanx.1.symm.trans hcleany.1))).1
  exact Except.ok.inj (hx.symm.trans hy)

/-- A file stands for one list of sections. -/
theorem Inlined.unique {depth : Nat} {base : Path} {nodes : List Node}
    {parts parts' : List (Nat × Section S)} (h : Inlined env depth base nodes parts)
    (h' : Inlined env depth base nodes parts') : parts = parts' := by
  induction h generalizing parts' with
  | nil => cases h'; rfl
  | own name spells rest ih =>
    cases h' with
    | own name' spells' rest' => rw [spells.unique spells', ih rest']
    | file name' => exact absurd name' name
    | absent name' => exact absurd name' name
  | file name target read parsed inner rest ihInner ihRest =>
    cases h' with
    | own name' => exact absurd name name'
    | file name' target' read' parsed' inner' rest' =>
      cases target.unique target'
      cases Except.ok.inj (read.symm.trans read')
      cases Except.ok.inj (parsed.symm.trans parsed')
      rw [ihInner inner', ihRest rest']
    | absent name' target' read' =>
      cases target.unique target'
      exact nomatch read.symm.trans read'
  | absent name target read missing rest ih =>
    cases h' with
    | own name' => exact absurd name name'
    | file name' target' read' =>
      cases target.unique target'
      exact nomatch read.symm.trans read'
    | absent name' target' read' missing' rest' => exact ih rest'

/-! ## A file that parses -/

/-- Sections applied one after the other, each with the depth of its file. -/
def Settings.applyAll (s : Settings S) (parts : List (Nat × Section S)) : Settings S :=
  parts.foldl (fun s x => s.apply x.1 x.2) s

@[simp] theorem Settings.applyAll_nil (s : Settings S) : s.applyAll [] = s := rfl

theorem Settings.applyAll_append (s : Settings S) (parts more : List (Nat × Section S)) :
    s.applyAll (parts ++ more) = (s.applyAll parts).applyAll more :=
  List.foldl_append

/-- A name that is accepted among other names is accepted on its own. -/
theorem workspaceName_alone {names names' : List String} {val : Value} {name : String}
    (h : (workspaceName names val).Clean (name, names')) :
    ∃ names'', (workspaceName [] val).Clean (name, names'') := by
  unfold workspaceName at h ⊢
  obtain ⟨u, htype, h⟩ := Decode.clean_bind.mp h
  cases hval : val.literal with
  | string s =>
    rw [hval] at h
    dsimp only at h
    split at h
    · obtain ⟨_, hemit, -⟩ := Decode.clean_bind.mp h
      exact absurd hemit Decode.not_clean_emit
    · cases Decode.clean_pure.mp h
      exact ⟨[] ++ [name], Decode.clean_bind.mpr ⟨u, htype, Decode.clean_pure.mpr rfl⟩⟩
  | null | bool b | int digits | decimal digits =>
    rw [hval] at h
    obtain ⟨_, hemit, -⟩ := Decode.clean_bind.mp h
    exact absurd hemit Decode.not_clean_emit

theorem decodeWorkspace_alone {names names' : List String} {node : Node} {w : Workspace S}
    (h : (decodeWorkspace env names node).Clean (w, names')) :
    ∃ names'', (decodeWorkspace env [] node).Clean (w, names'') := by
  unfold decodeWorkspace at h ⊢
  cases hargs : node.arguments with
  | nil =>
    rw [hargs] at h
    exact nomatch h.1
  | cons val extra =>
    rw [hargs] at h
    obtain ⟨⟨name, _⟩, hname, h⟩ := Decode.clean_bind.mp h
    obtain ⟨rest, hrest, h⟩ := Decode.clean_bind.mp h
    obtain ⟨names'', halone⟩ := workspaceName_alone hname
    cases Decode.clean_pure.mp h
    exact ⟨names'', Decode.clean_bind.mpr ⟨(name, names''), halone,
      Decode.clean_bind.mpr ⟨rest, hrest, Decode.clean_pure.mpr rfl⟩⟩⟩

/-- A section that decodes with nothing wrong is the one its node spells,
    whatever workspaces came before. -/
theorem spells_of_clean {names names' : List String} {node : Node}
    {decoded : Decode (Section S × List String)} {part : Section S}
    (h : decodeSection env names node = some decoded) (hclean : decoded.Clean (part, names')) :
    Spells env node part := by
  unfold Spells decodeSection
  unfold decodeSection at h
  split at h
  · rename_i hname
    rw [if_pos hname]
    cases h
    obtain ⟨⟨w, ws⟩, hw, heq⟩ := Decode.clean_map.mp hclean
    cases heq
    obtain ⟨names'', hw⟩ := decodeWorkspace_alone hw
    exact ⟨_, names'', rfl, Decode.clean_map.mpr ⟨_, hw, rfl⟩⟩
  · rename_i hname
    rw [if_neg hname]
    obtain ⟨own, hown, rfl⟩ := Option.map_eq_some_iff.mp h
    obtain ⟨p, hp, heq⟩ := Decode.clean_map.mp hclean
    cases heq
    rw [hown]
    exact ⟨_, [], rfl, Decode.clean_map.mpr ⟨_, hp, rfl⟩⟩

/-- A file that was parsed from one state of the config to another, as the
    sections it stands for. -/
def InlinesFile (env : Env S) (ctx : FileContext) (text : String) (s s' : Settings S) : Prop :=
  ∃ nodes parts, env.parseDocument text = .ok nodes ∧
    Inlined env ctx.recursion ctx.basePath nodes parts ∧ s' = s.applyAll parts

/-- What a node adds to the sections of its file. -/
def InlinesNode (env : Env S) (ctx : FileContext) (node : Node) (s s' : Settings S) : Prop :=
  ∃ parts, (∀ nodes rest, Inlined env ctx.recursion ctx.basePath nodes rest →
    Inlined env ctx.recursion ctx.basePath (node :: nodes) (parts ++ rest)) ∧ s' = s.applyAll parts

/-- The files that are parsed are inlined. -/
def ParseInlines (env : Env S) (parseFile : ParseFile S) : Prop :=
  ∀ ctx file text shared shared', parseFile ctx file text shared = some (.ok (), shared') →
    InlinesFile env ctx text shared.settings shared'.settings

theorem Progress.emit_errors_ne (st : Progress S) (e : DecodeError) : (st.emit e).errors ≠ [] :=
  List.append_ne_nil_of_right_ne_nil st.errors (List.cons_ne_nil e [])

section Clean

variable {parseFile : ParseFile S} {ctx : FileContext} {node : Node} {st st' : Progress S}

theorem decodePart_inlines (hname : node.name ≠ "include")
    (h : decodePart env ctx node st = (.ok (), st')) (hclean : st'.errors = []) :
    st.errors = [] ∧ InlinesNode env ctx node st.shared.settings st'.shared.settings := by
  unfold decodePart at h
  cases hsection : decodeSection env st.workspaceNames node with
  | none =>
    rw [hsection] at h
    cases h
    exact absurd hclean (st.emit_errors_ne _)
  | some decoded =>
    rw [hsection] at h
    dsimp only at h
    split at h
    · exact nomatch (Prod.mk.inj h).1
    · rename_i part names hresult
      cases h
      obtain ⟨hst, herrors⟩ := List.append_eq_nil_iff.mp hclean
      refine ⟨hst, [(ctx.recursion, part)], fun nodes rest hrest => ?_, rfl⟩
      exact .own hname (spells_of_clean hsection ⟨hresult, herrors⟩) hrest

/-- Entering an include goes to the file it stands for, one level deeper. -/
theorem enterInclude_ok {spelled path : Path} {inner : FileContext}
    (h : enterInclude env ctx spelled = .ok (path, inner)) :
    includedPath env ctx.basePath spelled = .ok path ∧
      inner.basePath = path.parent.getD .empty ∧ inner.recursion = ctx.recursion + 1 ∧
      ctx.recursion + 1 ≠ recursionLimit := by
  unfold enterInclude at h
  cases hpath : includedPath env ctx.basePath spelled with
  | error e =>
    rw [hpath] at h
    exact nomatch h
  | ok p =>
    rw [hpath] at h
    dsimp only at h
    split at h
    · exact nomatch h
    split at h
    · exact nomatch h
    split at h
    · exact nomatch h
    · rename_i hlimit _ _
      cases h
      exact ⟨rfl, rfl, rfl, hlimit⟩

theorem decodeInclude_inlines (hparse : ParseInlines env parseFile)
    (hname : node.name = "include")
    (h : decodeInclude env parseFile ctx node st = some (.ok (), st'))
    (hclean : st'.errors = []) :
    st.errors = [] ∧ InlinesNode env ctx node st.shared.settings st'.shared.settings := by
  unfold decodeInclude at h
  dsimp only at h
  cases hresult : (includeArguments env node).result with
  | error e =>
    rw [hresult] at h
    exact nomatch (Prod.mk.inj (Option.some.inj h)).1
  | ok arguments =>
    obtain ⟨spelled, isOptional⟩ := arguments
    rw [hresult] at h
    dsimp only at h
    cases henter : enterInclude env ctx spelled with
    | error e =>
      rw [henter] at h
      cases h
      exact absurd hclean (Progress.emit_errors_ne _ _)
    | ok entered =>
      obtain ⟨path, inner⟩ := entered
      rw [henter] at h
      dsimp only at h
      obtain ⟨hpath, hbase, hdepth, -⟩ := enterInclude_ok henter
      obtain ⟨st₂, hread, heq⟩ := Option.map_eq_some_iff.mp h
      cases heq
      have htarget : (includeArguments env node).errors = [] →
          Targets env ctx.basePath node path isOptional := fun herrors =>
        ⟨spelled, ⟨hresult, herrors⟩, hpath⟩
      unfold readInclude at hread
      cases hfile : env.readToString path with
      | error err =>
        rw [hfile] at hread
        dsimp only at hread
        split at hread
        · rename_i hmissing
          cases hread
          obtain ⟨hst, herrors⟩ := List.append_eq_nil_iff.mp hclean
          obtain ⟨hoptional, hnotFound⟩ := Bool.and_eq_true_iff.mp hmissing
          refine ⟨hst, [], fun nodes rest hrest => ?_, rfl⟩
          exact .absent hname (hoptional ▸ htarget herrors) hfile hnotFound hrest
        · cases hread
          exact absurd hclean (Progress.emit_errors_ne _ _)
      | ok text =>
        rw [hfile] at hread
        dsimp only at hread
        split at hread
        · exact nomatch hread
        · rename_i shared hparsed
          cases hread
          obtain ⟨hst, herrors⟩ := List.append_eq_nil_iff.mp hclean
          obtain ⟨document, parts, hdocument, hinner, hsettings⟩ :=
            hparse _ _ _ _ _ hparsed
          rw [hdepth, hbase] at hinner
          refine ⟨hst, parts, fun nodes rest hrest => ?_, hsettings⟩
          exact .file hname (htarget herrors) hfile hdocument hinner hrest
        · cases hread
          exact absurd hclean (Progress.emit_errors_ne _ _)

theorem decodeNode_inlines (hparse : ParseInlines env parseFile)
    (h : decodeNode env parseFile ctx node st = some (.ok (), st')) (hclean : st'.errors = []) :
    st.errors = [] ∧ InlinesNode env ctx node st.shared.settings st'.shared.settings := by
  unfold decodeNode at h
  split at h
  · cases h
    exact absurd hclean (st.emit_errors_ne _)
  · dsimp only at h
    have hseen : ∀ st₁ : Progress S, st₁ = (if multipart.contains node.name then st
        else { st with seen := node.name :: st.seen }) →
        st₁.errors = st.errors ∧ st₁.shared = st.shared := by
      intro st₁ heq
      rw [heq]
      split <;> exact ⟨rfl, rfl⟩
    generalize hst₁ : (if multipart.contains node.name then st
      else { st with seen := node.name :: st.seen }) = st₁ at h
    obtain ⟨herrors, hshared⟩ := hseen st₁ hst₁.symm
    rw [← herrors, ← hshared]
    split at h
    · rename_i hname
      exact decodeInclude_inlines hparse hname h hclean
    · rename_i hname
      exact decodePart_inlines hname (Option.some.inj h) hclean

/-- The nodes of a file that decode with nothing wrong, as its sections. -/
theorem decodeChildren_inlines (hparse : ParseInlines env parseFile) {nodes : List Node}
    (h : decodeChildren env parseFile ctx nodes st = some (.ok (), st'))
    (hclean : st'.errors = []) :
    st.errors = [] ∧ ∃ parts, Inlined env ctx.recursion ctx.basePath nodes parts ∧
      st'.shared.settings = st.shared.settings.applyAll parts := by
  induction nodes generalizing st with
  | nil =>
    cases h
    exact ⟨hclean, [], .nil, rfl⟩
  | cons node nodes ih =>
    unfold decodeChildren at h
    split at h
    · exact nomatch h
    · exact nomatch (Prod.mk.inj (Option.some.inj h)).1
    · rename_i st₁ hnode
      obtain ⟨herrors, rest, hrest, hsettings⟩ := ih h
      obtain ⟨hst, parts, hparts, hsettings₁⟩ := decodeNode_inlines hparse hnode herrors
      refine ⟨hst, parts ++ rest, hparts nodes rest hrest, ?_⟩
      rw [hsettings, hsettings₁, Settings.applyAll_append]

end Clean

theorem parseText_inlines {parseFile : ParseFile S} (hparse : ParseInlines env parseFile) :
    ParseInlines env (parseText env parseFile) := by
  intro ctx file text shared shared' h
  unfold parseText at h
  split at h
  · exact nomatch (Prod.mk.inj (Option.some.inj h)).1
  · rename_i nodes hnodes
    split at h
    · exact nomatch h
    · exact nomatch (Prod.mk.inj (Option.some.inj h)).1
    · rename_i st hchildren
      split at h
      · rename_i hclean
        cases h
        obtain ⟨-, parts, hinlined, hsettings⟩ := decodeChildren_inlines hparse hchildren hclean
        exact ⟨nodes, parts, hnodes, hinlined, hsettings⟩
      · exact nomatch (Prod.mk.inj (Option.some.inj h)).1

theorem parseWithContext_inlines (fuel : Nat) : ParseInlines env (parseWithContext env fuel) := by
  induction fuel with
  | zero => exact fun _ _ _ _ _ h => nomatch h
  | succ fuel ih => exact parseText_inlines ih

end Cidre.NiriConfig
