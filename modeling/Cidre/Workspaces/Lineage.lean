/-
  Cidre.Workspaces.Lineage

  What every operation keeps of the identities and the names of workspaces,
  whatever state the strip is in: identities stay distinct, and a workspace has the
  name it had before or none.  The operations that give names are not among these.
-/

import Cidre.Workspaces.Layout

namespace Cidre.Workspaces

open Cidre.Counter
open Cidre.Panic (Vec.insert Vec.remove Vec.swap)

variable {W : Type}

/-! ## Descent -/

/-- The identities are distinct, and were drawn from the counter. -/
structure Distinct (l : List (Workspace W)) (n : Nat) : Prop where
  nodup : (l.map Workspace.id).Nodup
  lt : ∀ ws ∈ l, ws.id < n

/-- `ws` is one of `l`, which may have lost its name, or a new one. -/
def Workspace.Heir (l : List (Workspace W)) (n : Nat) (ws : Workspace W) : Prop :=
  (∃ ws₀ ∈ l, ws₀.id = ws.id ∧ (ws.name = none ∨ ws.name = ws₀.name)) ∨
    (n ≤ ws.id ∧ ws.name = none)

/-- The workspaces `l'`, at the counter `n'`, are what has become of `l`. -/
structure Descends (l : List (Workspace W)) (n : Nat) (l' : List (Workspace W)) (n' : Nat) :
    Prop where
  le : n ≤ n'
  distinct : Distinct l n → Distinct l' n'
  heirs : ∀ ws ∈ l', ws.Heir l n

variable {l l' l₁ l₂ r r' : List (Workspace W)} {n n' n₁ n₂ : Nat}

theorem Workspace.Heir.heir {ws ws' : Workspace W} (h : ws.Heir l n) (hid : ws.id = ws'.id)
    (hname : ws'.name = none ∨ ws'.name = ws.name) : ws'.Heir l n := by
  rcases h with ⟨ws₀, hmem, hid₀, hname₀⟩ | ⟨hnew, hnone⟩
  · refine Or.inl ⟨ws₀, hmem, hid₀.trans hid, ?_⟩
    rcases hname with hnone | hsame
    · exact Or.inl hnone
    · rw [hsame]
      exact hname₀
  · refine Or.inr ⟨hid ▸ hnew, ?_⟩
    rcases hname with hnone' | hsame
    · exact hnone'
    · exact hsame.trans hnone

theorem Workspace.Heir.mono {ws : Workspace W} (h : ws.Heir l n) (hsub : l ⊆ r) : ws.Heir r n :=
  h.imp_left fun ⟨ws₀, hmem, hws₀⟩ => ⟨ws₀, hsub hmem, hws₀⟩

theorem Distinct.perm (h : Distinct l n) (hperm : l'.Perm l) : Distinct l' n :=
  ⟨(hperm.map Workspace.id).nodup_iff.mpr h.nodup, fun ws hws => h.lt ws (hperm.mem_iff.mp hws)⟩

theorem Distinct.append_iff :
    Distinct (l ++ r) n ↔ Distinct l n ∧ Distinct r n ∧ ∀ a ∈ l, ∀ b ∈ r, a.id ≠ b.id := by
  refine ⟨fun h => ?_, fun ⟨hl, hr, hne⟩ => ⟨?_, ?_⟩⟩
  · have hnodup := h.nodup
    rw [List.map_append, List.nodup_append] at hnodup
    obtain ⟨hl, hr, hne⟩ := hnodup
    refine ⟨⟨hl, fun ws hws => h.lt ws (List.mem_append_left r hws)⟩,
      ⟨hr, fun ws hws => h.lt ws (List.mem_append_right l hws)⟩, fun a ha b hb => ?_⟩
    exact hne a.id (List.mem_map_of_mem ha) b.id (List.mem_map_of_mem hb)
  · rw [List.map_append, List.nodup_append]
    refine ⟨hl.nodup, hr.nodup, fun a ha b hb => ?_⟩
    obtain ⟨ws, hws, rfl⟩ := List.mem_map.mp ha
    obtain ⟨ws', hws', rfl⟩ := List.mem_map.mp hb
    exact hne ws hws ws' hws'
  · intro ws hws
    rcases List.mem_append.mp hws with hws | hws
    · exact hl.lt ws hws
    · exact hr.lt ws hws

theorem Distinct.mono (h : Distinct l n) (hle : n ≤ n') : Distinct l n' :=
  ⟨h.nodup, fun ws hws => Nat.lt_of_lt_of_le (h.lt ws hws) hle⟩

namespace Descends

theorem refl (l : List (Workspace W)) (n : Nat) : Descends l n l n :=
  ⟨Nat.le_refl n, id, fun ws hws => Or.inl ⟨ws, hws, rfl, Or.inr rfl⟩⟩

theorem trans (h : Descends l n l₁ n₁) (h' : Descends l₁ n₁ l₂ n₂) : Descends l n l₂ n₂ := by
  refine ⟨Nat.le_trans h.le h'.le, fun hl => h'.distinct (h.distinct hl), fun ws hws => ?_⟩
  rcases h'.heirs ws hws with ⟨ws₁, hmem, hid, hname⟩ | ⟨hnew, hname⟩
  · exact (h.heirs ws₁ hmem).heir hid hname
  · exact Or.inr ⟨Nat.le_trans h.le hnew, hname⟩

theorem of_perm (hperm : l'.Perm l) (n : Nat) : Descends l n l' n :=
  ⟨Nat.le_refl n, fun h => h.perm hperm,
    fun ws hws => Or.inl ⟨ws, hperm.mem_iff.mp hws, rfl, Or.inr rfl⟩⟩

theorem of_sublist (hsub : l'.Sublist l) (n : Nat) : Descends l n l' n :=
  ⟨Nat.le_refl n,
    fun h => ⟨h.nodup.sublist (hsub.map Workspace.id), fun ws hws => h.lt ws (hsub.subset hws)⟩,
    fun ws hws => Or.inl ⟨ws, hsub.subset hws, rfl, Or.inr rfl⟩⟩

theorem of_perm_left (hperm : l.Perm r) (h : Descends r n l' n') : Descends l n l' n' :=
  (of_perm hperm.symm n).trans h

theorem of_perm_right (h : Descends l n l' n') (hperm : r'.Perm l') : Descends l n r' n' :=
  h.trans (of_perm hperm n')

/-- A new workspace is put at the front. -/
theorem cons_new (ws : Workspace W) (hid : ws.id = n) (hname : ws.name = none)
    (l : List (Workspace W)) : Descends l n (ws :: l) (n + 1) := by
  refine ⟨Nat.le_succ n, fun h => ⟨?_, ?_⟩, fun ws' hws' => ?_⟩
  · rw [List.map_cons, List.nodup_cons, hid]
    refine ⟨fun hmem => ?_, h.nodup⟩
    obtain ⟨ws', hws', heq⟩ := List.mem_map.mp hmem
    exact absurd (h.lt ws' hws') (heq ▸ Nat.lt_irrefl _)
  · intro ws' hws'
    rcases List.mem_cons.mp hws' with rfl | hws'
    · exact Nat.lt_succ_of_le (Nat.le_of_eq hid)
    · exact Nat.lt_succ_of_lt (h.lt ws' hws')
  · rcases List.mem_cons.mp hws' with rfl | hws'
    · exact Or.inr ⟨Nat.le_of_eq hid.symm, hname⟩
    · exact Or.inl ⟨ws', hws', rfl, Or.inr rfl⟩

/-- Workspaces are changed one by one. -/
theorem of_forall₂ (h : List.Forall₂
    (fun ws ws' => ws'.id = ws.id ∧ (ws'.name = none ∨ ws'.name = ws.name)) l l') (n : Nat) :
    Descends l n l' n := by
  have hids : l'.map Workspace.id = l.map Workspace.id := by
    induction h with
    | nil => rfl
    | cons hws _ ih => rw [List.map_cons, List.map_cons, hws.1, ih]
  have hfrom : ∀ ws' ∈ l', ∃ ws ∈ l, ws'.id = ws.id ∧ (ws'.name = none ∨ ws'.name = ws.name) := by
    clear hids
    induction h with
    | nil => intro ws' hws'; cases hws'
    | cons hws _ ih =>
      intro ws' hws'
      rcases List.mem_cons.mp hws' with rfl | hws'
      · exact ⟨_, List.mem_cons_self, hws⟩
      · obtain ⟨ws, hmem, hws⟩ := ih ws' hws'
        exact ⟨ws, List.mem_cons_of_mem _ hmem, hws⟩
  refine ⟨Nat.le_refl n, fun hl => ⟨hids ▸ hl.nodup, fun ws' hws' => ?_⟩, fun ws' hws' => ?_⟩
  · obtain ⟨ws, hmem, hid, -⟩ := hfrom ws' hws'
    exact hid ▸ hl.lt ws hmem
  · obtain ⟨ws, hmem, hid, hname⟩ := hfrom ws' hws'
    exact Or.inl ⟨ws, hmem, hid.symm, hname⟩

theorem set {i : Nat} {ws ws' : Workspace W} (hget : l[i]? = some ws) (hid : ws'.id = ws.id)
    (hname : ws'.name = none ∨ ws'.name = ws.name) : Descends l n (l.set i ws') n := by
  obtain ⟨hlt, rfl⟩ := List.getElem?_eq_some_iff.mp hget
  refine of_forall₂ (List.forall₂_iff_get.mpr ⟨List.length_set.symm, fun j hj hj' => ?_⟩) n
  simp only [List.get_eq_getElem, List.getElem_set]
  split
  · next heq =>
    subst heq
    exact ⟨hid, hname⟩
  · exact ⟨rfl, Or.inr rfl⟩

theorem map (f : Workspace W → Workspace W) (hid : ∀ ws, (f ws).id = ws.id)
    (hname : ∀ ws, (f ws).name = none ∨ (f ws).name = ws.name) (l : List (Workspace W)) (n : Nat) :
    Descends l n (l.map f) n :=
  of_forall₂ (List.forall₂_map_right_iff.mpr
    (List.forall₂_same.mpr fun ws _ => ⟨hid ws, hname ws⟩)) n

/-- The parts of a list descend one after the other. -/
theorem append (h : Descends l n l' n₁) (h' : Descends r n₁ r' n₂) :
    Descends (l ++ r) n (l' ++ r') n₂ := by
  have hle := h.le
  refine ⟨Nat.le_trans h.le h'.le, fun hdistinct => ?_, fun ws hws => ?_⟩
  · obtain ⟨hl, hr, hne⟩ := Distinct.append_iff.mp hdistinct
    have hl' := h.distinct hl
    refine Distinct.append_iff.mpr ⟨hl'.mono h'.le, h'.distinct (hr.mono h.le), fun a ha b hb => ?_⟩
    have hlt := hl'.lt a ha
    rcases h.heirs a ha with ⟨a₀, ha₀, ida, -⟩ | ⟨hnew, -⟩
    · rcases h'.heirs b hb with ⟨b₀, hb₀, idb, -⟩ | ⟨hnew', -⟩
      · rw [← ida, ← idb]
        exact hne a₀ ha₀ b₀ hb₀
      · exact Nat.ne_of_lt (Nat.lt_of_lt_of_le hlt hnew')
    · rcases h'.heirs b hb with ⟨b₀, hb₀, idb, -⟩ | ⟨hnew', -⟩
      · rw [← idb]
        exact Nat.ne_of_gt (Nat.lt_of_lt_of_le (hr.lt b₀ hb₀) hnew)
      · exact Nat.ne_of_lt (Nat.lt_of_lt_of_le hlt hnew')
  · rcases List.mem_append.mp hws with hws | hws
    · exact (h.heirs ws hws).imp (fun ⟨ws₀, hmem, hws₀⟩ => ⟨ws₀, List.mem_append_left r hmem, hws₀⟩)
        id
    · rcases h'.heirs ws hws with ⟨ws₀, hmem, hws₀⟩ | ⟨hnew, hname⟩
      · exact Or.inl ⟨ws₀, List.mem_append_right l hmem, hws₀⟩
      · exact Or.inr ⟨Nat.le_trans h.le hnew, hname⟩

/-- One of several lists descends. -/
theorem flatten_set {strips : List (List (Workspace W))} {i : Nat} (hget : strips[i]? = some l)
    (h : Descends l n l' n') : Descends strips.flatten n (strips.set i l').flatten n' := by
  have hi := (List.getElem?_eq_some_iff.mp hget).1
  exact ((h.append (refl (strips.eraseIdx i).flatten n')).of_perm_left
    (Panic.Vec.flatten_eraseIdx_perm hget)).of_perm_right (Panic.Vec.flatten_set_perm hi l')

end Descends

/-! ## Names -/

/-- Identities are distinct, and so are names, ignoring the case of ASCII letters. -/
structure Identified (l : List (Workspace W)) (n : Nat) : Prop extends Distinct l n where
  names : ∀ a ∈ l, ∀ b ∈ l, a.id ≠ b.id → ∀ x ∈ a.name, ∀ y ∈ b.name,
    eqIgnoreAsciiCase x y = false

/-- `l'` is what has become of `l`, but that one workspace may have been given the
    name. -/
structure Christens (name : String) (l : List (Workspace W)) (n : Nat) (l' : List (Workspace W))
    (n' : Nat) : Prop where
  bare : Descends l n (l'.map Workspace.unname) n'
  heirs : ∃ id, ∀ ws ∈ l', ws.Heir l n ∨ (ws.id = id ∧ ws.name = some name)

theorem eqIgnoreAsciiCase_comm (a b : String) :
    eqIgnoreAsciiCase a b = eqIgnoreAsciiCase b a := Bool.beq_comm

theorem Workspace.isNamed_of_mem {ws : Workspace W} {x : String} (hx : x ∈ ws.name)
    (name : String) : ws.isNamed name = eqIgnoreAsciiCase x name := by
  rw [isNamed, Option.mem_def.mp hx]
  rfl

theorem distinct_map_unname : Distinct (l.map Workspace.unname) n ↔ Distinct l n := by
  have hids : (l.map Workspace.unname).map Workspace.id = l.map Workspace.id := by
    rw [List.map_map]
    rfl
  refine ⟨fun h => ⟨hids ▸ h.nodup, fun ws hws => ?_⟩, fun h => ⟨hids ▸ h.nodup, fun ws hws => ?_⟩⟩
  · exact h.lt ws.unname (List.mem_map_of_mem hws)
  · obtain ⟨ws', hws', rfl⟩ := List.mem_map.mp hws
    exact h.lt ws' hws'

theorem Descends.map_unname (h : Descends l n l' n') :
    Descends (l.map Workspace.unname) n (l'.map Workspace.unname) n' := by
  refine ⟨h.le, fun hl => distinct_map_unname.mpr (h.distinct (distinct_map_unname.mp hl)), ?_⟩
  intro ws hws
  obtain ⟨ws', hws', rfl⟩ := List.mem_map.mp hws
  rcases h.heirs ws' hws' with ⟨ws₀, hmem, hid, -⟩ | ⟨hnew, -⟩
  · exact Or.inl ⟨ws₀.unname, List.mem_map_of_mem hmem, hid, Or.inl rfl⟩
  · exact Or.inr ⟨hnew, rfl⟩

theorem Descends.unname (l : List (Workspace W)) (n : Nat) :
    Descends l n (l.map Workspace.unname) n :=
  map Workspace.unname (fun _ => rfl) (fun _ => Or.inl rfl) l n

/-- Names are kept apart by what gives none. -/
theorem Descends.identified (h : Descends l n l' n') (hl : Identified l n) : Identified l' n' := by
  refine ⟨h.distinct hl.toDistinct, fun a ha b hb hne x hx y hy => ?_⟩
  rcases h.heirs a ha with ⟨a₀, ha₀, ida, hnone | hsame⟩ | ⟨-, hnone⟩
  · rw [hnone] at hx
    cases hx
  · rcases h.heirs b hb with ⟨b₀, hb₀, idb, hnone' | hsame'⟩ | ⟨-, hnone'⟩
    · rw [hnone'] at hy
      cases hy
    · rw [hsame] at hx
      rw [hsame'] at hy
      exact hl.names a₀ ha₀ b₀ hb₀ (by rwa [ida, idb]) x hx y hy
    · rw [hnone'] at hy
      cases hy
  · rw [hnone] at hx
    cases hx

namespace Christens

variable {name : String}

theorem of_descends (h : Descends l n l' n') (name : String) : Christens name l n l' n' :=
  ⟨h.trans (.unname l' n'), 0, fun ws hws => Or.inl (h.heirs ws hws)⟩

theorem trans_descends (h : Christens name l n l₁ n₁) (h' : Descends l₁ n₁ l₂ n₂) :
    Christens name l n l₂ n₂ := by
  obtain ⟨id, hheirs⟩ := h.heirs
  have hbare := h.bare.trans h'.map_unname
  refine ⟨hbare, id, fun ws hws => ?_⟩
  have hnone : ws.name = none → ws.Heir l n := fun hname =>
    (hbare.heirs ws.unname (List.mem_map_of_mem hws)).heir rfl (Or.inl hname)
  rcases h'.heirs ws hws with ⟨ws₁, hmem, hid, hname | hname⟩ | ⟨-, hname⟩
  · exact Or.inl (hnone hname)
  · rcases hheirs ws₁ hmem with hheir | ⟨hid₁, hname₁⟩
    · exact Or.inl (hheir.heir hid (Or.inr hname))
    · exact Or.inr ⟨hid ▸ hid₁, hname.trans hname₁⟩
  · exact Or.inl (hnone hname)

theorem of_descends_trans (h : Descends l n l₁ n₁) (h' : Christens name l₁ n₁ l₂ n₂) :
    Christens name l n l₂ n₂ := by
  obtain ⟨id, hheirs⟩ := h'.heirs
  refine ⟨h.trans h'.bare, id, fun ws hws => (hheirs ws hws).imp_left fun hheir => ?_⟩
  rcases hheir with ⟨ws₁, hmem, hid, hname⟩ | ⟨hnew, hname⟩
  · exact (h.heirs ws₁ hmem).heir hid hname
  · exact Or.inr ⟨Nat.le_trans h.le hnew, hname⟩

/-- One of several parts is christened. -/
theorem append (h : Christens name l n l' n') (r : List (Workspace W)) :
    Christens name (l ++ r) n (l' ++ r) n' := by
  obtain ⟨id, hheirs⟩ := h.heirs
  refine ⟨?_, id, fun ws hws => ?_⟩
  · rw [List.map_append]
    exact h.bare.append (.unname r n')
  · rcases List.mem_append.mp hws with hws | hws
    · exact (hheirs ws hws).imp_left fun hheir => hheir.mono (List.subset_append_left l r)
    · exact Or.inl (Or.inl ⟨ws, List.mem_append_right l hws, rfl, Or.inr rfl⟩)

theorem of_perm (h : Christens name r n r' n') (hl : l.Perm r) (hl' : l'.Perm r') :
    Christens name l n l' n' :=
  (of_descends_trans (.of_perm hl.symm n) h).trans_descends (.of_perm hl' n')

theorem flatten_set {strips : List (List (Workspace W))} {i : Nat} (hget : strips[i]? = some l)
    (h : Christens name l n l' n') : Christens name strips.flatten n (strips.set i l').flatten n' :=
  (h.append (strips.eraseIdx i).flatten).of_perm (Panic.Vec.flatten_eraseIdx_perm hget)
    (Panic.Vec.flatten_set_perm (List.getElem?_eq_some_iff.mp hget).1 l')

/-- A workspace is given the name. -/
theorem set {i : Nat} {ws : Workspace W} (hget : l[i]? = some ws) (name : String) (n : Nat) :
    Christens name l n (l.set i (ws.rename name)) n := by
  refine ⟨?_, ws.id, fun ws' hws' => ?_⟩
  · have hmap := Panic.Vec.map_set_of_eq Workspace.unname hget
      (show (ws.rename name).unname = ws.unname from rfl)
    rw [hmap]
    exact .unname l n
  · rcases List.mem_or_eq_of_mem_set hws' with hws' | rfl
    · exact Or.inl (Or.inl ⟨ws', hws', rfl, Or.inr rfl⟩)
    · exact Or.inr ⟨rfl, rfl⟩

/-- A workspace comes with the name. -/
theorem cons (ws : Workspace W) (hid : ws.id = n) (hname : ws.name = some name)
    (l : List (Workspace W)) : Christens name l n (ws :: l) (n + 1) := by
  refine ⟨?_, ws.id, fun ws' hws' => ?_⟩
  · exact (Descends.unname l n).trans (.cons_new ws.unname hid rfl (l.map Workspace.unname))
  · rcases List.mem_cons.mp hws' with rfl | hws'
    · exact Or.inr ⟨rfl, hname⟩
    · exact Or.inl (Or.inl ⟨ws', hws', rfl, Or.inr rfl⟩)

/-- Names stay apart if no workspace had this one. -/
theorem identified (h : Christens name l n l' n') (hfree : ∀ ws ∈ l, ws.isNamed name = false)
    (hl : Identified l n) : Identified l' n' := by
  obtain ⟨id, hheirs⟩ := h.heirs
  refine ⟨distinct_map_unname.mp (h.bare.distinct hl.toDistinct), ?_⟩
  -- The name of an heir is that of the workspace it comes from, and so not this one.
  have hold : ∀ {a : Workspace W} {x}, a.Heir l n → x ∈ a.name →
      ∃ a₀ ∈ l, a₀.id = a.id ∧ x ∈ a₀.name := by
    intro a x hheir hx
    rcases hheir with ⟨a₀, ha₀, ida, hnone | hsame⟩ | ⟨-, hnone⟩
    · rw [hnone] at hx
      cases hx
    · exact ⟨a₀, ha₀, ida, hsame ▸ hx⟩
    · rw [hnone] at hx
      cases hx
  have hother : ∀ {a : Workspace W} {x}, a.Heir l n → x ∈ a.name →
      eqIgnoreAsciiCase x name = false := by
    intro a x hheir hx
    obtain ⟨a₀, ha₀, -, hx₀⟩ := hold hheir hx
    rw [← Workspace.isNamed_of_mem hx₀]
    exact hfree a₀ ha₀
  intro a ha b hb hne x hx y hy
  rcases hheirs a ha with hheir | ⟨ida, hname⟩
  · rcases hheirs b hb with hheir' | ⟨idb, hname'⟩
    · obtain ⟨a₀, ha₀, ida, hx₀⟩ := hold hheir hx
      obtain ⟨b₀, hb₀, idb, hy₀⟩ := hold hheir' hy
      exact hl.names a₀ ha₀ b₀ hb₀ (by rwa [ida, idb]) x hx₀ y hy₀
    · obtain rfl : name = y := Option.some.inj (hname'.symm.trans hy)
      exact hother hheir hx
  · obtain rfl : name = x := Option.some.inj (hname.symm.trans hx)
    rcases hheirs b hb with hheir' | ⟨idb, -⟩
    · rw [eqIgnoreAsciiCase_comm]
      exact hother hheir' hy
    · exact absurd (ida.trans idb.symm) hne

end Christens


/-! ## The operations on a monitor -/

namespace Monitor

/-- `m'`, at the counter `n'`, is what has become of the monitor `m`. -/
structure Kept (m : Monitor W) (n : Nat) (m' : Monitor W) (n' : Nat) : Prop where
  output_eq : m'.output = m.output
  descends : Descends m.workspaces n m'.workspaces n'

variable {m m' m₁ m₂ : Monitor W}

theorem Kept.refl (m : Monitor W) (n : Nat) : Kept m n m n := ⟨rfl, .refl m.workspaces n⟩

theorem Kept.trans (h : Kept m n m₁ n₁) (h' : Kept m₁ n₁ m₂ n₂) : Kept m n m₂ n₂ :=
  ⟨h'.output_eq.trans h.output_eq, h.descends.trans h'.descends⟩

/-- What follows an operation that keeps the monitor. -/
theorem Kept.then {x : Counted (Monitor W)} (h : Kept m n m₁ n₁)
    (hx : Yields x n₁ (Kept m₁ n₁)) : Yields x n₁ (Kept m n) :=
  hx.mono fun _ _ h' => h.trans h'

/-- Nothing of the monitor but its workspaces and its output matters. -/
theorem Kept.of_eq (houtput : m'.output = m.output) (hws : m'.workspaces = m.workspaces) :
    Kept m n m' n := ⟨houtput, hws ▸ .refl m.workspaces n⟩

theorem Kept.setWorkspace {idx : Nat} {ws ws' : Workspace W} (hget : m.workspaces[idx]? = some ws)
    (hid : ws'.id = ws.id) (hname : ws'.name = none ∨ ws'.name = ws.name) :
    Kept m n (m.setWorkspace idx ws') n := ⟨rfl, .set hget hid hname⟩

theorem Kept.eraseIdx (m : Monitor W) (idx active : Nat) (n : Nat) :
    Kept m n { m with
      workspaces := m.workspaces.eraseIdx idx
      activeWorkspaceIdx := active } n :=
  ⟨rfl, .of_sublist (List.eraseIdx_sublist _ _) n⟩

theorem insert_eq_some {l l' : List (Workspace W)} {idx : Nat} {ws : Workspace W}
    (h : Vec.insert l idx ws = some l') : l'.Perm (ws :: l) := by
  rw [Vec.insert] at h
  split at h
  · next hle =>
    obtain rfl := Option.some.inj h
    exact List.perm_insertIdx ws l hle
  · cases h

theorem remove_eq_some {l : List (Workspace W)} {idx : Nat} {p : Workspace W × List (Workspace W)}
    (h : Vec.remove l idx = some p) : l.Perm (p.1 :: p.2) := by
  rw [Vec.remove] at h
  obtain ⟨ws, hget, rfl⟩ := Option.map_eq_some_iff.mp h
  obtain ⟨hlt, rfl⟩ := List.getElem?_eq_some_iff.mp hget
  exact (List.getElem_cons_eraseIdx_perm hlt).symm

theorem swap_eq_some {l l' : List (Workspace W)} {i j : Nat} (h : Vec.swap l i j = some l') :
    l'.Perm l := by
  obtain ⟨a, ha, h⟩ := Option.bind_eq_some_iff.mp h
  obtain ⟨b, hb, h⟩ := Option.bind_eq_some_iff.mp h
  obtain rfl := Option.some.inj h
  obtain ⟨hi, rfl⟩ := List.getElem?_eq_some_iff.mp ha
  obtain ⟨hj, rfl⟩ := List.getElem?_eq_some_iff.mp hb
  exact List.set_set_perm hi hj

variable (c : Contents W) (m : Monitor W)

theorem addWorkspaceAt_kept (idx n : Nat) : Yields (m.addWorkspaceAt idx) n (Kept m n) := by
  refine yields_fresh_bind (yields_bounds_bind fun workspaces hins => yields_pure ⟨rfl, ?_⟩)
  exact (Descends.cons_new (Workspace.new m.output n) rfl rfl m.workspaces).of_perm_right
    (insert_eq_some hins)

theorem surround_kept (last first n : Nat) : Yields (m.surround last first) n (Kept m n) := by
  have hbottom : Yields (applyIf (last == m.workspaces.length - 1) addWorkspaceBottom m) n
      (Kept m n) := yields_applyIf (addWorkspaceAt_kept m _ n) (.refl m n)
  refine hbottom.bind fun m₁ n₁ h₁ => ?_
  exact yields_applyIf (h₁.then (addWorkspaceAt_kept m₁ 0 n₁)) h₁

theorem rememberActive_kept (idx n : Nat) : Yields (m.rememberActive idx) n (Kept m n) := by
  rw [rememberActive]
  refine yields_ite (fun _ => ?_) (fun _ => yields_pure (.refl m n))
  exact yields_bounds_bind fun ws _ => yields_pure (.of_eq rfl rfl)

theorem activateWorkspace_kept (idx n : Nat) : Yields (m.activateWorkspace idx) n (Kept m n) :=
  (rememberActive_kept m idx n).bind fun _ _ h₁ => yields_pure (h₁.trans (.of_eq rfl rfl))

theorem addWindows_kept (idx : Nat) (windows : List W) (activate : Bool) (n : Nat) :
    Yields (m.addWindows idx windows activate) n (Kept m n) := by
  refine yields_bounds_bind fun ws hget => ?_
  have hset : Kept m n (m.setWorkspace idx (ws.receive windows m.output)) n :=
    .setWorkspace hget rfl (Or.inr rfl)
  refine (hset.then (surround_kept _ idx idx n)).bind fun m₁ n₁ h₁ => ?_
  exact yields_applyIf (h₁.then (activateWorkspace_kept m₁ _ n₁)) h₁

theorem addTile_kept [DecidableEq W] (tile : W) (target : MonitorAddWindowTarget W)
    (activate : ActivateWindow) (allow : Bool) (n : Nat) :
    Yields (m.addTile tile target activate allow) n (Kept m n) := by
  cases target with
  | auto => exact addWindows_kept m _ _ _ n
  | workspace id | nextTo window =>
    exact yields_lookup_bind fun idx _ => addWindows_kept m idx _ _ n

theorem addTileToColumn_kept (idx : Nat) (tile : W) (activate allow : Bool) (n : Nat) :
    Yields (m.addTileToColumn idx tile activate allow) n (Kept m n) := by
  refine yields_bounds_bind fun ws hget => ?_
  have hset : Kept m n (m.setWorkspace idx (ws.receive [tile] m.output)) n :=
    .setWorkspace hget rfl (Or.inr rfl)
  exact yields_applyIf (hset.then (activateWorkspace_kept _ idx n)) hset

theorem cleanUpFrom_kept (start : Nat) : ∀ (k : Nat) (m : Monitor W) (n : Nat),
    Yields (cleanUpFrom start k m) n (Kept m n)
  | 0, m, n => yields_pure (.refl m n)
  | k + 1, m, n => by
      rw [cleanUpFrom]
      refine yields_early (.refl m n) fun _ => ?_
      have hstep : Yields (m.cleanUpAt k) n (Kept m n) := by
        refine yields_early (.refl m n) fun _ => ?_
        refine yields_bounds_bind fun ws _ => ?_
        exact yields_early (.refl m n)
          (fun _ => yields_pure (.eraseIdx m k _ n))
      exact hstep.bind fun m₁ n₁ h₁ => h₁.then (cleanUpFrom_kept start k m₁ n₁)

theorem mergeEnds_kept (n : Nat) : Yields m.mergeEnds n (Kept m n) := by
  refine yields_ite (fun _ => ?_) (fun _ => yields_pure (.refl m n))
  refine yields_bounds_bind fun first _ => yields_require_bind fun _ => ?_
  refine yields_bounds_bind fun last _ => yields_require_bind fun _ => ?_
  exact yields_pure (.eraseIdx m 1 0 n)

theorem cleanUpWorkspaces_kept (n : Nat) : Yields m.cleanUpWorkspaces n (Kept m n) := by
  refine yields_require_bind fun _ => ?_
  exact (cleanUpFrom_kept _ _ m n).bind fun m₁ n₁ h₁ => h₁.then (mergeEnds_kept m₁ n₁)

/-- The clean-up after a change that has no effect on the workspaces. -/
theorem Kept.cleaned {m : Monitor W} (h : Kept m n m₁ n₁) {x : Monitor W} (houtput : x.output = m₁.output)
    (hws : x.workspaces = m₁.workspaces) : Yields x.cleanUpWorkspaces n₁ (Kept m n) :=
  (h.trans (.of_eq houtput hws)).then (cleanUpWorkspaces_kept x n₁)

theorem unnameWorkspace_kept (id : WorkspaceId) (n : Nat) :
    Yields (m.unnameWorkspace id) n fun p n' => Kept m n p.1 n' := by
  rw [unnameWorkspace]
  split
  · exact yields_pure (.refl m n)
  · next idx _ =>
    refine yields_bounds_bind fun ws hget => ?_
    have hset : Kept m n (m.setWorkspace idx ws.unname) n :=
      .setWorkspace hget rfl (Or.inl rfl)
    exact (yields_applyIf (hset.cleaned rfl rfl) hset).bind fun m₁ n₁ h₁ => yields_pure h₁

theorem takeTile_eq [DecidableEq W] {c : Contents W} {ws ws' : Workspace W} {window : Option W}
    {tile : W} (h : takeTile c ws window = some (tile, ws')) :
    ws'.id = ws.id ∧ ws'.name = ws.name ∧ ws'.originalOutput = ws.originalOutput := by
  cases window with
  | some window =>
    obtain ⟨-, rfl⟩ := Prod.mk.inj (Option.some.inj h)
    exact ⟨rfl, rfl, rfl⟩
  | none =>
    replace h : ws.removeActiveTile c = some (tile, ws') := h
    rw [Workspace.removeActiveTile] at h
    split at h
    · split at h
      · obtain ⟨-, rfl⟩ := Prod.mk.inj (Option.some.inj h)
        exact ⟨rfl, rfl, rfl⟩
      · cases h
    · cases h

theorem removeActiveColumn_eq [DecidableEq W] {c : Contents W} {ws ws' : Workspace W}
    {column : List W} (h : ws.removeActiveColumn c = some (column, ws')) :
    ws'.id = ws.id ∧ ws'.name = ws.name ∧ ws'.originalOutput = ws.originalOutput := by
  simp only [Workspace.removeActiveColumn] at h
  split at h
  · cases h
  · obtain ⟨-, rfl⟩ := Prod.mk.inj (Option.some.inj h)
    exact ⟨rfl, rfl, rfl⟩

theorem moveActiveTileTo_kept [DecidableEq W] (newIdx : Nat) (focus : Bool) (n : Nat) :
    Yields (m.moveActiveTileTo c newIdx focus) n (Kept m n) := by
  refine yields_early (.refl m n) fun _ => ?_
  refine yields_bounds_bind fun target _ => yields_bounds_bind fun source hget => ?_
  split
  · exact yields_pure (.refl m n)
  · next tile source' heq =>
    have htake : takeTile c source none = some (tile, source') := heq
    obtain ⟨hid, hname, -⟩ := takeTile_eq htake
    exact (Kept.setWorkspace hget hid (Or.inr hname)).then (addTile_kept _ _ _ _ _ n)

theorem sourceWorkspaceIdx_yields [DecidableEq W] (window : Option W) (n : Nat) :
    Yields (m.sourceWorkspaceIdx window) n fun _ n' => n' = n := by
  cases window with
  | none => exact yields_pure rfl
  | some window => exact yields_lookup fun _ _ => rfl

theorem moveToWorkspace_kept [DecidableEq W] (window : Option W) (idx : Nat)
    (activate : ActivateWindow) (n : Nat) :
    Yields (m.moveToWorkspace c window idx activate) n (Kept m n) := by
  refine (sourceWorkspaceIdx_yields m window n).bind ?_
  rintro sourceIdx n' rfl
  refine yields_early (.refl m n') fun _ => ?_
  refine yields_bounds_bind fun target _ => yields_bounds_bind fun active _ => ?_
  refine yields_bounds_bind fun source hget => ?_
  split
  · exact yields_pure (.refl m n')
  · next tile source' heq =>
    obtain ⟨hid, hname, -⟩ := takeTile_eq heq
    refine ((Kept.setWorkspace hget hid (Or.inr hname)).then
      (addTile_kept _ _ _ _ _ n')).bind fun m₁ n₁ h₁ => ?_
    exact yields_applyIf (h₁.cleaned rfl rfl) h₁

theorem moveActiveColumnTo_kept [DecidableEq W] (newIdx : Nat) (activate : Bool)
    {floating : Counted (Monitor W)} {n : Nat} (hfloating : Yields floating n (Kept m n)) :
    Yields (m.moveActiveColumnTo c newIdx activate floating) n (Kept m n) := by
  refine yields_early (.refl m n) fun _ => ?_
  refine yields_bounds_bind fun source hget => yields_ite (fun _ => hfloating) (fun _ => ?_)
  split
  · exact yields_pure (.refl m n)
  · next column source' heq =>
    obtain ⟨hid, hname, -⟩ := removeActiveColumn_eq heq
    exact (Kept.setWorkspace hget hid (Or.inr hname)).then (addWindows_kept _ _ _ _ n)

theorem moveColumnToWorkspaceUp_kept [DecidableEq W] (activate : Bool) (n : Nat) :
    Yields (m.moveColumnToWorkspaceUp c activate) n (Kept m n) :=
  moveActiveColumnTo_kept c m _ activate (moveActiveTileTo_kept c m _ activate n)

theorem moveColumnToWorkspaceDown_kept [DecidableEq W] (activate : Bool) (n : Nat) :
    Yields (m.moveColumnToWorkspaceDown c activate) n (Kept m n) :=
  moveActiveColumnTo_kept c m _ activate (moveActiveTileTo_kept c m _ activate n)

theorem moveColumnToWorkspace_kept [DecidableEq W] (idx : Nat) (activate : Bool) (n : Nat) :
    Yields (m.moveColumnToWorkspace c idx activate) n (Kept m n) :=
  moveActiveColumnTo_kept c m _ activate (moveToWorkspace_kept c m none idx _ n)

theorem switchWorkspacePrevious_kept (n : Nat) : Yields m.switchWorkspacePrevious n (Kept m n) := by
  rw [switchWorkspacePrevious]
  split
  · exact activateWorkspace_kept m _ n
  · exact yields_pure (.refl m n)

theorem switchWorkspaceAutoBackAndForth_kept (idx n : Nat) :
    Yields (m.switchWorkspaceAutoBackAndForth idx) n (Kept m n) :=
  yields_ite (fun _ => switchWorkspacePrevious_kept m n) (fun _ => activateWorkspace_kept m _ n)

/-- A call that goes to the strip unless it could be served inside the workspace. -/
theorem unlessInside_kept {x : Counted (Monitor W)} {n : Nat}
    (hx : Yields x n (Kept m n)) : Yields (do
      let ws ← bounds m.workspaces[m.activeWorkspaceIdx]?
      if c.movedInside ws then return m else x) n (Kept m n) :=
  yields_bounds_bind fun _ _ => yields_early (.refl m n) (fun _ => hx)

theorem removeWorkspaceByIdx_descends (idx n : Nat) :
    Yields (m.removeWorkspaceByIdx idx) n fun p n' =>
      p.2.output = m.output ∧ Descends m.workspaces n (p.1 :: p.2.workspaces) n' := by
  refine (surround_kept m idx idx n).bind fun m₁ n₁ h₁ => ?_
  refine yields_bounds_bind ?_
  rintro ⟨ws, workspaces⟩ hremove
  refine (cleanUpWorkspaces_kept _ n₁).bind fun m₂ n₂ h₂ =>
    yields_pure ⟨h₂.output_eq.trans h₁.output_eq, ?_⟩
  have hfirst : Descends [ws] n₁ [ws] n₁ := .refl [ws] n₁
  exact h₁.descends.trans ((hfirst.append h₂.descends).of_perm_left (remove_eq_some hremove))

/-- A workspace is put on the strip. -/
theorem insertWorkspace_descends (ws : Workspace W) (idx : Nat) (activate : Bool)
    (n : Nat) : Yields (m.insertWorkspace ws idx activate) n fun m' n' =>
      m'.output = m.output ∧ Descends (ws :: m.workspaces) n m'.workspaces n' := by
  simp only [insertWorkspace]
  refine (yields_applyIf (addWorkspaceAt_kept m 0 n) (.refl m n)).bind fun m₁ n₁ h₁ => ?_
  refine yields_bounds_bind fun workspaces hins => ?_
  have hws : Descends [ws] n [ws.setOutput m.output] n :=
    .map (fun ws => ws.setOutput m.output) (fun _ => rfl) (fun _ => Or.inr rfl) [ws] n
  have hinserted : Descends (ws :: m.workspaces) n workspaces n₁ :=
    (hws.append h₁.descends).of_perm_right (insert_eq_some hins)
  -- The workspace may be activated before the strip is cleaned up.
  have hactivated : ∀ active j, Yields
      (applyIf activate (fun m => { m with workspaceSwitch := none }.activateWorkspace j)
        { m₁ with workspaces := workspaces, activeWorkspaceIdx := active }) n₁ fun m' n' =>
          m'.output = m.output ∧ Descends (ws :: m.workspaces) n m'.workspaces n' := by
    intro active j
    refine yields_applyIf ?_ ⟨h₁.output_eq, hinserted⟩
    refine (activateWorkspace_kept _ j n₁).mono fun m₃ n₃ h₃ => ?_
    exact ⟨h₃.output_eq.trans h₁.output_eq, hinserted.trans h₃.descends⟩
  refine (hactivated _ _).bind fun m₂ n₂ h₂ => ?_
  refine (cleanUpWorkspaces_kept _ n₂).mono fun m₃ n₃ h₃ => ?_
  exact ⟨h₃.output_eq.trans h₂.1, h₂.2.trans h₃.descends⟩

/-- Workspaces are put on the strip. -/
theorem appendWorkspaces_descends (workspaces : List (Workspace W)) (n : Nat) :
    Yields (m.appendWorkspaces workspaces) n fun m' n' =>
      m'.output = m.output ∧ Descends (workspaces ++ m.workspaces) n m'.workspaces n' := by
  refine yields_ite (fun hnil => yields_pure ⟨rfl, ?_⟩) (fun _ => ?_)
  · rw [hnil]
    exact .refl m.workspaces n
  · refine yields_bounds_bind fun p hremove => yields_bounds_bind fun first _ => ?_
    generalize hnew : workspaces.map (fun ws => ws.setOutput m.output) = new
    have hset : Descends workspaces n new n :=
      hnew ▸ .map (fun ws => ws.setOutput m.output) (fun _ => rfl) (fun _ => Or.inr rfl)
        workspaces n
    have hperm : (p.2 ++ new ++ [p.1]).Perm (new ++ (p.1 :: p.2)) := by
      rw [List.append_assoc]
      refine List.perm_append_comm.trans ?_
      rw [List.append_assoc]
      exact List.Perm.refl _
    have happended : Descends (workspaces ++ m.workspaces) n (p.2 ++ new ++ [p.1]) n :=
      (hset.append (Descends.of_perm (remove_eq_some hremove).symm n)).of_perm_right hperm
    refine (yields_applyIf (addWorkspaceAt_kept { m with workspaces := p.2 ++ new ++ [p.1] } 0 n)
      (.refl _ n)).bind fun m₁ n₁ h₁ => ?_
    refine (cleanUpWorkspaces_kept _ n₁).mono fun m₂ n₂ h₂ => ?_
    exact ⟨h₂.output_eq.trans h₁.output_eq,
      happended.trans (h₁.descends.trans h₂.descends)⟩

theorem new_descends (output : Output) (workspaces : List (Workspace W)) (id : Option WorkspaceId)
    (baseOptions : Options) (layoutConfig : Option LayoutPart) (n : Nat) :
    Yields (new output workspaces id baseOptions layoutConfig) n fun m' n' =>
      m'.output = output ∧ Descends workspaces n m'.workspaces n' := by
  refine yields_require_bind fun _ => ?_
  simp only []
  generalize hnew : workspaces.map (fun ws => ws.setOutput output) = inner
  have hset : Descends workspaces n inner n :=
    hnew ▸ .map (fun ws => ws.setOutput output) (fun _ => rfl) (fun _ => Or.inr rfl) workspaces n
  have htop : Yields (applyIf ((baseOptions.withMergedLayout layoutConfig).emptyWorkspaceAboveFirst &&
      !inner.isEmpty) (fun workspaces => do
      let id ← fresh
      return Workspace.new output id :: workspaces) inner) n (Descends workspaces n) := by
    refine yields_applyIf (yields_fresh_bind (yields_pure ?_)) hset
    exact hset.trans (.cons_new (Workspace.new output n) rfl rfl inner)
  refine htop.bind fun workspaces₁ n₁ h₁ => yields_fresh_bind (yields_pure ⟨rfl, ?_⟩)
  exact (h₁.trans (.cons_new (Workspace.new output n₁) rfl rfl workspaces₁)).of_perm_right
    (List.perm_append_singleton _ _)

theorem advanceAnimations_kept (n : Nat) : Yields (m.advanceAnimations c) n (Kept m n) := by
  rw [advanceAnimations]
  split
  · exact yields_ite (fun _ => (Kept.refl m n).cleaned rfl rfl) (fun _ => yields_pure (.refl m n))
  · exact yields_pure (.refl m n)

theorem updateConfig_kept (baseOptions : Options) (n : Nat) :
    Yields (m.updateConfig baseOptions) n (Kept m n) := by
  simp only [updateConfig]
  refine (yields_applyIf (addWorkspaceAt_kept m 0 n) (.refl m n)).bind fun m₁ n₁ h₁ => ?_
  refine yields_pure (h₁.trans ⟨rfl, ?_⟩)
  dsimp only
  split
  · exact .of_sublist (List.eraseIdx_sublist _ _) n₁
  · exact .refl m₁.workspaces n₁

theorem updateLayoutConfig_kept (layoutConfig : Option LayoutPart) (n : Nat) :
    Yields (m.updateLayoutConfig layoutConfig) n (Kept m n) := by
  refine yields_early (.refl m n) fun _ => ?_
  have hset : Kept m n { m with layoutConfig := layoutConfig } n := .of_eq rfl rfl
  exact hset.then (updateConfig_kept _ m.baseOptions n)

/-- The workspaces are rearranged, and the strip is settled at some index. -/
theorem rearrange_kept {m : Monitor W} {workspaces : List (Workspace W)} (hperm : workspaces.Perm m.workspaces)
    (last first idx n : Nat) : Yields (do
      let m ← { m with workspaces := workspaces }.surround last first
      m.settleAt idx) n (Kept m n) := by
  have hset : Kept m n { m with workspaces := workspaces } n := ⟨rfl, .of_perm hperm n⟩
  refine (hset.then (surround_kept _ last first n)).bind fun m₁ n₁ h₁ => ?_
  refine (h₁.then (activateWorkspace_kept m₁ idx n₁)).bind fun m₂ n₂ h₂ => ?_
  exact h₂.cleaned rfl rfl

theorem moveWorkspaceDown_kept (n : Nat) : Yields m.moveWorkspaceDown n (Kept m n) := by
  refine yields_early (.refl m n) fun _ => ?_
  exact yields_bounds_bind fun workspaces hswap => rearrange_kept (swap_eq_some hswap) _ _ _ n

theorem moveWorkspaceUp_kept (n : Nat) : Yields m.moveWorkspaceUp n (Kept m n) := by
  refine yields_early (.refl m n) fun _ => ?_
  exact yields_bounds_bind fun workspaces hswap => rearrange_kept (swap_eq_some hswap) _ _ _ n

theorem moveWorkspaceToIdx_kept (oldIdx newIdx n : Nat) :
    Yields (m.moveWorkspaceToIdx oldIdx newIdx) n (Kept m n) := by
  refine yields_early (.refl m n) fun _ => ?_
  refine yields_bounds_bind fun p hremove => yields_bounds_bind fun workspaces hins => ?_
  have hperm : workspaces.Perm m.workspaces :=
    (insert_eq_some hins).trans (remove_eq_some hremove).symm
  have hset : Kept m n { m with workspaces := workspaces } n := ⟨rfl, .of_perm hperm n⟩
  refine (hset.then (surround_kept _ _ _ n)).bind fun m₁ n₁ h₁ => ?_
  exact h₁.cleaned rfl rfl

theorem workspaceSwitchGestureUpdate_kept (isTouchpad : Bool) (excess : Rat) (n : Nat) :
    Yields (m.workspaceSwitchGestureUpdate c isTouchpad excess) n fun p n' => Kept m n p.1 n' := by
  rw [workspaceSwitchGestureUpdate]
  split
  · refine yields_early (.refl m n) fun _ => ?_
    refine yields_bounds_bind fun x _ => ?_
    exact yields_early (.refl m n) (fun _ => yields_pure (.of_eq rfl rfl))
  · exact yields_pure (.refl m n)

theorem dndScrollGestureScroll_kept (n : Nat) :
    Yields (m.dndScrollGestureScroll c) n (Kept m n) := by
  rw [dndScrollGestureScroll]
  split
  · refine yields_ite (fun _ => ?_) (fun _ => yields_pure (.refl m n))
    exact yields_bounds_bind fun x _ => yields_pure (.of_eq rfl rfl)
  · exact yields_pure (.refl m n)

theorem workspaceSwitchGestureEnd_kept (isTouchpad : Option Bool) (n : Nat) :
    Yields (m.workspaceSwitchGestureEnd c isTouchpad) n fun p n' => Kept m n p.1 n' := by
  rw [workspaceSwitchGestureEnd]
  split
  · refine yields_early (.refl m n) fun _ => ?_
    refine yields_bounds_bind fun x _ => ?_
    refine (rememberActive_kept m (roundIdx x) n).bind fun m₁ n₁ h₁ => ?_
    exact yields_pure (h₁.trans (.of_eq rfl rfl))
  · exact yields_pure (.refl m n)

theorem dndScrollGestureEnd_kept (n : Nat) : Yields (m.dndScrollGestureEnd c) n (Kept m n) := by
  refine yields_ite (fun _ => ?_) (fun _ => yields_pure (.refl m n))
  exact (workspaceSwitchGestureEnd_kept c m none n).bind fun p n₁ h₁ => yields_pure h₁

theorem dndScrollGestureBegin_kept (n : Nat) : Kept m n (m.dndScrollGestureBegin c) n := by
  rw [dndScrollGestureBegin]
  split
  · exact .refl m n
  · exact .of_eq rfl rfl

end Monitor

end Cidre.Workspaces
