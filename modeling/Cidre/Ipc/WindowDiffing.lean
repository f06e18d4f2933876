/-
  Cidre.Ipc.WindowDiffing

  The events of the windows bring the state to the snapshot.

  In the middle of the events the windows seen so far are done but for their
  layouts, which are sent together at the end; the others wait.  The focus is one
  window's: it is settled for all of them when the focused window is seen.
-/

import Cidre.Ipc.Diffing

namespace Cidre.Ipc

namespace WindowsState

/-! ## Single events -/

theorem applyAll_cons {s s' : WindowsState} {event : Event} {orders : Nat → HashOrder}
    (h : s.apply ((orders 0).keys s) event = some (.done s')) (events : List Event) :
    s.applyAll (event :: events) orders = s'.applyAll events fun n => orders (n + 1) := by
  rw [applyAll, h]
  rfl

theorem applyAll_append (s : WindowsState) (events events' : List Event)
    (orders : Nat → HashOrder) : s.applyAll (events ++ events') orders =
      (s.applyAll events orders).bind fun s' =>
        s'.applyAll events' fun n => orders (n + events.length) := by
  induction events generalizing s orders with
  | nil => rfl
  | cons event events ih =>
    rw [List.cons_append, applyAll, applyAll, Option.bind_assoc]
    refine congrArg _ (funext fun applied => ?_)
    cases applied <;> exact ih _ _

/-- The loop that stops at the first match finds the entry of the id. -/
theorem modifyFirst_eq {windows : SortedMap U64 Window} (hkeyed : windows.KeyedBy Window.id)
    {order : List U64} (horder : order.Perm windows.keys) {id : U64} {w : Window}
    (hget : windows.get id = some w) (f : Window → Window) :
    modifyFirst order id f windows = windows.modify id f := by
  have hsome : (order.find? fun k => (windows.get k).any fun w => w.id = id).isSome := by
    rw [List.find?_isSome]
    refine ⟨id, horder.mem_iff.mpr (SortedMap.mem_keys_iff.mpr (by simp [hget])), ?_⟩
    simp [hget, hkeyed id w hget]
  obtain ⟨k, hk⟩ := Option.isSome_iff_exists.mp hsome
  have hany := List.find?_some hk
  obtain ⟨w', hw', hid⟩ : ∃ w', windows.get k = some w' ∧ w'.id = id := by
    cases hw' : windows.get k with
    | none =>
      rw [hw'] at hany
      cases hany
    | some w' =>
      rw [hw'] at hany
      exact ⟨w', rfl, of_decide_eq_true hany⟩
  rw [modifyFirst, hk]
  rw [← hkeyed k w' hw', hid]

/-- One event that changes each entry by itself. -/
theorem applyAll_map {s : WindowsState} {event : Event} {orders : Nat → HashOrder}
    {f : U64 → Window → Window} {s' : WindowsState}
    (happly : s.apply ((orders 0).keys s) event = some (.done s'))
    (hget : ∀ k, s'.windows.get k = (s.windows.get k).map (f k)) :
    ∃ s', s.applyAll [event] orders = some s' ∧
      ∀ k, s'.windows.get k = (s.windows.get k).map (f k) :=
  ⟨s', applyAll_cons happly [], hget⟩

theorem focusChanged_map (s : WindowsState) (id : Option U64) (orders : Nat → HashOrder) :
    ∃ s', s.applyAll [.windowFocusChanged id] orders = some s' ∧ ∀ k, s'.windows.get k =
      (s.windows.get k).map fun w => { w with isFocused := decide (some w.id = id) } :=
  applyAll_map rfl fun k => SortedMap.get_mapValues _ _ k

theorem focusTimestamp_map {s : WindowsState} (hkeyed : s.windows.KeyedBy Window.id) {id : U64}
    {w : Window} (hget : s.windows.get id = some w) (timestamp : Option Timestamp)
    (orders : Nat → HashOrder) :
    ∃ s', s.applyAll [.windowFocusTimestampChanged id timestamp] orders = some s' ∧
      ∀ k, s'.windows.get k = (s.windows.get k).map fun w =>
        if k = id then { w with focusTimestamp := timestamp } else w := by
  refine applyAll_map (f := fun k w => if k = id then { w with focusTimestamp := timestamp } else w)
    rfl fun k => ?_
  rw [modifyFirst_eq hkeyed ((orders 0).perm s) hget, SortedMap.get_modify]
  by_cases hk : k = id <;> simp [hk]

theorem urgency_map {s : WindowsState} (hkeyed : s.windows.KeyedBy Window.id) {id : U64}
    {w : Window} (hget : s.windows.get id = some w) (urgent : Bool) (orders : Nat → HashOrder) :
    ∃ s', s.applyAll [.windowUrgencyChanged id urgent] orders = some s' ∧
      ∀ k, s'.windows.get k = (s.windows.get k).map fun w =>
        if k = id then { w with isUrgent := urgent } else w := by
  refine applyAll_map (f := fun k w => if k = id then { w with isUrgent := urgent } else w)
    rfl fun k => ?_
  rw [modifyFirst_eq hkeyed ((orders 0).perm s) hget, SortedMap.get_modify]
  by_cases hk : k = id <;> simp [hk]

theorem openedOrChanged_get (s : WindowsState) (t : Window) (orders : Nat → HashOrder) :
    ∃ s', s.applyAll [.windowOpenedOrChanged t] orders = some s' ∧
      s'.windows.get t.id = some t ∧ ∀ k, k ≠ t.id → s'.windows.get k =
        (s.windows.get k).map fun w => if t.isFocused ∧ w.id ≠ t.id then
          { w with isFocused := false } else w := by
  refine ⟨_, applyAll_cons rfl [], ?_, fun k hk => ?_⟩
  · dsimp only
    split
    · rw [unfocusOthers, SortedMap.get_mapValues, SortedMap.get_insert, if_pos rfl]
      simp
    · rw [SortedMap.get_insert, if_pos rfl]
  · dsimp only
    split
    · next hfocused =>
      rw [unfocusOthers, SortedMap.get_mapValues, SortedMap.get_insert, if_neg hk]
      simp [hfocused]
    · next hfocused =>
      rw [SortedMap.get_insert, if_neg hk]
      simp [hfocused]

/-! ## In the middle of the windows -/

/-- What the old state and the new windows satisfy. -/
structure Refreshing (old : WindowsState) (pid : U64 → Option Int)
    (target : List (Mapped × Option U64)) : Prop where
  keyed : old.windows.KeyedBy Window.id
  pid_eq : ∀ k o, old.windows.get k = some o → o.pid = pid k
  old_unique : ∀ k o k' o', old.windows.get k = some o → old.windows.get k' = some o' →
    o.isFocused = true → o'.isFocused = true → k = k'
  nodup : (target.map fun e => e.1.id).Nodup
  target_unique : ∀ e ∈ target, ∀ e' ∈ target, e.1.isFocused = true → e'.1.isFocused = true →
    e.1.id = e'.1.id

/-- A window that is not done. -/
def waiting (focusDone : Bool) (o : Window) : Window :=
  { o with isFocused := if focusDone then false else o.isFocused }

/-- A window that is done, but for its layout. -/
def finished (old : WindowsState) (pid : U64 → Option Int) (focusDone : Bool)
    (e : Mapped × Option U64) : Window :=
  let t := makeIpcWindow pid e.1 e.2
  match old.windows.get e.1.id with
  | none => t
  | some o =>
      if isChanged o e.1 e.2 then t
      else { t with
        layout := o.layout
        isFocused := if focusDone then t.isFocused else o.isFocused }

/-- The focused window is among these. -/
def focusDone (done : List (Mapped × Option U64)) : Bool := done.any fun e => e.1.isFocused

/-- The state when `done` are done and `rest` wait. -/
structure Mid (old : WindowsState) (pid : U64 → Option Int) (done : List (Mapped × Option U64))
    (s : WindowsState) : Prop where
  done_eq : ∀ e ∈ done, s.windows.get e.1.id = some (finished old pid (focusDone done) e)
  rest_eq : ∀ k, k ∉ done.map (fun e => e.1.id) →
    s.windows.get k = (old.windows.get k).map (waiting (focusDone done))

variable {old s : WindowsState} {pid : U64 → Option Int} {done rest : List (Mapped × Option U64)}

theorem mid_nil (old : WindowsState) (pid : U64 → Option Int) : Mid old pid [] old := by
  refine ⟨by simp, fun k _ => ?_⟩
  have hwaiting : waiting (focusDone []) = id := rfl
  rw [hwaiting, Option.map_id]
  rfl

theorem finished_id (old : WindowsState) (pid : U64 → Option Int) (b : Bool)
    (e : Mapped × Option U64) : (finished old pid b e).id = e.1.id := by
  rw [finished]
  split
  · rfl
  · split <;> rfl

theorem Mid.keyed (hr : Refreshing old pid (done ++ rest)) (h : Mid old pid done s) :
    s.windows.KeyedBy Window.id := by
  intro k w hw
  by_cases hk : k ∈ done.map fun e => e.1.id
  · obtain ⟨e, he, rfl⟩ := List.mem_map.mp hk
    rw [h.done_eq e he] at hw
    rw [← Option.some.inj hw, finished_id]
  · rw [h.rest_eq k hk] at hw
    obtain ⟨o, ho, rfl⟩ := Option.map_eq_some_iff.mp hw
    exact hr.keyed k o ho

/-! ## The events of one window -/

theorem keyedBy_of_map {s s' : WindowsState} {f : U64 → Window → Window}
    (hkeyed : s.windows.KeyedBy Window.id)
    (hget : ∀ k, s'.windows.get k = (s.windows.get k).map (f k)) (hf : ∀ k w, (f k w).id = w.id) :
    s'.windows.KeyedBy Window.id := by
  intro k w hw
  rw [hget] at hw
  obtain ⟨v, hv, rfl⟩ := Option.map_eq_some_iff.mp hw
  rw [hf, hkeyed k v hv]

theorem focusDone_append (done : List (Mapped × Option U64)) (e : Mapped × Option U64) :
    focusDone (done ++ [e]) = (focusDone done || e.1.isFocused) := by
  simp [focusDone]

/-- A focused window is the only one. -/
theorem Refreshing.unfocused {e e' : Mapped × Option U64}
    (hr : Refreshing old pid (done ++ e :: rest)) (he' : e' ∈ done) (h : e.1.isFocused = true) :
    e'.1.isFocused = false := by
  rw [← Bool.not_eq_true]
  intro h'
  have heq := hr.target_unique e (by simp) e' (by simp [he']) h h'
  have hnodup := hr.nodup
  rw [List.map_append, List.map_cons, List.nodup_append] at hnodup
  exact hnodup.2.2 _ (List.mem_map_of_mem he') _ List.mem_cons_self heq.symm

theorem Refreshing.focusDone_eq {e : Mapped × Option U64}
    (hr : Refreshing old pid (done ++ e :: rest)) (h : e.1.isFocused = true) :
    focusDone done = false := by
  rw [focusDone, List.any_eq_false]
  intro e' he'
  rw [hr.unfocused he' h]
  exact Bool.false_ne_true

theorem Refreshing.id_not_mem {e : Mapped × Option U64}
    (hr : Refreshing old pid (done ++ e :: rest)) : e.1.id ∉ done.map fun e => e.1.id := by
  intro hmem
  have hnodup := hr.nodup
  rw [List.map_append, List.map_cons, List.nodup_append] at hnodup
  exact hnodup.2.2 _ hmem _ List.mem_cons_self rfl

/-- A window that is done, when another one turns out to be focused. -/
theorem finished_unfocus (old : WindowsState) (pid : U64 → Option Int) (b : Bool)
    {e : Mapped × Option U64} (h : e.1.isFocused = false) :
    { finished old pid b e with isFocused := false } = finished old pid true e := by
  rw [finished, finished]
  split
  · rw [← h]
    rfl
  · simp only
    split
    · rw [← h]
      rfl
    · simp [makeIpcWindow, h]

theorem finished_unfocused {b : Bool} {e : Mapped × Option U64} (h : e.1.isFocused = false)
    (hold : ∀ o, old.windows.get e.1.id = some o → o.isFocused = false) :
    (finished old pid b e).isFocused = false := by
  rw [finished]
  split
  · exact h
  · next o ho =>
    split
    · exact h
    · simp [makeIpcWindow, h, hold o ho]

/-- A window that is sent with all there is to it. -/
theorem openedOrChanged_mid {e : Mapped × Option U64}
    (hr : Refreshing old pid (done ++ e :: rest)) (h : Mid old pid done s)
    (hfinished : ∀ b, finished old pid b e = makeIpcWindow pid e.1 e.2)
    (orders : Nat → HashOrder) :
    ∃ s', s.applyAll [.windowOpenedOrChanged (makeIpcWindow pid e.1 e.2)] orders = some s' ∧
      Mid old pid (done ++ [e]) s' := by
  obtain ⟨s', hs', hself, hother⟩ := openedOrChanged_get s (makeIpcWindow pid e.1 e.2) orders
  have hkeyed := h.keyed hr
  have hget : ∀ k, k ≠ e.1.id → s'.windows.get k = (s.windows.get k).map fun w =>
      if e.1.isFocused then { w with isFocused := false } else w := by
    intro k hk
    rw [hother k hk]
    cases hw : s.windows.get k with
    | none => rfl
    | some w =>
      have hid : w.id ≠ e.1.id := by rwa [hkeyed k w hw]
      simp [makeIpcWindow, hid]
  refine ⟨s', hs', ?_, ?_⟩
  · intro e' he'
    rcases List.mem_append.mp he' with he' | he'
    · have hne : e'.1.id ≠ e.1.id := fun heq =>
        hr.id_not_mem (heq ▸ List.mem_map_of_mem he')
      rw [hget _ hne, h.done_eq e' he', focusDone_append, Option.map_some]
      cases hfocused : e.1.isFocused with
      | true =>
        rw [if_pos rfl, Bool.or_true, finished_unfocus _ _ _ (hr.unfocused he' hfocused)]
      | false => rw [if_neg Bool.false_ne_true, Bool.or_false]
    · rw [List.mem_singleton.mp he', hfinished]
      exact hself
  · intro k hk
    rw [List.map_append, List.mem_append, not_or, List.map_singleton, List.mem_singleton] at hk
    rw [hget k hk.2, h.rest_eq k hk.1, Option.map_map, focusDone_append]
    refine congrArg₂ _ (funext fun o => ?_) rfl
    cases hfocused : e.1.isFocused with
    | true => simp [waiting]
    | false => simp [waiting]

/-- The focus is settled if `e` has it. -/
theorem focus_map {e : Mapped × Option U64} {o : Window}
    (hr : Refreshing old pid (done ++ e :: rest)) (h : Mid old pid done s)
    (ho : old.windows.get e.1.id = some o) (orders : Nat → HashOrder) :
    ∃ s', s.applyAll (if e.1.isFocused && !o.isFocused then
        [.windowFocusChanged (some e.1.id)] else []) orders = some s' ∧
      ∀ k, s'.windows.get k = (s.windows.get k).map fun w =>
        { w with isFocused := if e.1.isFocused then decide (k = e.1.id) else w.isFocused } := by
  have hkeyed := h.keyed hr
  split
  · next hchange =>
    rw [Bool.and_eq_true] at hchange
    obtain ⟨s', hs', hget⟩ := focusChanged_map s (some e.1.id) orders
    refine ⟨s', hs', fun k => ?_⟩
    rw [hget k]
    cases hw : s.windows.get k with
    | none => rfl
    | some w => simp [hkeyed k w hw, hchange.1]
  · next hchange =>
    refine ⟨s, rfl, fun k => ?_⟩
    cases hfocused : e.1.isFocused with
    | false => simp
    | true =>
      have hold : o.isFocused = true := by
        rw [hfocused] at hchange
        simpa using hchange
      have hdone := hr.focusDone_eq hfocused
      cases hw : s.windows.get k with
      | none => rfl
      | some w =>
        have hfocus : w.isFocused = decide (k = e.1.id) := by
          by_cases hk : k ∈ done.map fun e => e.1.id
          · obtain ⟨e', he', rfl⟩ := List.mem_map.mp hk
            have hne : e'.1.id ≠ e.1.id := fun heq => hr.id_not_mem (heq ▸ hk)
            rw [h.done_eq e' he', hdone] at hw
            rw [← Option.some.inj hw, decide_eq_false hne]
            refine finished_unfocused (hr.unfocused he' hfocused) fun o' ho' => ?_
            rw [← Bool.not_eq_true]
            exact fun hfocus' => hne (hr.old_unique _ _ _ _ ho' ho hfocus' hold)
          · rw [h.rest_eq k hk, hdone] at hw
            obtain ⟨o', ho', rfl⟩ := Option.map_eq_some_iff.mp hw
            rw [Bool.eq_iff_iff, decide_eq_true_eq]
            constructor
            · exact fun hfocus' => hr.old_unique _ _ _ _ ho' ho hfocus' hold
            · rintro rfl
              rw [ho] at ho'
              rw [← Option.some.inj ho']
              exact hold
        simp only [Option.map_some, if_true, ← hfocus]

/-- The events of a window that is sent piece by piece. -/
theorem pieces_map {e : Mapped × Option U64} {o : Window}
    (hr : Refreshing old pid (done ++ e :: rest)) (h : Mid old pid done s)
    (ho : old.windows.get e.1.id = some o) (hchanged : isChanged o e.1 e.2 = false)
    (orders : Nat → HashOrder) :
    ∃ s', s.applyAll (old.windowEvents pid e.1 e.2) orders = some s' ∧
      ∀ k, s'.windows.get k = (s.windows.get k).map fun w =>
        if k = e.1.id then
          { w with
            isFocused := if e.1.isFocused then true else w.isFocused
            focusTimestamp := e.1.focusTimestamp
            isUrgent := e.1.isUrgent }
        else { w with isFocused := if e.1.isFocused then false else w.isFocused } := by
  have hkeyed := h.keyed hr
  have hself : s.windows.get e.1.id = some (waiting (focusDone done) o) := by
    rw [h.rest_eq _ hr.id_not_mem, ho]
    rfl
  obtain ⟨s₁, hs₁, hget₁⟩ := focus_map hr h ho orders
  have hkeyed₁ := keyedBy_of_map hkeyed hget₁ fun _ _ => rfl
  have hself₁ := hget₁ e.1.id
  rw [hself, Option.map_some] at hself₁
  -- Where nothing is sent, the window has the timestamp and the urgency already.
  have htimestamp : ∀ orders, ∃ s₂, s₁.applyAll (if e.1.focusTimestamp ≠ o.focusTimestamp then
        [.windowFocusTimestampChanged e.1.id e.1.focusTimestamp] else []) orders = some s₂ ∧
      ∀ k, s₂.windows.get k = (s₁.windows.get k).map fun w =>
        if k = e.1.id then { w with focusTimestamp := e.1.focusTimestamp } else w := by
    intro orders
    split
    · exact focusTimestamp_map hkeyed₁ hself₁ _ orders
    · next heq =>
      rw [not_not] at heq
      refine ⟨s₁, rfl, fun k => ?_⟩
      by_cases hk : k = e.1.id
      · subst hk
        rw [hself₁, heq]
        simp [waiting]
      · simp [hk]
  obtain ⟨s₂, hs₂, hget₂⟩ := htimestamp _
  have hkeyed₂ := keyedBy_of_map hkeyed₁ hget₂ fun k w => by
    by_cases hk : k = e.1.id <;> simp [hk]
  have hself₂ := hget₂ e.1.id
  rw [hself₁, Option.map_some, if_pos rfl] at hself₂
  have hurgency : ∀ orders, ∃ s₃, s₂.applyAll (if e.1.isUrgent ≠ o.isUrgent then
        [.windowUrgencyChanged e.1.id e.1.isUrgent] else []) orders = some s₃ ∧
      ∀ k, s₃.windows.get k = (s₂.windows.get k).map fun w =>
        if k = e.1.id then { w with isUrgent := e.1.isUrgent } else w := by
    intro orders
    split
    · exact urgency_map hkeyed₂ hself₂ _ orders
    · next heq =>
      rw [not_not] at heq
      refine ⟨s₂, rfl, fun k => ?_⟩
      by_cases hk : k = e.1.id
      · subst hk
        rw [hself₂, heq]
        simp [waiting]
      · simp [hk]
  obtain ⟨s₃, hs₃, hget₃⟩ := hurgency _
  refine ⟨s₃, ?_, fun k => ?_⟩
  · rw [windowEvents, ho]
    simp only [hchanged, Bool.false_eq_true, if_false]
    rw [applyAll_append, applyAll_append, hs₁, Option.bind_some, hs₂, Option.bind_some]
    exact hs₃
  · rw [hget₃, hget₂, hget₁, Option.map_map, Option.map_map]
    refine congrArg₂ _ (funext fun w => ?_) rfl
    by_cases hk : k = e.1.id <;> simp [hk]

theorem windowEvents_mid {e : Mapped × Option U64}
    (hr : Refreshing old pid (done ++ e :: rest)) (h : Mid old pid done s)
    (orders : Nat → HashOrder) :
    ∃ s', s.applyAll (old.windowEvents pid e.1 e.2) orders = some s' ∧
      Mid old pid (done ++ [e]) s' := by
  cases ho : old.windows.get e.1.id with
  | none =>
    rw [windowEvents, ho]
    exact openedOrChanged_mid hr h (fun b => by rw [finished, ho]) orders
  | some o =>
  cases hchanged : isChanged o e.1 e.2 with
  | true =>
    rw [windowEvents, ho]
    simp only [hchanged, if_true]
    exact openedOrChanged_mid hr h (fun b => by simp [finished, ho, hchanged]) orders
  | false =>
  obtain ⟨s', hs', hget⟩ := pieces_map hr h ho hchanged orders
  refine ⟨s', hs', ?_, ?_⟩
  · intro e' he'
    rcases List.mem_append.mp he' with he' | he'
    · have hne : e'.1.id ≠ e.1.id := fun heq =>
        hr.id_not_mem (heq ▸ List.mem_map_of_mem he')
      rw [hget, h.done_eq e' he', focusDone_append, Option.map_some, if_neg hne]
      cases hfocused : e.1.isFocused with
      | true =>
        rw [if_pos rfl, Bool.or_true, finished_unfocus _ _ _ (hr.unfocused he' hfocused)]
      | false => rw [if_neg Bool.false_ne_true, Bool.or_false]
    · rw [List.mem_singleton.mp he', hget, h.rest_eq _ hr.id_not_mem, ho, focusDone_append,
        finished, ho]
      simp only [hchanged, Bool.false_eq_true, if_false, Option.map_some, if_true]
      refine congrArg some ?_
      simp only [isChanged, Bool.or_eq_false_iff, bne_eq_false_iff_eq] at hchanged
      obtain ⟨⟨hworkspace, hfloating⟩, htitle, happ⟩ := hchanged
      have hfocus : (if e.1.isFocused then true else (waiting (focusDone done) o).isFocused) =
          if focusDone done || e.1.isFocused then e.1.isFocused else o.isFocused := by
        cases hfocused : e.1.isFocused <;> cases focusDone done <;> simp [waiting]
      rw [hfocus]
      have hid := hr.keyed _ o ho
      have hpid := hr.pid_eq _ o ho
      simp only [waiting, makeIpcWindow, hworkspace, hfloating, htitle, happ, hpid, hid]
  · intro k hk
    rw [List.map_append, List.mem_append, not_or, List.map_singleton, List.mem_singleton] at hk
    rw [hget, h.rest_eq k hk.1, Option.map_map, focusDone_append]
    refine congrArg₂ _ (funext fun w => ?_) rfl
    cases hfocused : e.1.isFocused with
    | true => simp [waiting, hk.2]
    | false => simp [waiting, hk.2]

/-! ## The events of all windows -/

theorem allEvents_mid (hr : Refreshing old pid (done ++ rest)) (h : Mid old pid done s)
    (orders : Nat → HashOrder) :
    ∃ s', s.applyAll (rest.flatMap fun e => old.windowEvents pid e.1 e.2) orders = some s' ∧
      Mid old pid (done ++ rest) s' := by
  induction rest generalizing done s orders with
  | nil => exact ⟨s, rfl, by rwa [List.append_nil]⟩
  | cons e rest ih =>
    have happend : done ++ e :: rest = (done ++ [e]) ++ rest := by rw [List.append_assoc]; rfl
    obtain ⟨s₁, hs₁, h₁⟩ := windowEvents_mid hr h orders
    rw [happend] at hr ⊢
    obtain ⟨s₂, hs₂, h₂⟩ := ih hr h₁ _
    refine ⟨s₂, ?_, h₂⟩
    rw [List.flatMap_cons, applyAll_append, hs₁]
    exact hs₂

/-- The batch of layouts, for windows that are there. -/
theorem changeLayouts_get {changes : List (U64 × WindowLayout)}
    (hnodup : (changes.map Prod.fst).Nodup) (windows : SortedMap U64 Window)
    (hin : ∀ c ∈ changes, windows.get c.1 ≠ none) :
    ∃ windows', changeLayouts windows changes = some windows' ∧
      (∀ c ∈ changes, windows'.get c.1 = (windows.get c.1).map fun w => { w with layout := c.2 }) ∧
      ∀ k, k ∉ changes.map Prod.fst → windows'.get k = windows.get k := by
  induction changes generalizing windows with
  | nil => exact ⟨windows, rfl, by simp, fun _ _ => rfl⟩
  | cons c changes ih =>
    rw [List.map_cons, List.nodup_cons] at hnodup
    have hget : ∀ k, (windows.modify c.1 fun w => { w with layout := c.2 }).get k =
        if k = c.1 then (windows.get c.1).map fun w => { w with layout := c.2 }
        else windows.get k := fun k => SortedMap.get_modify _ _ _ _
    obtain ⟨windows', hchange, hmem, hother⟩ := ih hnodup.2
      (windows.modify c.1 fun w => { w with layout := c.2 }) fun c' hc' => by
        rw [hget]
        split
        · simpa using hin c List.mem_cons_self
        · exact hin c' (List.mem_cons_of_mem _ hc')
    have hcontains : windows.contains c.1 = true :=
      Option.isSome_iff_ne_none.mpr (hin c List.mem_cons_self)
    refine ⟨windows', ?_, ?_, ?_⟩
    · rw [changeLayouts, List.foldlM_cons, if_pos hcontains]
      exact hchange
    · intro c' hc'
      rcases List.mem_cons.mp hc' with rfl | hc'
      · rw [hother _ hnodup.1, hget, if_pos rfl]
      · have hne : c'.1 ≠ c.1 := fun heq => hnodup.1 (heq ▸ List.mem_map_of_mem hc')
        rw [hmem c' hc', hget, if_neg hne]
    · intro k hk
      rw [List.map_cons, List.mem_cons, not_or] at hk
      rw [hother k hk.2, hget, if_neg hk.1]

theorem closed_get {ids : List U64} (hnodup : ids.Nodup) (s : WindowsState)
    (hin : ∀ id ∈ ids, s.windows.get id ≠ none) (orders : Nat → HashOrder) :
    ∃ s', s.applyAll (ids.map Event.windowClosed) orders = some s' ∧
      ∀ k, s'.windows.get k = if k ∈ ids then none else s.windows.get k := by
  induction ids generalizing s orders with
  | nil => exact ⟨s, rfl, fun k => by simp⟩
  | cons id ids ih =>
    rw [List.nodup_cons] at hnodup
    have hcontains : s.windows.contains id = true :=
      Option.isSome_iff_ne_none.mpr (hin id List.mem_cons_self)
    obtain ⟨s', hs', hget⟩ := ih hnodup.2 ⟨s.windows.remove id⟩ (fun id' hid' => by
      have hne : id' ≠ id := fun heq => hnodup.1 (heq ▸ hid')
      rw [SortedMap.get_remove, if_neg hne]
      exact hin id' (List.mem_cons_of_mem _ hid')) fun n => orders (n + 1)
    refine ⟨s', ?_, fun k => ?_⟩
    · rw [List.map_cons, applyAll_cons (by rw [apply, if_pos hcontains])]
      exact hs'
    · rw [hget k, SortedMap.get_remove]
      by_cases hk : k = id
      · subst hk
        simp
      · by_cases hk' : k ∈ ids <;> simp [hk, hk']

/-- The layouts that are sent are those that differ. -/
theorem layoutChange_mem {target : List (Mapped × Option U64)} {c : U64 × WindowLayout}
    (h : c ∈ target.flatMap fun e => old.layoutChange e.1 e.2) : ∃ e ∈ target, ∃ o,
      old.windows.get e.1.id = some o ∧ isChanged o e.1 e.2 = false ∧
        c = (e.1.id, e.1.windowLayout) := by
  obtain ⟨e, he, hc⟩ := List.mem_flatMap.mp h
  refine ⟨e, he, ?_⟩
  rw [layoutChange] at hc
  split at hc
  · cases hc
  · next o ho =>
    split at hc
    · cases hc
    · next hchanged =>
      split at hc
      · exact ⟨o, ho, Bool.eq_false_iff.mpr hchanged, List.mem_singleton.mp hc⟩
      · cases hc

theorem layoutChange_nodup {target : List (Mapped × Option U64)}
    (h : (target.map fun e => e.1.id).Nodup) :
    ((target.flatMap fun e => old.layoutChange e.1 e.2).map Prod.fst).Nodup := by
  refine h.sublist ?_
  clear h
  induction target with
  | nil => exact List.Sublist.refl _
  | cons e target ih =>
    rw [List.flatMap_cons, List.map_append, List.map_cons]
    have hone : ((old.layoutChange e.1 e.2).map Prod.fst).Sublist [e.1.id] := by
      rw [layoutChange]
      split
      · exact List.nil_sublist _
      · split
        · exact List.nil_sublist _
        · split
          · exact List.Sublist.refl _
          · exact List.nil_sublist _
    exact hone.append ih

/-- The layouts are sent, and every window has its new one. -/
theorem layouts_get {target : List (Mapped × Option U64)} (hr : Refreshing old pid target)
    (h : Mid old pid target s) (orders : Nat → HashOrder) :
    ∃ s', s.applyAll (if (target.flatMap fun e => old.layoutChange e.1 e.2) ≠ [] then
        [.windowLayoutsChanged (target.flatMap fun e => old.layoutChange e.1 e.2)] else [])
        orders = some s' ∧
      (∀ e ∈ target, s'.windows.get e.1.id =
        some { finished old pid (focusDone target) e with layout := e.1.windowLayout }) ∧
      ∀ k, k ∉ target.map (fun e => e.1.id) → s'.windows.get k = s.windows.get k := by
  obtain ⟨windows', hchange, hmem, hother⟩ := changeLayouts_get (layoutChange_nodup hr.nodup)
    s.windows fun c hc => by
      obtain ⟨e, he, o, -, -, rfl⟩ := layoutChange_mem hc
      simp [h.done_eq e he]
  refine ⟨⟨windows'⟩, ?_, ?_, ?_⟩
  · split
    · exact applyAll_cons (by rw [apply, hchange]; rfl) []
    · next hnil =>
      rw [not_not] at hnil
      rw [hnil] at hchange
      obtain rfl := Option.some.inj hchange
      rfl
  · intro e he
    by_cases hc : e.1.id ∈ (target.flatMap fun e => old.layoutChange e.1 e.2).map Prod.fst
    · obtain ⟨c, hc, hid⟩ := List.mem_map.mp hc
      have hget := hmem c hc
      obtain ⟨e', he', o, -, -, rfl⟩ := layoutChange_mem hc
      obtain rfl := List.inj_on_of_nodup_map hr.nodup he' he hid
      rw [hget, h.done_eq e' he']
      rfl
    · rw [hother _ hc, h.done_eq e he]
      -- Nothing is sent, since the window has its layout.
      have hlayout : (finished old pid (focusDone target) e).layout = e.1.windowLayout := by
        rw [finished]
        split
        · rfl
        · next o ho =>
          split
          · rfl
          · next hchanged =>
            refine WindowLayout.eq_of_eq (Bool.of_not_eq_false fun hne => ?_)
            refine hc (List.mem_map.mpr ⟨(e.1.id, e.1.windowLayout),
              List.mem_flatMap.mpr ⟨e, he, ?_⟩, rfl⟩)
            rw [layoutChange, ho]
            simp only [hchanged, hne, Bool.not_false, Bool.false_eq_true, if_false, if_true]
            exact List.mem_singleton_self _
      rw [← hlayout]
  · intro k hk
    refine hother k fun hmem' => hk ?_
    obtain ⟨c, hc, rfl⟩ := List.mem_map.mp hmem'
    obtain ⟨e, he, o, -, -, rfl⟩ := layoutChange_mem hc
    exact List.mem_map_of_mem he

/-- A window that is done has what the snapshot says once its layout is sent. -/
theorem finished_layout (old : WindowsState) (pid : U64 → Option Int) (e : Mapped × Option U64) :
    { finished old pid true e with layout := e.1.windowLayout } = makeIpcWindow pid e.1 e.2 := by
  rw [finished]
  split
  · rfl
  · split
    · rfl
    · rfl

/-- Where no window is focused, the one that was is told so. -/
theorem unfocus_get {target : List (Mapped × Option U64)} {s : WindowsState}
    (hget : ∀ e ∈ target, s.windows.get e.1.id =
      some { finished old pid (focusDone target) e with layout := e.1.windowLayout })
    (hother : ∀ k, k ∉ target.map (fun e => e.1.id) → s.windows.get k = none)
    (orders : Nat → HashOrder) :
    ∃ s', s.applyAll (if !focusDone target && old.windows.values.any fun win => win.isFocused then
        [.windowFocusChanged none] else []) orders = some s' ∧
      (∀ e ∈ target, s'.windows.get e.1.id = some (makeIpcWindow pid e.1 e.2)) ∧
      ∀ k, k ∉ target.map (fun e => e.1.id) → s'.windows.get k = none := by
  have hunfocused : focusDone target = false → ∀ e ∈ target, e.1.isFocused = false := by
    intro hdone e he
    rw [focusDone, List.any_eq_false] at hdone
    exact Bool.eq_false_iff.mpr (hdone e he)
  split
  · next hchange =>
    rw [Bool.and_eq_true, Bool.not_eq_true'] at hchange
    obtain ⟨s', hs', hmap⟩ := focusChanged_map s none orders
    refine ⟨s', hs', ?_, ?_⟩
    · intro e he
      rw [hmap, hget e he, ← finished_layout old,
        ← finished_unfocus old pid (focusDone target) (hunfocused hchange.1 e he)]
      rfl
    · intro k hk
      rw [hmap, hother k hk]
      rfl
  · next hchange =>
    refine ⟨s, rfl, fun e he => ?_, hother⟩
    rw [hget e he]
    cases hdone : focusDone target with
    | true => rw [finished_layout]
    | false =>
      have hold : ∀ o, old.windows.get e.1.id = some o → o.isFocused = false := by
        intro o ho
        rw [hdone, Bool.not_false, Bool.true_and, List.any_eq_true] at hchange
        rw [← Bool.not_eq_true]
        exact fun hfocused => hchange ⟨o, SortedMap.mem_values_iff.mpr ⟨_, ho⟩, hfocused⟩
      have hoff := hunfocused hdone e he
      have hsame : ∀ w : Window, w.isFocused = false → { w with isFocused := false } = w := by
        intro w hw
        rw [← hw]
      rw [← hsame (finished old pid false e) (finished_unfocused hoff hold),
        finished_unfocus old pid false hoff, finished_layout]

theorem refresh_applyAll {layout : Layout} (hr : Refreshing old pid layout.windows)
    (order : HashOrder) (orders : Nat → HashOrder) :
    old.applyAll (old.refresh order pid layout) orders =
      some ⟨.ofValues Window.id (layout.ipcWindows pid)⟩ := by
  have hnodup : ((layout.ipcWindows pid).map Window.id).Nodup := by
    rw [Layout.ipcWindows, List.map_map]
    exact hr.nodup
  have hr' : Refreshing old pid ([] ++ layout.windows) := hr
  obtain ⟨s₁, hs₁, h₁⟩ := allEvents_mid hr' (mid_nil old pid) orders
  rw [List.nil_append] at h₁
  obtain ⟨s₂, hs₂, hget₂, hother₂⟩ := layouts_get hr h₁ fun n =>
    orders (n + (layout.windows.flatMap fun e => old.windowEvents pid e.1 e.2).length)
  have hids : ((order.keys old).filter fun id => id ∉ layout.windows.map fun e => e.1.id).Nodup :=
    ((order.perm old).nodup_iff.mpr old.windows.keys_nodup).filter _
  have hclosed : ∀ id ∈ (order.keys old).filter fun id => id ∉ layout.windows.map fun e => e.1.id,
      s₂.windows.get id ≠ none := by
    intro id hid
    rw [List.mem_filter, decide_eq_true_eq] at hid
    have hkey := SortedMap.mem_keys_iff.mp ((order.perm old).mem_iff.mp hid.1)
    rw [hother₂ id hid.2, h₁.rest_eq id hid.2]
    simpa using hkey
  obtain ⟨s₃, hs₃, hget₃⟩ := closed_get hids s₂ hclosed fun n => orders (n + _)
  obtain ⟨s₄, hs₄, hget₄, hother₄⟩ := unfocus_get
    (s := s₃) (fun e he => by
      have hseen : e.1.id ∈ layout.windows.map fun e => e.1.id := List.mem_map_of_mem he
      rw [hget₃, if_neg (by simp [List.mem_filter, hseen]), hget₂ e he])
    (fun k hk => by
      rw [hget₃]
      split
      · rfl
      · next hopen =>
        rw [hother₂ k hk, h₁.rest_eq k hk]
        have hkey : k ∉ order.keys old := fun hmem =>
          hopen (List.mem_filter.mpr ⟨hmem, by simpa using hk⟩)
        rw [(order.perm old).mem_iff, SortedMap.mem_keys_iff, not_not] at hkey
        rw [hkey]
        rfl) fun n => orders (n + _)
  have hall : old.applyAll (old.refresh order pid layout) orders = some s₄ := by
    rw [refresh, applyAll_append, applyAll_append, applyAll_append, hs₁, Option.bind_some, hs₂,
      Option.bind_some, hs₃, Option.bind_some]
    exact hs₄
  have hmap : s₄.windows = .ofValues Window.id (layout.ipcWindows pid) := by
    refine SortedMap.ext_get fun k => Option.ext fun w => ?_
    rw [SortedMap.get_ofValues_eq_some_iff hnodup]
    constructor
    · intro hw
      by_cases hk : k ∈ layout.windows.map fun e => e.1.id
      · obtain ⟨e, he, rfl⟩ := List.mem_map.mp hk
        rw [hget₄ e he] at hw
        rw [← Option.some.inj hw]
        exact ⟨List.mem_map_of_mem he, rfl⟩
      · rw [hother₄ k hk] at hw
        cases hw
    · rintro ⟨hw, rfl⟩
      obtain ⟨e, he, rfl⟩ := List.mem_map.mp hw
      exact hget₄ e he
  rw [hall, ← hmap]

end WindowsState

end Cidre.Ipc
