/-
  Cidre.Lib.FileTree

  Directories, as what is at every path below them, and what `mkdir -p`, `cp` and `cp -r`
  put there.

  `cp` and `cp -r` put what they copy inside of the destination when that is a directory
  already (`landing`).  A command that would put a file over a directory or a directory over
  a file fails.  There are no symbolic links.
-/

import Mathlib.Data.List.AList
import Mathlib.Data.List.Infix
import Cidre.Lib.Run

namespace Cidre.FileTree

open Run

inductive Node (Content : Type) where
  | file (content : Content)
  | dir
deriving DecidableEq

namespace Node

variable {Content : Type}

def isDir : Node Content → Bool
  | .file _ => false
  | .dir => true

@[simp] theorem isDir_iff (n : Node Content) : n.isDir = true ↔ n = .dir := by
  cases n <;> simp [isDir]

/-- A node comes to where nothing is, and a file over a file. -/
def fits : Option (Node Content) → Node Content → Bool
  | none, _ => true
  | some (.file _), .file _ => true
  | _, _ => false

theorem fits_dir (n : Node Content) : fits (some .dir) n = false := by
  cases n <;> rfl

end Node

/-- Neither path is at or below the other. -/
def Apart {Name : Type} (p q : List Name) : Prop := ¬p <+: q ∧ ¬q <+: p

theorem Apart.symm {Name : Type} {p q : List Name} (h : Apart p q) : Apart q p := ⟨h.2, h.1⟩

instance {Name : Type} : Std.Symm (@Apart Name) := ⟨fun _ _ h => h.symm⟩

instance {Name : Type} [DecidableEq Name] {p q : List Name} : Decidable (Apart p q) :=
  inferInstanceAs (Decidable (_ ∧ _))

/-- What is at or below one of two paths that are apart is apart from the other. -/
theorem Apart.of_isPrefix {Name : Type} {p q r : List Name} (h : Apart p q) (hr : p <+: r) :
    Apart r q := by
  refine ⟨fun hrq => h.1 (hr.trans hrq), fun hqr => ?_⟩
  rcases List.prefix_or_prefix_of_prefix hr hqr with hpq | hqp
  · exact h.1 hpq
  · exact h.2 hqp

variable {Name Content : Type} [DecidableEq Name]

/-- Nothing but a directory has something below it. -/
structure Tree (Name Content : Type) [DecidableEq Name] where
  entries : AList fun _ : List Name => Node Content
  closed : ∀ path name n, entries.lookup (path ++ [name]) = some n →
    path = [] ∨ entries.lookup path = some .dir

namespace Tree

def empty : Tree Name Content where
  entries := ∅
  closed path name n h := by simp at h

variable (t : Tree Name Content)

def nodeAt (path : List Name) : Option (Node Content) :=
  if path = [] then some .dir else t.entries.lookup path

/-- `[ -d path ]` -/
def isDir (path : List Name) : Bool := ((t.nodeAt path).map Node.isDir).getD false

/-- `find -type f`, with the contents. -/
def files : List (List Name × Content) :=
  t.entries.keys.filterMap fun path =>
    match t.nodeAt path with
    | some (.file content) => some (path, content)
    | _ => none

/-- What is at and below a path, seen from there. -/
def below (path : List Name) : List (List Name × Node Content) :=
  t.entries.keys.filterMap fun p =>
    if path <+: p then (t.nodeAt p).map fun n => (p.drop path.length, n) else none

@[simp] theorem nodeAt_nil : t.nodeAt [] = some .dir := rfl

theorem nodeAt_of_ne {path : List Name} (h : path ≠ []) : t.nodeAt path = t.entries.lookup path :=
  if_neg h

@[simp] theorem isDir_iff (path : List Name) : t.isDir path = true ↔ t.nodeAt path = some .dir := by
  unfold isDir
  cases t.nodeAt path <;> simp

variable {t} {path : List Name} {n : Node Content}

theorem nodeAt_parent {name : Name} (h : t.nodeAt (path ++ [name]) = some n) :
    t.nodeAt path = some .dir := by
  rw [t.nodeAt_of_ne (by simp)] at h
  rcases t.closed path name n h with rfl | hdir
  · rfl
  · unfold nodeAt
    rw [hdir, ite_self]

/-- What has something below it is a directory. -/
theorem nodeAt_of_isPrefix {q : List Name} (h : t.nodeAt path = some n) (hq : q <+: path)
    (hne : q ≠ path) : t.nodeAt q = some .dir := by
  obtain ⟨rest, rfl⟩ := hq
  induction rest using List.reverseRecOn generalizing n with
  | nil => exact absurd (List.append_nil q).symm hne
  | append_singleton rest name ih =>
    rw [← List.append_assoc] at h
    have hparent := nodeAt_parent h
    by_cases hrest : q = q ++ rest
    · rw [hrest]
      exact hparent
    · exact ih hparent hrest

theorem mem_keys_iff (hne : path ≠ []) : path ∈ t.entries.keys ↔ t.nodeAt path ≠ none := by
  rw [nodeAt_of_ne t hne, Ne, AList.lookup_eq_none, not_not, AList.mem_keys]

theorem mem_files {content : Content} :
    (path, content) ∈ t.files ↔ t.nodeAt path = some (.file content) := by
  unfold files
  rw [List.mem_filterMap]
  constructor
  · rintro ⟨p, -, hp⟩
    split at hp
    · rename_i c hc
      obtain ⟨rfl, rfl⟩ : p = path ∧ c = content := by simpa using hp
      exact hc
    · exact absurd hp (by simp)
  · intro h
    have hne : path ≠ [] := by
      rintro rfl
      exact absurd h (by simp)
    exact ⟨path, (mem_keys_iff hne).mpr (by simp [h]), by rw [h]⟩

theorem mem_below {rest : List Name} (hne : path ≠ []) :
    (rest, n) ∈ t.below path ↔ t.nodeAt (path ++ rest) = some n := by
  unfold below
  rw [List.mem_filterMap]
  constructor
  · rintro ⟨p, -, hp⟩
    split at hp
    · rename_i hpre
      obtain ⟨q, rfl⟩ := hpre
      obtain ⟨n', hn', heq⟩ := Option.map_eq_some_iff.mp hp
      rw [List.drop_left, Prod.mk.injEq] at heq
      rw [← heq.1, ← heq.2]
      exact hn'
    · exact absurd hp (by simp)
  · intro h
    refine ⟨path ++ rest, (mem_keys_iff (by simp [hne])).mpr (by simp [h]), ?_⟩
    rw [if_pos (List.prefix_append path rest), h, List.drop_left]
    rfl

variable {t' : Tree Name Content}

/-- Different files are not below each other. -/
theorem files_apart {p q : List Name} {c c' : Content} (hp : t.nodeAt p = some (.file c))
    (hq : t.nodeAt q = some (.file c')) (hne : p ≠ q) : Apart p q := by
  constructor
  · intro hpre
    have hdir := nodeAt_of_isPrefix hq hpre hne
    rw [hp] at hdir
    exact absurd hdir (by simp)
  · intro hpre
    have hdir := nodeAt_of_isPrefix hp hpre hne.symm
    rw [hq] at hdir
    exact absurd hdir (by simp)

theorem files_pairwise (t : Tree Name Content) :
    t.files.Pairwise fun e e' => Apart e.1 e'.1 := by
  have hnodup : t.entries.keys.Nodup := t.entries.keys_nodup
  have hmem : ∀ e ∈ t.files, t.nodeAt e.1 = some (.file e.2) := fun e he => mem_files.mp he
  -- the keys of the map are distinct, and the files are among them
  have hpaths : (t.files.map Prod.fst).Nodup := by
    refine hnodup.sublist ?_
    unfold files
    generalize t.entries.keys = keys
    induction keys with
    | nil => exact List.Sublist.refl []
    | cons p keys ih =>
      rw [List.filterMap_cons]
      split
      · exact ih.cons p
      · rename_i e he
        split at he
        · obtain rfl := Option.some.inj he
          exact ih.cons_cons p
        · exact absurd he (by simp)
  have hne : t.files.Pairwise fun e e' => e.1 ≠ e'.1 := List.pairwise_map.mp hpaths
  exact hne.imp_of_mem fun he he' hdiff => files_apart (hmem _ he) (hmem _ he') hdiff

/-! ## One node -/

/-- A node at a path whose parent is a directory. -/
def insert (t : Tree Name Content) (path : List Name) (n : Node Content)
    (hparent : t.isDir path.dropLast = true) (hfits : Node.fits (t.nodeAt path) n = true) :
    Tree Name Content where
  entries := t.entries.insert path n
  closed := by
    intro p name n' h
    by_cases hp : p = path
    · -- nothing is below a path that a node comes to
      subst hp
      rw [AList.lookup_insert_ne (by simp)] at h
      have hdir := nodeAt_parent ((t.nodeAt_of_ne (by simp)).trans h)
      rw [hdir, Node.fits_dir] at hfits
      exact absurd hfits Bool.false_ne_true
    · rw [AList.lookup_insert_ne hp]
      by_cases hpath : p ++ [name] = path
      · subst hpath
        rw [List.dropLast_concat, isDir_iff, nodeAt] at hparent
        split at hparent
        · exact .inl ‹_›
        · exact .inr hparent
      · rw [AList.lookup_insert_ne hpath] at h
        exact t.closed p name n' h

def put (t : Tree Name Content) (path : List Name) (n : Node Content) :
    Option (Tree Name Content) :=
  if t.isDir path && n.isDir then some t
  else if h : t.isDir path.dropLast = true ∧ Node.fits (t.nodeAt path) n = true then
    some (t.insert path n h.1 h.2)
  else none

theorem put_nodeAt (h : t.put path n = some t') (q : List Name) :
    t'.nodeAt q = if q = path then some n else t.nodeAt q := by
  unfold put at h
  split at h
  · -- a directory that is there already
    rename_i hdirs
    obtain ⟨hpath, hn⟩ := Bool.and_eq_true_iff.mp hdirs
    rw [isDir_iff] at hpath
    rw [Node.isDir_iff] at hn
    obtain rfl := Option.some.inj h
    split
    · rename_i heq
      rw [heq, hpath, hn]
    · rfl
  · split at h
    · rename_i hfits
      obtain rfl := Option.some.inj h
      have hne : path ≠ [] := by
        rintro rfl
        rw [nodeAt_nil, Node.fits_dir] at hfits
        exact absurd hfits.2 Bool.false_ne_true
      split
      · rename_i heq
        rw [heq, nodeAt_of_ne _ hne]
        exact AList.lookup_insert t.entries
      · rename_i hq
        unfold nodeAt
        rw [insert, AList.lookup_insert_ne hq]
    · exact absurd h (by simp)

/-- A file is not put over a directory, nor a directory over a file. -/
theorem put_same_kind (h : t.put path n = some t') {old : Node Content}
    (hold : t.nodeAt path = some old) : old.isDir = n.isDir := by
  unfold put at h
  split at h
  · rename_i hdirs
    obtain ⟨hpath, hn⟩ := Bool.and_eq_true_iff.mp hdirs
    rw [isDir_iff, hold, Option.some.injEq] at hpath
    rw [hpath, hn]
    rfl
  · split at h
    · rename_i hfits
      rw [hold] at hfits
      obtain ⟨-, hfits⟩ := hfits
      cases old <;> cases n <;> simp_all [Node.fits, Node.isDir]
    · exact absurd h (by simp)

/-! ## Many nodes -/

def puts (t : Tree Name Content) (l : List (List Name × Node Content)) :
    Option (Tree Name Content) :=
  run (fun t e => t.put e.1 e.2) t l

variable {l : List (List Name × Node Content)}

/-- What is not written stays. -/
theorem puts_frame (h : t.puts l = some t') {q : List Name} (hq : ∀ n, (q, n) ∉ l) :
    t'.nodeAt q = t.nodeAt q := by
  unfold puts at h
  induction l generalizing t with
  | nil =>
    obtain rfl := Option.some.inj h
    rfl
  | cons e l ih =>
    rw [run_cons] at h
    obtain ⟨t₁, h₁, h⟩ := Option.bind_eq_some_iff.mp h
    rw [ih h fun n hn => hq n (List.mem_cons_of_mem e hn), put_nodeAt h₁]
    refine if_neg ?_
    rintro rfl
    exact hq e.2 List.mem_cons_self

/-- What is written at a path is there afterwards, if all that is written there is the
same. -/
theorem puts_written (h : t.puts l = some t') {q : List Name} (hmem : (q, n) ∈ l)
    (hall : ∀ n', (q, n') ∈ l → n' = n) : t'.nodeAt q = some n := by
  unfold puts at h
  induction l generalizing t with
  | nil => exact absurd hmem List.not_mem_nil
  | cons e l ih =>
    rw [run_cons] at h
    obtain ⟨t₁, h₁, h⟩ := Option.bind_eq_some_iff.mp h
    have hall' : ∀ n', (q, n') ∈ l → n' = n := fun n' hn' => hall n' (List.mem_cons_of_mem e hn')
    -- the last that is written at a path is what stays
    by_cases hlater : (q, n) ∈ l
    · exact ih h hlater hall'
    · have he : e = (q, n) := by
        rcases List.mem_cons.mp hmem with heq | hl
        · exact heq.symm
        · exact absurd hl hlater
      have hnone : ∀ n', (q, n') ∉ l := by
        intro n' hn'
        obtain rfl := hall' n' hn'
        exact hlater hn'
      rw [puts_frame h hnone, put_nodeAt h₁, he]
      exact if_pos rfl

/-- Files stay files, and directories directories. -/
theorem puts_same_kind (h : t.puts l = some t') {q : List Name} {old : Node Content}
    (hold : t.nodeAt q = some old) : ∃ n, t'.nodeAt q = some n ∧ n.isDir = old.isDir := by
  unfold puts at h
  induction l generalizing t old with
  | nil =>
    obtain rfl := Option.some.inj h
    exact ⟨old, hold, rfl⟩
  | cons e l ih =>
    rw [run_cons] at h
    obtain ⟨t₁, h₁, h⟩ := Option.bind_eq_some_iff.mp h
    have hnode := put_nodeAt h₁ q
    -- the kind is that of `old` before and after the first node
    by_cases hq : q = e.1
    · rw [if_pos hq] at hnode
      obtain ⟨n, hn, hkind⟩ := ih h hnode
      refine ⟨n, hn, hkind.trans ?_⟩
      rw [hq] at hold
      exact (put_same_kind h₁ hold).symm
    · rw [if_neg hq, hold] at hnode
      exact ih h hnode

/-- A file where a directory was written would have stopped the run. -/
theorem puts_not_file (h : t.puts l = some t') {q : List Name} (hdir : t'.nodeAt q = some .dir)
    (c : Content) : t.nodeAt q ≠ some (.file c) := by
  intro hfile
  obtain ⟨n, hn, hkind⟩ := puts_same_kind h hfile
  rw [hdir, Option.some.injEq] at hn
  subst hn
  exact absurd hkind (by simp [Node.isDir])

/-! ## mkdir -p -/

def mkdirs (t : Tree Name Content) (path : List Name) : Option (Tree Name Content) :=
  t.puts (path.inits.map fun p => (p, .dir))

theorem mkdirs_nodeAt (h : t.mkdirs path = some t') (q : List Name) :
    t'.nodeAt q = if q <+: path then some .dir else t.nodeAt q := by
  split
  · rename_i hq
    refine puts_written h (List.mem_map.mpr ⟨q, (List.mem_inits q path).mpr hq, rfl⟩) ?_
    intro n' hn'
    obtain ⟨p, -, heq⟩ := List.mem_map.mp hn'
    exact (Prod.mk.inj heq).2.symm
  · rename_i hq
    refine puts_frame h fun n hn => ?_
    obtain ⟨p, hp, heq⟩ := List.mem_map.mp hn
    rw [← (Prod.mk.inj heq).1, ← List.mem_inits] at hq
    exact hq hp

theorem mkdirs_not_file (h : t.mkdirs path = some t') {q : List Name} (hq : q <+: path)
    (c : Content) : t.nodeAt q ≠ some (.file c) := by
  refine puts_not_file h ?_ c
  rw [mkdirs_nodeAt h, if_pos hq]

/-! ## cp -/

/-- Where `cp` puts what has the name `base`. -/
def landing (t : Tree Name Content) (base : Name) (dest : List Name) : List Name :=
  if t.isDir dest then dest ++ [base] else dest

/-- `cp` of a file. -/
def cp (t : Tree Name Content) (base : Name) (content : Content) (dest : List Name) :
    Option (Tree Name Content) :=
  t.put (t.landing base dest) (.file content)

/-- What `cp -r` writes for a directory that lands at `target`. -/
def copies (source : Tree Name Content) (src target : List Name) :
    List (List Name × Node Content) :=
  (source.below src).flatMap fun e =>
    e.1.dropLast.inits.map (fun rest => (target ++ rest, .dir)) ++ [(target ++ e.1, e.2)]

/-- `cp -r` of a directory. -/
def cpR (t source : Tree Name Content) (base : Name) (src dest : List Name) :
    Option (Tree Name Content) :=
  t.puts (source.copies src (t.landing base dest))

variable {source : Tree Name Content} {src target : List Name}

/-- A copy has what the directory has. -/
theorem mem_copies (hsrc : src ≠ []) (hdir : source.nodeAt src = some .dir) {q : List Name} :
    (q, n) ∈ source.copies src target ↔
      ∃ rest, q = target ++ rest ∧ source.nodeAt (src ++ rest) = some n := by
  unfold copies
  rw [List.mem_flatMap]
  constructor
  · rintro ⟨⟨rest, n'⟩, hmem, hq⟩
    rw [mem_below hsrc] at hmem
    rcases List.mem_append.mp hq with habove | hself
    · -- a directory on the way to the entry
      obtain ⟨r, hr, heq⟩ := List.mem_map.mp habove
      obtain ⟨rfl, rfl⟩ := Prod.mk.inj heq
      refine ⟨r, rfl, ?_⟩
      have hr' : r <+: rest.dropLast := (List.mem_inits _ _).mp hr
      have hpre : r <+: rest := hr'.trans (List.dropLast_prefix rest)
      by_cases hrest : r = rest
      · -- only the empty path is at its own parent
        have hnil : rest = [] := by
          by_contra hne
          have hlen := hr'.length_le
          have hpos := List.length_pos_iff.mpr hne
          rw [hrest, List.length_dropLast] at hlen
          omega
        rw [hrest, hnil, List.append_nil]
        exact hdir
      · exact nodeAt_of_isPrefix hmem ((List.prefix_append_right_inj src).mpr hpre)
          (by simpa using hrest)
    · -- the entry itself
      obtain ⟨rfl, rfl⟩ := Prod.mk.inj (List.mem_singleton.mp hself)
      exact ⟨rest, rfl, hmem⟩
  · rintro ⟨rest, rfl, hn⟩
    exact ⟨(rest, n), (mem_below hsrc).mpr hn,
      List.mem_append_right _ (List.mem_singleton_self _)⟩

/-- What is at and below the place where `cp -r` lands. -/
theorem copies_nodeAt (hsrc : src ≠ []) (hdir : source.nodeAt src = some .dir)
    (h : t.puts (source.copies src target) = some t') (rest : List Name) :
    t'.nodeAt (target ++ rest) = (source.nodeAt (src ++ rest)).or (t.nodeAt (target ++ rest)) := by
  cases hnode : source.nodeAt (src ++ rest) with
  | some n =>
    refine puts_written h ((mem_copies hsrc hdir).mpr ⟨rest, rfl, hnode⟩) fun n' hn' => ?_
    obtain ⟨r, hr, hn'⟩ := (mem_copies hsrc hdir).mp hn'
    rw [← List.append_cancel_left hr, hnode] at hn'
    exact (Option.some.inj hn').symm
  | none =>
    refine puts_frame h fun n hn => ?_
    obtain ⟨r, hr, hn⟩ := (mem_copies hsrc hdir).mp hn
    rw [← List.append_cancel_left hr, hnode] at hn
    exact absurd hn (by simp)

theorem copies_frame (hsrc : src ≠ []) (hdir : source.nodeAt src = some .dir)
    (h : t.puts (source.copies src target) = some t') {q : List Name} (hq : ¬target <+: q) :
    t'.nodeAt q = t.nodeAt q := by
  refine puts_frame h fun n hn => ?_
  obtain ⟨rest, rfl, -⟩ := (mem_copies hsrc hdir).mp hn
  exact hq (List.prefix_append target rest)

end Tree

end Cidre.FileTree
