/-
  Cidre.Recovery.Snapshot

  The snapshots of the configuration (`scripts/jackrose-snapshot`): `create`, `restore` and
  `prune`, what a restore loses, and what a snapshot keeps over a run of the script.

  The home is what lies outside of the directory of the snapshots, and a snapshot is what
  lies in its `files`.  A command that fails ends the script, and `jq` is code outside of it.
  Left out are symbolic links, and names with a line break in them or blanks at their ends,
  which `find | while read -r` splits or trims.
-/

import Cidre.Recovery.UserSetup

namespace Cidre.Recovery

open FileTree Run

variable {Content : Type}

/-! ## The script -/

structure State (Content : Type) where
  home : Tree String Content
  snapshots : AList fun _ : String => Tree String Content

def manifestPath : Path := [".local", "state", "jackrose", "manifest.json"]

def defaultManifest : Manifest where
  files :=
    [[".config", "niri", "config.kdl"],
      [".config", "niri", "config.jackrose.kdl"],
      [".config", "fuzzel", "fuzzel.ini"],
      [".config", "ghostty", "config"],
      [".config", "fcitx5", "profile"],
      [".config", "environment.d", "90-jackrose-ime.conf"],
      [".config", "waybar", "config"],
      [".config", "waybar", "style.css"],
      [".local", "share", "applications", "com.mitchellh.ghostty.desktop"],
      [".local", "share", "backgrounds", "jackrose-wallpaper.png"],
      [".config", "fish", "config.fish"],
      [".config", "starship", "starship.toml"],
      [".config", "mimeapps.list"]]
  apart := by decide +kernel

/-- `jq -r '.files | keys[]'`, where it is installed. -/
abbrev Jq (Content : Type) := Option (Content → Option Manifest)

def getManagedFiles (jq : Jq Content) (home : Tree String Content) : Option Manifest :=
  match jq, home.nodeAt manifestPath with
  | some keys, some (.file manifest) => keys manifest
  | _, _ => some defaultManifest

/-- The body of the loop of `create`. -/
def copyManaged (home dest : Tree String Content) (file : Path) : Option (Tree String Content) :=
  match home.nodeAt file, file.getLast? with
  | none, _ => some dest
  | some (.file content), some base => do
      let dest ← dest.mkdirs file.dropLast
      dest.cp base content file
  | some .dir, some base => do
      let dest ← dest.mkdirs file.dropLast
      dest.cpR home base file file
  -- the home cannot be copied into a directory of its own
  | some _, none => none

def snapshotId (now label : String) : String :=
  if label = "" then now else now ++ "-" ++ label

/-- The files of a snapshot, and none before there is one. -/
def State.filesOf (s : State Content) (id : String) : Tree String Content :=
  (s.snapshots.lookup id).getD .empty

def create (jq : Jq Content) (s : State Content) (now label : String) : Option (State Content) := do
  let manifest ← getManagedFiles jq s.home
  let id := snapshotId now label
  let dest ← run (copyManaged s.home) (s.filesOf id) manifest.files
  return { s with snapshots := s.snapshots.insert id dest }

/-- The body of the loop of `restore`. -/
def restoreFile (home : Tree String Content) (file : Path × Content) :
    Option (Tree String Content) := do
  let base ← file.1.getLast?
  let home ← home.mkdirs file.1.dropLast
  home.cp base file.2 file.1

/-- The snapshot that is named, or the last one in the order of the names. -/
def resolve (s : State Content) (arg : String) : Option String :=
  if arg = "" ∨ arg = "latest" then (s.snapshots.keys.mergeSort fun a b => a ≤ b).getLast?
  else some arg

/-- `restore`, once it was confirmed. -/
def restore (jq : Jq Content) (s : State Content) (now arg : String) : Option (State Content) := do
  let id ← resolve s arg
  if (s.snapshots.lookup id).isNone then none
  else
    let s ← create jq s now ("pre-restore-" ++ id)
    let home ← run restoreFile s.home (s.filesOf id).files
    return { s with home }

def safetyId (now id : String) : String := snapshotId now ("pre-restore-" ++ id)

/-! ## What `create` keeps -/

/-- What `cp -r` takes to `q` when it copies `file` into the directory that is there. -/
def nested (home : Tree String Content) (file q : Path) : Option (Node Content) :=
  match file.getLast? with
  | some base => if file ++ [base] <+: q then home.nodeAt (file ++ q.drop (file.length + 1)) else none
  | none => none

variable {home home' dest dest' : Tree String Content} {file q : Path} {base : String}

theorem nested_append (hbase : file.getLast? = some base) (rest : Path) :
    nested home file (file ++ [base] ++ rest) = home.nodeAt (file ++ rest) := by
  rw [nested, hbase]
  dsimp only
  rw [if_pos (List.prefix_append _ rest)]
  have hlen : file.length + 1 = (file ++ [base]).length := by simp
  rw [hlen, List.drop_left]

theorem nested_of_not_isPrefix (hbase : file.getLast? = some base) (hq : ¬file ++ [base] <+: q) :
    nested home file q = none := by
  rw [nested, hbase]
  exact if_neg hq

/-- Only what is below an entry is copied into it. -/
theorem prefix_of_nested (h : nested home file q ≠ none) : file <+: q := by
  unfold nested at h
  split at h
  · rename_i base _
    split at h
    · exact (List.prefix_append file [base]).trans ‹_›
    · exact absurd rfl h
  · exact absurd rfl h

theorem not_prefix_dropLast (hbase : file.getLast? = some base) (hq : file <+: q) :
    ¬q <+: file.dropLast := by
  intro h
  have hlen := (hq.trans h).length_le
  have hne : file ≠ [] := by
    rintro rfl
    exact absurd hbase (by simp)
  have hpos := List.length_pos_iff.mpr hne
  rw [List.length_dropLast] at hlen
  omega

/-- The directories above an entry are no concern of what is at or below it. -/
theorem mkdirs_below (hbase : file.getLast? = some base)
    (h : dest.mkdirs file.dropLast = some dest') (hq : file <+: q) :
    dest'.nodeAt q = dest.nodeAt q := by
  rw [Tree.mkdirs_nodeAt h, if_neg (not_prefix_dropLast hbase hq)]

theorem mkdirs_apart (h : dest.mkdirs file.dropLast = some dest') (hq : Apart file q) :
    dest'.nodeAt q = dest.nodeAt q := by
  rw [Tree.mkdirs_nodeAt h, if_neg fun hpre => hq.2 (hpre.trans (List.dropLast_prefix file))]

theorem prefix_landing (t : Tree String Content) (base : String) (file : Path) :
    file <+: t.landing base file := by
  unfold Tree.landing
  split
  · exact List.prefix_append file [base]
  · exact List.prefix_refl file

/-- What is done for an entry that there is. -/
theorem copyManaged_cases (h : copyManaged home dest file = some dest')
    (hfile : home.nodeAt file ≠ none) :
    ∃ base dest₁, file.getLast? = some base ∧ dest.mkdirs file.dropLast = some dest₁ ∧
      ((∃ c, home.nodeAt file = some (.file c) ∧ dest₁.cp base c file = some dest') ∨
        (home.nodeAt file = some .dir ∧ dest₁.cpR home base file file = some dest')) := by
  unfold copyManaged at h
  split at h
  · rename_i hnone
    exact absurd hnone hfile
  · rename_i content base hcontent hbase
    obtain ⟨dest₁, h₁, hcp⟩ := Option.bind_eq_some_iff.mp h
    exact ⟨base, dest₁, hbase, h₁, .inl ⟨content, hcontent, hcp⟩⟩
  · rename_i base hdir hbase
    obtain ⟨dest₁, h₁, hcp⟩ := Option.bind_eq_some_iff.mp h
    exact ⟨base, dest₁, hbase, h₁, .inr ⟨hdir, hcp⟩⟩
  · exact absurd h (by simp)

theorem ne_nil_of_getLast? (hbase : file.getLast? = some base) : file ≠ [] := by
  rintro rfl
  exact absurd hbase (by simp)

theorem copyManaged_absent (hfile : home.nodeAt file = none) :
    copyManaged home dest file = some dest := by
  rw [copyManaged, hfile]

/-- An entry is copied to nowhere but at or below its own path. -/
theorem copyManaged_apart (h : copyManaged home dest file = some dest') (hq : Apart file q) :
    dest'.nodeAt q = dest.nodeAt q := by
  by_cases hfile : home.nodeAt file = none
  · rw [copyManaged_absent hfile] at h
    obtain rfl := Option.some.inj h
    rfl
  · obtain ⟨base, dest₁, hbase, h₁, hcopy⟩ := copyManaged_cases h hfile
    have hlanding : ¬dest₁.landing base file <+: q := fun hpre =>
      hq.1 ((prefix_landing dest₁ base file).trans hpre)
    rw [← mkdirs_apart h₁ hq]
    rcases hcopy with ⟨c, -, hcp⟩ | ⟨hdir, hcp⟩
    · rw [Tree.put_nodeAt hcp]
      refine if_neg ?_
      rintro rfl
      exact hlanding (List.prefix_refl _)
    · exact Tree.copies_frame (ne_nil_of_getLast? hbase) hdir hcp hlanding

/-- Below a path that is no directory is nothing. -/
theorem nodeAt_below {t : Tree String Content} (hdir : t.nodeAt file ≠ some .dir)
    (hq : file <+: q) (hne : q ≠ file) : t.nodeAt q = none := by
  by_contra hsome
  obtain ⟨n, hn⟩ := Option.ne_none_iff_exists'.mp hsome
  exact hdir (Tree.nodeAt_of_isPrefix hn hq hne.symm)

/-- A file that is copied into a directory. -/
theorem cp_nested {c : Content} (hbase : file.getLast? = some base)
    (hc : home.nodeAt file = some (.file c)) (hlanding : dest.landing base file = file ++ [base])
    (hcp : dest.cp base c file = some dest') (hq : file <+: q) :
    dest'.nodeAt q = (nested home file q).or (dest.nodeAt q) := by
  rw [Tree.put_nodeAt hcp, hlanding]
  split
  · rename_i heq
    have happend := @nested_append _ home file base hbase []
    rw [List.append_nil, List.append_nil, hc] at happend
    rw [heq, happend]
    rfl
  · rename_i hne
    have hnone : nested home file q = none := by
      by_cases hpre : file ++ [base] <+: q
      · obtain ⟨rest, rfl⟩ := hpre
        rw [nested_append hbase]
        refine nodeAt_below ?_ (List.prefix_append file rest) ?_
        · rw [hc]
          simp
        · intro heq
          have hrest : rest = [] := by simpa using heq
          exact hne (by rw [hrest, List.append_nil])
      · exact nested_of_not_isPrefix hbase hpre
    rw [hnone, Option.none_or]

/-- A directory that is copied into a directory. -/
theorem cpR_nested (hbase : file.getLast? = some base) (hdir : home.nodeAt file = some .dir)
    (hlanding : dest.landing base file = file ++ [base])
    (hcp : dest.cpR home base file file = some dest') :
    dest'.nodeAt q = (nested home file q).or (dest.nodeAt q) := by
  unfold Tree.cpR at hcp
  rw [hlanding] at hcp
  have hne := ne_nil_of_getLast? hbase
  by_cases hpre : file ++ [base] <+: q
  · obtain ⟨rest, rfl⟩ := hpre
    rw [nested_append hbase]
    exact Tree.copies_nodeAt hne hdir hcp rest
  · rw [nested_of_not_isPrefix hbase hpre, Option.none_or]
    exact Tree.copies_frame hne hdir hcp hpre

/-- What is at and below an entry after it was copied: what the home has there, or, where
it was copied into a directory, what was there and what that brought. -/
theorem copyManaged_covers (h : copyManaged home dest file = some dest')
    (hfile : home.nodeAt file ≠ none) (hq : file <+: q) :
    dest'.nodeAt q =
      if dest.isDir file then (nested home file q).or (dest.nodeAt q) else home.nodeAt q := by
  obtain ⟨base, dest₁, hbase, h₁, hcopy⟩ := copyManaged_cases h hfile
  have hsame := mkdirs_below hbase h₁ hq
  have hisDir : dest₁.isDir file = dest.isDir file := by
    unfold Tree.isDir
    rw [mkdirs_below hbase h₁ (List.prefix_refl file)]
  -- `cp` lands inside a directory that is there, and else on the path itself
  by_cases hdest : dest.isDir file = true
  · rw [if_pos hdest, ← hsame]
    have hlanding : dest₁.landing base file = file ++ [base] := if_pos (hisDir.trans hdest)
    rcases hcopy with ⟨c, hc, hcp⟩ | ⟨hdir, hcp⟩
    · exact cp_nested hbase hc hlanding hcp hq
    · exact cpR_nested hbase hdir hlanding hcp
  · rw [if_neg hdest]
    have hlanding : dest₁.landing base file = file := if_neg (by rwa [hisDir])
    have hnothing : q ≠ file → dest₁.nodeAt q = none := by
      refine nodeAt_below ?_ hq
      rwa [Ne, ← Tree.isDir_iff, hisDir]
    rcases hcopy with ⟨c, hc, hcp⟩ | ⟨hdir, hcp⟩
    · rw [Tree.put_nodeAt hcp, hlanding]
      split
      · rename_i heq
        rw [heq, hc]
      · rename_i hne
        rw [hnothing hne]
        refine (nodeAt_below ?_ hq hne).symm
        rw [hc]
        simp
    · obtain ⟨rest, rfl⟩ := hq
      unfold Tree.cpR at hcp
      rw [hlanding] at hcp
      rw [Tree.copies_nodeAt (ne_nil_of_getLast? hbase) hdir hcp]
      by_cases hne : file ++ rest = file
      · rw [hne, hdir]
        rfl
      · rw [hnothing hne, Option.or_none]

variable {files : List Path} {f : Path} {c : Content}

theorem run_copyManaged_apart (h : run (copyManaged home) dest files = some dest')
    (hq : ∀ m ∈ files, Apart m q) : dest'.nodeAt q = dest.nodeAt q := by
  induction files generalizing dest with
  | nil =>
    obtain rfl := Option.some.inj h
    rfl
  | cons m files ih =>
    rw [run_cons] at h
    obtain ⟨dest₁, h₁, h⟩ := Option.bind_eq_some_iff.mp h
    obtain ⟨hm, hfiles⟩ := List.forall_mem_cons.mp hq
    rw [ih h hfiles, copyManaged_apart h₁ hm]

/-- A file of the home that is at or below no entry is not copied. -/
theorem run_copyManaged_uncovered (h : run (copyManaged home) dest files = some dest')
    (hf : home.nodeAt f = some (.file c)) (hfiles : ∀ m ∈ files, ¬m <+: f) :
    dest'.nodeAt f = dest.nodeAt f := by
  induction files generalizing dest with
  | nil =>
    obtain rfl := Option.some.inj h
    rfl
  | cons m files ih =>
    rw [run_cons] at h
    obtain ⟨dest₁, h₁, h⟩ := Option.bind_eq_some_iff.mp h
    obtain ⟨hm, hfiles⟩ := List.forall_mem_cons.mp hfiles
    rw [ih h hfiles]
    by_cases hbelow : f <+: m
    · -- an entry below a file is not there
      have hne : m ≠ f := by
        rintro rfl
        exact hm (List.prefix_refl m)
      have habsent : home.nodeAt m = none := nodeAt_below (by simp [hf]) hbelow hne
      rw [copyManaged_absent habsent] at h₁
      obtain rfl := Option.some.inj h₁
      rfl
    · exact copyManaged_apart h₁ ⟨hm, hbelow⟩

/-- An entry is copied as if the others were not, since they are apart from it. -/
theorem run_copyManaged_covers (h : run (copyManaged home) dest files = some dest')
    (hapart : files.Pairwise Apart) {m : Path} (hmem : m ∈ files)
    (hm : home.nodeAt m ≠ none) (hq : m <+: q) :
    dest'.nodeAt q =
      if dest.isDir m then (nested home m q).or (dest.nodeAt q) else home.nodeAt q := by
  induction files generalizing dest with
  | nil => exact absurd hmem List.not_mem_nil
  | cons m' files ih =>
    rw [run_cons] at h
    obtain ⟨dest₁, h₁, htail⟩ := Option.bind_eq_some_iff.mp h
    obtain ⟨hhead, hapart⟩ := List.pairwise_cons.mp hapart
    -- the entries before and after `m` do not touch what is below it
    rcases List.mem_cons.mp hmem with rfl | hmem
    · rw [run_copyManaged_apart htail fun p hp => ((hhead p hp).of_isPrefix hq).symm]
      exact copyManaged_covers h₁ hm hq
    · have hsame : ∀ p, m <+: p → dest₁.nodeAt p = dest.nodeAt p := fun p hp =>
        copyManaged_apart h₁ ((hhead m hmem).symm.of_isPrefix hp).symm
      rw [ih htail hapart hmem, hsame q hq]
      unfold Tree.isDir
      rw [hsame m (List.prefix_refl m)]

/-- At most one entry has a file at or below it. -/
theorem only_cover (hapart : files.Pairwise Apart) {m m' : Path} (hmem : m ∈ files)
    (hmem' : m' ∈ files) (hm : m <+: f) (hm' : m' <+: f) : m = m' := by
  by_contra hne
  exact ((hapart.forall hmem hmem' hne).of_isPrefix hm).2 hm'

/-- A file of the home will be in a snapshot as it is: it is at or below an entry that the
snapshot does not have as a directory, or the snapshot has its content before, in its place
or where a directory is copied into the one that is there. -/
def Kept (home dest : Tree String Content) (files : List Path) (f : Path) (c : Content) : Prop :=
  (∃ m ∈ files, m <+: f ∧ dest.isDir m = false) ∨
    (files.findSome? fun m => nested home m f).or (dest.nodeAt f) = some (.file c)

theorem findSome?_nested (hapart : files.Pairwise Apart) {m : Path} (hmem : m ∈ files)
    (hm : m <+: f) : (files.findSome? fun m => nested home m f) = nested home m f := by
  cases hfound : files.findSome? fun m => nested home m f with
  | none => exact (List.findSome?_eq_none_iff.mp hfound m hmem).symm
  | some n =>
    obtain ⟨m', hmem', hn⟩ := List.exists_of_findSome?_eq_some hfound
    have hpre : m' <+: f := prefix_of_nested (hn ▸ Option.some_ne_none n)
    rw [only_cover hapart hmem' hmem hpre hm] at hn
    exact hn.symm

/-- What the snapshot has of a file of the home after `create`. -/
theorem run_copyManaged_iff (h : run (copyManaged home) dest files = some dest')
    (hapart : files.Pairwise Apart) (hf : home.nodeAt f = some (.file c)) :
    dest'.nodeAt f = some (.file c) ↔ Kept home dest files f c := by
  -- a file below no entry is in the snapshot only if it was before
  by_cases hcover : ∃ m ∈ files, m <+: f
  · obtain ⟨m, hmem, hm⟩ := hcover
    have hthere : home.nodeAt m ≠ none := by
      by_cases heq : m = f
      · simp [heq, hf]
      · simp [Tree.nodeAt_of_isPrefix hf hm heq]
    rw [run_copyManaged_covers h hapart hmem hthere hm]
    unfold Kept
    rw [findSome?_nested hapart hmem hm]
    cases hdir : dest.isDir m with
    | false => exact iff_of_true hf (.inl ⟨m, hmem, hm, hdir⟩)
    | true =>
      refine (or_iff_right ?_).symm
      rintro ⟨m', hmem', hm', hnot⟩
      rw [only_cover hapart hmem' hmem hm' hm, hdir] at hnot
      exact absurd hnot (by simp)
  · have hfiles : ∀ m ∈ files, ¬m <+: f := fun m hmem hm => hcover ⟨m, hmem, hm⟩
    have hnone : (files.findSome? fun m => nested home m f) = none := by
      refine List.findSome?_eq_none_iff.mpr fun m hmem => ?_
      by_contra hnested
      exact hfiles m hmem (prefix_of_nested hnested)
    rw [run_copyManaged_uncovered h hf hfiles, Kept, hnone, Option.none_or]
    refine (or_iff_right ?_).symm
    rintro ⟨m, hmem, hm, -⟩
    exact hfiles m hmem hm

/-! ## What `restore` overwrites -/

/-- Where a file of a snapshot goes in the home. -/
def lands (home : Tree String Content) (file : Path) : Option Path :=
  file.getLast?.map fun base => home.landing base file

theorem prefix_of_lands (h : lands home file = some f) : file <+: f := by
  obtain ⟨base, -, rfl⟩ := Option.map_eq_some_iff.mp h
  exact prefix_landing home base file

theorem lands_congr (h : home'.nodeAt file = home.nodeAt file) :
    lands home' file = lands home file := by
  unfold lands Tree.landing Tree.isDir
  rw [h]

/-- A file goes to its own path unless there is a directory. -/
theorem lands_self {n : Node Content} (hn : home.nodeAt file = some n) (hfile : n.isDir = false) :
    lands home file = some file := by
  have hne : file ≠ [] := by
    rintro rfl
    rw [Tree.nodeAt_nil, Option.some.injEq] at hn
    rw [← hn] at hfile
    exact absurd hfile (by simp [Node.isDir])
  have hnot : home.isDir file = false := by
    rw [Tree.isDir, hn]
    exact hfile
  rw [lands, List.getLast?_eq_some_getLast hne, Option.map_some, Tree.landing, hnot]
  rfl

/-- What is restored is where it lands, and the other files stay. -/
theorem restoreFile_spec {e : Path × Content} (h : restoreFile home e = some home') :
    ∃ target, lands home e.1 = some target ∧ home'.nodeAt target = some (.file e.2) ∧
      (∀ f c, home.nodeAt f = some (.file c) → f ≠ target → home'.nodeAt f = some (.file c)) ∧
      ∀ q, Apart e.1 q → home'.nodeAt q = home.nodeAt q := by
  obtain ⟨base, hbase, h⟩ := Option.bind_eq_some_iff.mp h
  obtain ⟨home₁, h₁, hcp⟩ := Option.bind_eq_some_iff.mp h
  -- the directories above do not change where `cp` lands
  have hlanding : home₁.landing base e.1 = home.landing base e.1 := by
    unfold Tree.landing Tree.isDir
    rw [mkdirs_below hbase h₁ (List.prefix_refl e.1)]
  have hnode := Tree.put_nodeAt hcp
  rw [hlanding] at hnode
  refine ⟨home.landing base e.1, by rw [lands, hbase, Option.map_some], ?_, ?_, ?_⟩
  · rw [hnode, if_pos rfl]
  · intro f c hf hne
    rw [hnode, if_neg hne, Tree.mkdirs_nodeAt h₁, if_neg, hf]
    intro hpre
    exact Tree.mkdirs_not_file h₁ hpre c hf
  · intro q hq
    rw [hnode, if_neg, mkdirs_apart h₁ hq]
    rintro rfl
    exact hq.1 (prefix_landing home base e.1)

variable {l : List (Path × Content)}

/-- A file that nothing lands on stays. -/
theorem run_restoreFile_other (h : run restoreFile home l = some home')
    (hapart : l.Pairwise fun e e' => Apart e.1 e'.1) (hf : home.nodeAt f = some (.file c))
    (hother : ∀ e ∈ l, lands home e.1 ≠ some f) : home'.nodeAt f = some (.file c) := by
  induction l generalizing home with
  | nil =>
    obtain rfl := Option.some.inj h
    exact hf
  | cons e l ih =>
    rw [run_cons] at h
    obtain ⟨home₁, h₁, hrun⟩ := Option.bind_eq_some_iff.mp h
    obtain ⟨hhead, htail⟩ := List.pairwise_cons.mp hapart
    obtain ⟨hne, hother⟩ := List.forall_mem_cons.mp hother
    obtain ⟨target, htarget, -, hstay, hframe⟩ := restoreFile_spec h₁
    have hf₁ : home₁.nodeAt f = some (.file c) := by
      refine hstay f c hf ?_
      rintro rfl
      exact hne htarget
    refine ih hrun htail hf₁ fun e' he' => ?_
    rw [lands_congr (hframe e'.1 (hhead e' he'))]
    exact hother e' he'

/-- A file of the snapshot is where it lands: no other lands there. -/
theorem run_restoreFile_onto (h : run restoreFile home l = some home')
    (hapart : l.Pairwise fun e e' => Apart e.1 e'.1) {e : Path × Content} (he : e ∈ l)
    (hlands : lands home e.1 = some f) : home'.nodeAt f = some (.file e.2) := by
  induction l generalizing home with
  | nil => exact absurd he List.not_mem_nil
  | cons e₀ l ih =>
    rw [run_cons] at h
    obtain ⟨home₁, h₁, hrun⟩ := Option.bind_eq_some_iff.mp h
    obtain ⟨hhead, htail⟩ := List.pairwise_cons.mp hapart
    obtain ⟨target, htarget, hwritten, -, hframe⟩ := restoreFile_spec h₁
    -- no other file of the snapshot lands on `f`
    rcases List.mem_cons.mp he with rfl | hmem
    · obtain rfl : f = target := Option.some.inj (hlands.symm.trans htarget)
      refine run_restoreFile_other hrun htail hwritten fun e' he' hlands' => ?_
      have hpre := prefix_of_lands hlands'
      exact ((hhead e' he').of_isPrefix (prefix_of_lands hlands)).2 hpre
    · refine ih hrun htail hmem ?_
      rw [lands_congr (hframe e.1 (hhead e hmem))]
      exact hlands

/-! ## Restores -/

variable {jq : Jq Content} {s s' : State Content} {now arg id : String}

theorem safetyId_length (now id : String) :
    (safetyId now id).length = now.length + 13 + id.length := by
  have hlabel : "pre-restore-" ++ id ≠ "" := by
    intro hempty
    have hlen := congrArg String.length hempty
    rw [String.length_append] at hlen
    simp at hlen
  have hpre : ("pre-restore-").length = 12 := rfl
  have hdash : ("-").length = 1 := rfl
  rw [safetyId, snapshotId, if_neg hlabel]
  rw [String.length_append, String.length_append, String.length_append, hpre, hdash]
  omega

theorem safetyId_ne (now id : String) : safetyId now id ≠ id := by
  intro heq
  have hlen := safetyId_length now id
  rw [heq] at hlen
  omega

/-- The safety snapshot can be named in a restore. -/
theorem resolve_safetyId (s : State Content) (now id : String) :
    resolve s (safetyId now id) = some (safetyId now id) := by
  refine if_neg ?_
  have hlen := safetyId_length now id
  have hlatest : ("latest").length = 6 := rfl
  have hempty : ("").length = 0 := rfl
  rintro (heq | heq)
  · rw [heq] at hlen
    omega
  · rw [heq] at hlen
    omega

theorem filesOf_insert (s : State Content) (id : String) (dest : Tree String Content) :
    { s with snapshots := s.snapshots.insert id dest }.filesOf id = dest := by
  rw [State.filesOf, AList.lookup_insert]
  rfl

theorem filesOf_insert_ne (s : State Content) {id id' : String} (hne : id' ≠ id)
    (dest : Tree String Content) :
    { s with snapshots := s.snapshots.insert id dest }.filesOf id' = s.filesOf id' := by
  rw [State.filesOf, AList.lookup_insert_ne hne]
  rfl

/-- `create` writes one snapshot, over what was there under its name. -/
theorem create_cases {label : String} (h : create jq s now label = some s') :
    ∃ manifest dest, getManagedFiles jq s.home = some manifest ∧
      run (copyManaged s.home) (s.filesOf (snapshotId now label)) manifest.files = some dest ∧
      s' = { s with snapshots := s.snapshots.insert (snapshotId now label) dest } := by
  obtain ⟨manifest, hmanifest, h⟩ := Option.bind_eq_some_iff.mp h
  obtain ⟨dest, hdest, h⟩ := Option.bind_eq_some_iff.mp h
  exact ⟨manifest, dest, hmanifest, hdest, (Option.some.inj h).symm⟩

/-- A restore takes a safety snapshot and changes no other. -/
theorem restore_creates (hrestore : restore jq s now arg = some s') :
    ∃ id s₁, resolve s arg = some id ∧ s.snapshots.lookup id ≠ none ∧
      create jq s now ("pre-restore-" ++ id) = some s₁ ∧ s'.snapshots = s₁.snapshots ∧
      run restoreFile s₁.home (s₁.filesOf id).files = some s'.home := by
  obtain ⟨id, hid, h⟩ := Option.bind_eq_some_iff.mp hrestore
  split at h
  · exact absurd h (by simp)
  · rename_i hthere
    obtain ⟨s₁, hcreate, h⟩ := Option.bind_eq_some_iff.mp h
    obtain ⟨home', hrun, h⟩ := Option.bind_eq_some_iff.mp h
    obtain rfl := Option.some.inj h
    exact ⟨id, s₁, hid, by simpa using hthere, hcreate, rfl, hrun⟩

/-- A restore that succeeds: the safety snapshot holds the managed files, and then the files
of the snapshot go to the home. -/
theorem restore_cases (hresolve : resolve s arg = some id)
    (hrestore : restore jq s now arg = some s') :
    ∃ manifest, getManagedFiles jq s.home = some manifest ∧
      run (copyManaged s.home) (s.filesOf (safetyId now id)) manifest.files =
        some (s'.filesOf (safetyId now id)) ∧
      run restoreFile s.home (s.filesOf id).files = some s'.home := by
  obtain ⟨id', s₁, hid, -, hcreate, hsame, hrun⟩ := restore_creates hrestore
  obtain rfl := Option.some.inj (hresolve.symm.trans hid)
  obtain ⟨manifest, dest, hmanifest, hdest, rfl⟩ := create_cases hcreate
  refine ⟨manifest, hmanifest, ?_, ?_⟩
  · have hsafety : s'.filesOf (safetyId now id) = dest := by
      rw [State.filesOf, hsame]
      exact filesOf_insert s (safetyId now id) dest
    rw [hsafety]
    exact hdest
  · -- the safety snapshot is not the one that is restored
    have hother := filesOf_insert_ne s (safetyId_ne now id).symm dest
    rw [← hother]
    exact hrun

/-- A restore leaves the files of the snapshot where they land, and of the other files of
the home every one as it was. -/
theorem restore_exact (hresolve : resolve s arg = some id)
    (hrestore : restore jq s now arg = some s') :
    (∀ e ∈ (s.filesOf id).files, ∀ f, lands s.home e.1 = some f →
      s'.home.nodeAt f = some (.file e.2)) ∧
    ∀ f c, s.home.nodeAt f = some (.file c) →
      (∀ e ∈ (s.filesOf id).files, lands s.home e.1 ≠ some f) →
        s'.home.nodeAt f = some (.file c) := by
  obtain ⟨-, -, -, hrun⟩ := restore_cases hresolve hrestore
  have hapart := (s.filesOf id).files_pairwise
  exact ⟨fun e he f hlands => run_restoreFile_onto hrun hapart he hlands,
    fun f c hf hother => run_restoreFile_other hrun hapart hf hother⟩

/-- The content of a file that the restore changed. -/
def Changed (s s' : State Content) (f : Path) (c : Content) : Prop :=
  s.home.nodeAt f = some (.file c) ∧ s'.home.nodeAt f ≠ some (.file c)

/-- A file of the snapshot goes to where the home has a file with another content. -/
def Overwrites (s : State Content) (id : String) (f : Path) (c : Content) : Prop :=
  s.home.nodeAt f = some (.file c) ∧
    ∃ e ∈ (s.filesOf id).files, lands s.home e.1 = some f ∧ e.2 ≠ c

theorem changed_iff (hresolve : resolve s arg = some id)
    (hrestore : restore jq s now arg = some s') : Changed s s' f c ↔ Overwrites s id f c := by
  obtain ⟨-, -, -, hrun⟩ := restore_cases hresolve hrestore
  have hapart := (s.filesOf id).files_pairwise
  refine and_congr_right fun hf => ⟨fun hchanged => ?_, ?_⟩
  · by_contra hnone
    refine hchanged ?_
    -- a file that nothing lands on is not changed
    by_cases hlands : ∃ e ∈ (s.filesOf id).files, lands s.home e.1 = some f
    · obtain ⟨e, he, hlands⟩ := hlands
      rw [run_restoreFile_onto hrun hapart he hlands]
      by_contra hne
      exact hnone ⟨e, he, hlands, fun heq => hne (by rw [heq])⟩
    · exact run_restoreFile_other hrun hapart hf fun e he hl => hlands ⟨e, he, hl⟩
  · rintro ⟨e, he, hlands, hne⟩
    rw [run_restoreFile_onto hrun hapart he hlands]
    simpa using hne

/-- The managed files. -/
def managed (jq : Jq Content) (home : Tree String Content) : List Path :=
  ((getManagedFiles jq home).map Manifest.files).getD []

/-- The safety snapshot has every file that the restore changed as it was, and the restore
of the safety snapshot brings it back. -/
def LosesNothing (jq : Jq Content) (s : State Content) (now id : String) (s' : State Content) :
    Prop :=
  ∀ f c, Changed s s' f c →
    (s'.filesOf (safetyId now id)).nodeAt f = some (.file c) ∧
      ∀ now' s'', restore jq s' now' (safetyId now id) = some s'' →
        s''.home.nodeAt f = some (.file c)

/-- A file of the safety snapshot comes back to where a file is. -/
theorem restore_safety {s'' : State Content} {now' : String} {old : Content}
    (hsafe : (s'.filesOf (safetyId now id)).nodeAt f = some (.file c))
    (hf : s'.home.nodeAt f = some (.file old))
    (hrestore : restore jq s' now' (safetyId now id) = some s'') :
    s''.home.nodeAt f = some (.file c) := by
  obtain ⟨-, -, -, hrun⟩ := restore_cases (resolve_safetyId s' now id) hrestore
  -- the file that is there now shows that it lands on its own path
  exact run_restoreFile_onto hrun (Tree.files_pairwise _) (Tree.mem_files.mpr hsafe)
    (lands_self hf rfl)

/-- A file that a restore changed is a file still. -/
theorem changed_file (hresolve : resolve s arg = some id)
    (hrestore : restore jq s now arg = some s') (hchanged : Changed s s' f c) :
    ∃ old, s'.home.nodeAt f = some (.file old) := by
  obtain ⟨-, e, he, hlands, -⟩ := (changed_iff hresolve hrestore).mp hchanged
  obtain ⟨-, -, -, hrun⟩ := restore_cases hresolve hrestore
  exact ⟨e.2, run_restoreFile_onto hrun (Tree.files_pairwise _) he hlands⟩

/-- A restore loses nothing exactly when every file that it overwrites with another content
will be kept. -/
theorem restore_losesNothing_iff (hresolve : resolve s arg = some id)
    (hrestore : restore jq s now arg = some s') :
    LosesNothing jq s now id s' ↔
      ∀ f c, Overwrites s id f c →
        Kept s.home (s.filesOf (safetyId now id)) (managed jq s.home) f c := by
  obtain ⟨manifest, hmanifest, hsafety, -⟩ := restore_cases hresolve hrestore
  have hmanaged : managed jq s.home = manifest.files := by
    rw [managed, hmanifest]
    rfl
  rw [hmanaged]
  constructor
  · intro h f c hover
    obtain ⟨hsafe, -⟩ := h f c ((changed_iff hresolve hrestore).mpr hover)
    exact (run_copyManaged_iff hsafety manifest.apart hover.1).mp hsafe
  · intro h f c hchanged
    have hover := (changed_iff hresolve hrestore).mp hchanged
    have hsafe := (run_copyManaged_iff hsafety manifest.apart hover.1).mpr (h f c hover)
    obtain ⟨old, hold⟩ := changed_file hresolve hrestore hchanged
    exact ⟨hsafe, fun now' s'' hagain => restore_safety hsafe hold hagain⟩

/-- A directory with the given files. -/
def treeOf (files : List (Path × Content)) : Tree String Content :=
  (run restoreFile .empty files).getD .empty

/-- What prints the manifest after the profile for the desktop was applied. -/
def desktopJq : Jq Nat := some fun _ => some (.applied (fun _ => true) ["desktop"])

def preApply : String := "20260701-090000-pre-apply-desktop"

/-- A home with a snapshot from before the profile was applied, whose file differs. -/
def appliedHome (file : Path) : State Nat where
  home := treeOf [(manifestPath, 0), (file, 2)]
  snapshots := AList.singleton preApply (treeOf [(file, 1)])

def waybarHome : State Nat := appliedHome [".config", "waybar", "config"]

theorem restore_losesNothing_waybar :
    ∃ s', restore desktopJq waybarHome "20260702-090000" preApply = some s' ∧
      (LosesNothing desktopJq waybarHome "20260702-090000" preApply s' ↔
        ∀ f c, Overwrites waybarHome preApply f c →
          Kept waybarHome.home (waybarHome.filesOf (safetyId "20260702-090000" preApply))
            (managed desktopJq waybarHome.home) f c) := by
  have hresolve : resolve waybarHome preApply = some preApply := rfl
  exact ⟨_, rfl, restore_losesNothing_iff hresolve rfl⟩

/-- `style.css` was a file when the snapshot was made, and is a directory now. -/
def themedHome : State Nat where
  home := treeOf [(manifestPath, 0), ([".config", "waybar", "config"], 2),
    ([".config", "waybar", "style.css", "dark.css"], 3)]
  snapshots := AList.singleton preApply
    (treeOf [([".config", "waybar", "config"], 1), ([".config", "waybar", "style.css"], 4)])

/-- One file is restored to its path and the other into the directory that is there, where
the file of the home stays. -/
theorem restore_exact_waybar :
    ∃ s', restore desktopJq themedHome "20260702-090000" preApply = some s' ∧
      s'.home.nodeAt [".config", "waybar", "config"] = some (.file 1) ∧
      s'.home.nodeAt [".config", "waybar", "style.css", "style.css"] = some (.file 4) ∧
      s'.home.nodeAt [".config", "waybar", "style.css", "dark.css"] = some (.file 3) := by
  have hresolve : resolve themedHome preApply = some preApply := rfl
  obtain ⟨hback, hstays⟩ := restore_exact hresolve
    (show restore desktopJq themedHome "20260702-090000" preApply = _ from rfl)
  refine ⟨_, rfl, hback ([".config", "waybar", "config"], 1) (by decide) _ rfl,
    hback ([".config", "waybar", "style.css"], 4) (by decide) _ rfl, ?_⟩
  exact hstays [".config", "waybar", "style.css", "dark.css"] 3 rfl (by decide)

/-- The profile writes `mimeapps.list`, but its manifest does not name it. -/
def mimeappsHome : State Nat := appliedHome [".config", "mimeapps.list"]

theorem mimeapps_lost :
    ∃ s', restore desktopJq mimeappsHome "20260702-090000" preApply = some s' ∧
      ¬LosesNothing desktopJq mimeappsHome "20260702-090000" preApply s' := by
  refine ⟨_, rfl, fun h => ?_⟩
  exact absurd (h [".config", "mimeapps.list"] 2 ⟨rfl, by decide⟩).1 (by decide)

/-! ## Runs -/

/-- What `prune` is asked to delete: what `--older-than` finds too old, or all but the last
`--keep`. -/
inductive Limit where
  | olderThan (old : String → Bool)
  | keep (count : ℕ)

/-- `TO_DELETE`: the latest snapshot is always protected. -/
def toDelete (s : State Content) (limit : Limit) : List String :=
  let all := s.snapshots.keys.mergeSort fun a b => a ≤ b
  match limit with
  | .olderThan old => all.filter fun id => some id ≠ all.getLast? ∧ old id
  | .keep count => (all.take (all.length - count)).filter fun id => some id ≠ all.getLast?

/-- `prune`, once it was confirmed. -/
def prune (s : State Content) (limit : Limit) : State Content :=
  { s with snapshots := (toDelete s limit).foldl (fun snapshots id => snapshots.erase id) s.snapshots }

inductive Op (Content : Type) where
  /-- the user works on the home -/
  | edit (home : Tree String Content)
  | create (now label : String)
  | restore (now arg : String)
  | prune (limit : Limit)

def step (jq : Jq Content) (s : State Content) : Op Content → Option (State Content)
  | .edit home => some { s with home }
  | .create now label => create jq s now label
  | .restore now arg => restore jq s now arg
  | .prune limit => some (prune s limit)

/-- The snapshot is one that the operation creates: a time of its own keeps it from that. -/
def Op.Writes (id : String) : Op Content → Prop
  | .create now label => id = snapshotId now label
  | .restore now _ => ∃ restored, id = safetyId now restored
  | _ => False

theorem lookup_foldl_erase (snapshots : AList fun _ : String => Tree String Content)
    (ids : List String) (id : String) :
    (ids.foldl (fun snapshots id => snapshots.erase id) snapshots).lookup id =
      if id ∈ ids then none else snapshots.lookup id := by
  induction ids generalizing snapshots with
  | nil => rfl
  | cons deleted ids ih =>
    rw [List.foldl_cons, ih]
    by_cases heq : id = deleted
    · rw [heq, AList.lookup_erase, ite_self, if_pos List.mem_cons_self]
    · simp [heq, AList.lookup_erase_ne]

theorem create_lookup {label : String} (h : create jq s now label = some s')
    (hne : id ≠ snapshotId now label) : s'.snapshots.lookup id = s.snapshots.lookup id := by
  obtain ⟨manifest, dest, -, -, rfl⟩ := create_cases h
  exact AList.lookup_insert_ne hne

/-- A snapshot that an operation does not write is deleted or stays. -/
theorem step_lookup {op : Op Content} (hop : ¬op.Writes id) (h : step jq s op = some s') :
    s'.snapshots.lookup id = none ∨ s'.snapshots.lookup id = s.snapshots.lookup id := by
  cases op with
  | edit home =>
    obtain rfl := Option.some.inj h
    exact .inr rfl
  | create now label => exact .inr (create_lookup h hop)
  | restore now arg =>
    obtain ⟨restored, s₁, -, -, hcreate, hsame, -⟩ := restore_creates h
    exact .inr (hsame ▸ create_lookup hcreate fun heq => hop ⟨restored, heq⟩)
  | prune limit =>
    obtain rfl := Option.some.inj h
    rw [prune, lookup_foldl_erase]
    split
    · exact .inl rfl
    · exact .inr rfl

theorem run_lookup {ops : List (Op Content)} (hops : ∀ op ∈ ops, ¬op.Writes id)
    (h : run (step jq) s ops = some s') :
    s'.snapshots.lookup id = none ∨ s'.snapshots.lookup id = s.snapshots.lookup id := by
  have hmeet : StepsMeet (step jq) (fun _ op => ¬Op.Writes id op) s ops :=
    stepsMeet_of_mem (fun op hop _ => hops op hop) s
  have hinv : ∀ t op t', (t.snapshots.lookup id = none ∨
      t.snapshots.lookup id = s.snapshots.lookup id) → ¬Op.Writes id op → step jq t op = some t' →
      t'.snapshots.lookup id = none ∨ t'.snapshots.lookup id = s.snapshots.lookup id := by
    intro t op t' ht hop hstep
    -- what is deleted stays deleted
    rcases step_lookup hop hstep with hnone | hsame
    · exact .inl hnone
    · rw [hsame]
      exact ht
  exact run_invariant_of_steps hinv hmeet h (.inr rfl)

/-- The whole home is no managed file. -/
theorem ne_nil_of_run {m : Path} (h : run (copyManaged home) dest files = some dest')
    (hmem : m ∈ files) : m ≠ [] := by
  rintro rfl
  obtain ⟨before, after, rfl⟩ := List.append_of_mem hmem
  rw [run_append] at h
  obtain ⟨dest₁, -, h⟩ := Option.bind_eq_some_iff.mp h
  simp [copyManaged] at h

/-- A new snapshot is restored as it was taken, whatever was done since: every managed file
of the home is back, where `cp` puts it. -/
theorem restore_of_create {label now' : String} {s₁ s'' : State Content} {ops : List (Op Content)}
    (hnew : s.snapshots.lookup (snapshotId now label) = none)
    (hcreate : create jq s now label = some s₁) (hrun : run (step jq) s₁ ops = some s')
    (hops : ∀ op ∈ ops, ¬op.Writes (snapshotId now label))
    (hresolve : resolve s' arg = some (snapshotId now label))
    (hrestore : restore jq s' now' arg = some s'') {m : Path} (hmem : m ∈ managed jq s.home)
    (hm : m <+: f) (hf : s.home.nodeAt f = some (.file c)) :
    ∃ target, lands s'.home f = some target ∧ s''.home.nodeAt target = some (.file c) := by
  obtain ⟨manifest, dest, hmanifest, hdest, rfl⟩ := create_cases hcreate
  rw [managed, hmanifest] at hmem
  rw [State.filesOf, hnew] at hdest
  -- the snapshot has the file
  have hne := ne_nil_of_run hdest hmem
  have hdir : (Tree.empty : Tree String Content).isDir m = false := by
    rw [Tree.isDir, Tree.nodeAt_of_ne _ hne]
    rfl
  have hsaved := (run_copyManaged_iff hdest manifest.apart hf).mpr (.inl ⟨m, hmem, hm, hdir⟩)
  -- and has not changed, since it is there
  obtain ⟨id, -, hid, hthere, -⟩ := restore_creates hrestore
  obtain rfl : snapshotId now label = id := Option.some.inj (hresolve.symm.trans hid)
  have hkept : s'.filesOf (snapshotId now label) = dest := by
    rw [State.filesOf, (run_lookup hops hrun).resolve_left hthere]
    exact filesOf_insert s (snapshotId now label) dest
  obtain ⟨-, -, -, hrun'⟩ := restore_cases hresolve hrestore
  rw [hkept] at hrun'
  have hlands : lands s'.home f = some (s'.home.landing (f.getLast (hm.ne_nil hne)) f) := by
    rw [lands, List.getLast?_eq_some_getLast, Option.map_some]
  exact ⟨_, hlands,
    run_restoreFile_onto hrun' (Tree.files_pairwise _) (Tree.mem_files.mpr hsaved) hlands⟩

/-- The home is emptied after a snapshot, and the file comes back. -/
theorem restore_of_create_waybar :
    ∃ s₁ s' s'', create desktopJq waybarHome "20260702-090000" "" = some s₁ ∧
      run (step desktopJq) s₁ [.edit .empty, .create "20260702-100000" ""] = some s' ∧
      restore desktopJq s' "20260702-110000" "20260702-090000" = some s'' ∧
      ∃ target, lands s'.home [".config", "waybar", "config"] = some target ∧
        s''.home.nodeAt target = some (.file 2) := by
  refine ⟨_, _, _, rfl, rfl, rfl, restore_of_create rfl
    (show create desktopJq waybarHome "20260702-090000" "" = _ from rfl)
    (show run _ _ [.edit .empty, .create "20260702-100000" ""] = _ from rfl) ?_ rfl
    (show restore _ _ "20260702-110000" "20260702-090000" = _ from rfl)
    (show [".config", "waybar", "config"] ∈ _ by decide) (List.prefix_refl _) rfl⟩
  simp [Op.Writes, snapshotId]

end Cidre.Recovery
