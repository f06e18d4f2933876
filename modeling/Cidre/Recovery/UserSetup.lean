/-
  Cidre.Recovery.UserSetup

  The profiles of `components/config/bin/jackrose-user-setup` and the files that its
  manifest names.
-/

import Cidre.Lib.FileTree

namespace Cidre.Recovery

open FileTree Run

/-- A path in the home. -/
abbrev Path := List String

/-- What each profile adds: the default and where it is deployed. -/
def profiles : List (String × List (String × Path)) :=
  [("minimal", [
      ("niri/config.kdl", [".config", "niri", "config.kdl"]),
      ("niri/config.kdl", [".config", "niri", "config.jackrose.kdl"]),
      ("fuzzel/fuzzel.ini", [".config", "fuzzel", "fuzzel.ini"])]),
    ("desktop", [
      ("quickshell", [".config", "quickshell"]),
      ("cava", [".config", "cava"]),
      ("bin", [".local", "bin"]),
      ("ghostty/config", [".config", "ghostty", "config"]),
      ("ghostty/themes/catppuccin-mocha", [".config", "ghostty", "themes", "catppuccin-mocha"]),
      ("fcitx5/profile", [".config", "fcitx5", "profile"]),
      ("fish/config.fish", [".config", "fish", "config.fish"]),
      ("starship/starship.toml", [".config", "starship", "starship.toml"]),
      ("environment.d/70-jackrose-session.conf",
        [".config", "environment.d", "70-jackrose-session.conf"]),
      ("environment.d/80-fcitx5.conf", [".config", "environment.d", "80-fcitx5.conf"]),
      ("environment.d/90-jackrose-ime.conf",
        [".config", "environment.d", "90-jackrose-ime.conf"]),
      ("niri/config.kdl", [".config", "niri", "config.kdl"]),
      ("niri/config.kdl", [".config", "niri", "config.jackrose.kdl"]),
      ("fuzzel/fuzzel.ini", [".config", "fuzzel", "fuzzel.ini"]),
      ("waybar/config", [".config", "waybar", "config"]),
      ("waybar/style.css", [".config", "waybar", "style.css"]),
      ("applications/ghostty.desktop", [".local", "share", "applications", "ghostty.desktop"]),
      ("backgrounds/jackrose-glass-mocha.png",
        [".local", "share", "backgrounds", "jackrose-glass-mocha.png"])]),
    ("developer", []),
    ("full", [])]

/-- The files of the profiles up to the one that is named. -/
def filesUpTo (profileName : String) :
    List (String × List (String × Path)) → List (String × Path)
  | [] => []
  | p :: rest => if p.1 = profileName then p.2 else p.2 ++ filesUpTo profileName rest

def getProfileFiles (profileName : String) : List (String × Path) :=
  let profileName :=
    if profileName = "student" then "desktop"
    else if profileName = "recovery" then "minimal"
    else profileName
  filesUpTo (if profileName ∈ profiles.map Prod.fst then profileName else "desktop") profiles

/-- The key of a file that is deployed; `sourceExists` tells which defaults there are. -/
def deploy (sourceExists : String → Bool) (keys : List Path) (file : String × Path) : List Path :=
  if sourceExists file.1 && !keys.contains file.2 then keys ++ [file.2] else keys

/-- The keys of `manifest["files"]` after a profile was applied. -/
def applyProfile (sourceExists : String → Bool) (keys : List Path) (profileName : String) :
    List Path :=
  (getProfileFiles profileName).foldl (deploy sourceExists) keys

/-- The entries of a manifest, none of which is at or below another. -/
structure Manifest where
  files : List Path
  apart : files.Pairwise Apart

theorem mem_filesUpTo {profileName : String} {l : List (String × List (String × Path))}
    {file : String × Path} (h : file ∈ filesUpTo profileName l) : file ∈ l.flatMap Prod.snd := by
  induction l with
  | nil => exact h
  | cons p rest ih =>
    rw [filesUpTo] at h
    rw [List.flatMap_cons]
    split at h
    · exact List.mem_append_left _ h
    · rcases List.mem_append.mp h with hp | hrest
      · exact List.mem_append_left _ hp
      · exact List.mem_append_right _ (ih hrest)

/-- Where the profiles deploy. -/
def destinations : List Path := (profiles.flatMap Prod.snd).map Prod.snd

theorem destinations_apart : ∀ p ∈ destinations, ∀ q ∈ destinations, p ≠ q → Apart p q := by
  decide +kernel

/-- What the keys of a manifest are. -/
structure Written (keys : List Path) : Prop where
  nodup : keys.Nodup
  deployed : ∀ p ∈ keys, p ∈ destinations

variable {sourceExists : String → Bool} {keys : List Path}

theorem Written.deploy (h : Written keys) {file : String × Path} (hfile : file.2 ∈ destinations) :
    Written (deploy sourceExists keys file) := by
  unfold Recovery.deploy
  split
  · -- a destination is appended once
    rename_i hnew
    have hnot : file.2 ∉ keys := by simpa using (Bool.and_eq_true_iff.mp hnew).2
    refine ⟨List.nodup_append.mpr ⟨h.nodup, List.nodup_singleton _, ?_⟩, ?_⟩
    · rintro a ha b hb rfl
      exact hnot (List.mem_singleton.mp hb ▸ ha)
    · intro p hp
      rcases List.mem_append.mp hp with hold | hlast
      · exact h.deployed p hold
      · exact List.mem_singleton.mp hlast ▸ hfile
  · exact h

theorem Written.applyProfile (h : Written keys) (profileName : String) :
    Written (applyProfile sourceExists keys profileName) := by
  refine List.foldlRecOn _ _ h fun keys hkeys file hfile => hkeys.deploy ?_
  exact List.mem_map.mpr ⟨file, mem_filesUpTo hfile, rfl⟩

/-- However often profiles are applied, what prints the keys prints a manifest. -/
theorem applied_apart (sourceExists : String → Bool) (names : List String) {printed : List Path}
    (h : printed.Perm (names.foldl (applyProfile sourceExists) [])) : printed.Pairwise Apart := by
  have hempty : Written [] := ⟨List.nodup_nil, fun p hp => absurd hp List.not_mem_nil⟩
  have hkeys : Written (names.foldl (applyProfile sourceExists) []) :=
    List.foldlRecOn _ _ hempty fun keys hkeys name _ => hkeys.applyProfile name
  have hnodup : printed.Nodup := h.nodup_iff.mpr hkeys.nodup
  refine hnodup.pairwise_of_forall_ne fun p hp q hq hne => ?_
  exact destinations_apart p (hkeys.deployed p (h.mem_iff.mp hp)) q
    (hkeys.deployed q (h.mem_iff.mp hq)) hne

/-- The manifest after profiles were applied. -/
def Manifest.applied (sourceExists : String → Bool) (names : List String) : Manifest where
  files := names.foldl (applyProfile sourceExists) []
  apart := applied_apart sourceExists names (List.Perm.refl _)

end Cidre.Recovery
