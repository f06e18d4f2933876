import Cidre.Disk.SignedPlan
import Cidre.Disk.Agreement
import Cidre.Disk.ControlledInstall
import Cidre.Disk.MutationExecute
import Cidre.Lock.LockedFrame
import Cidre.Lock.KeyPairing
import Cidre.Uninstall.Stages
import Cidre.Uninstall.Execute
import Cidre.Disk.BootSafety
import Cidre.Link.Sequence
import Cidre.Link.Convergence
import Cidre.Ipc.Client
import Cidre.Outputs.PlugOrder
import Cidre.Protocols.ExtWorkspaceWorld
import Cidre.Protocols.ForeignToplevelWorld
import Cidre.Disk.GuardAgreement
import Cidre.Disk.DisposableTarget
import Cidre.Disk.RecoverySurvival
import Cidre.NiriConfig.Flattened
import Cidre.Disk.PlanIdentity
import Cidre.Disk.MutationViewModel
import Cidre.Link.Geometry
import Cidre.Link.Trust
import Cidre.Link.Viewports
import Cidre.Link.Focus
import Cidre.Link.Registry
import Cidre.Utils.Region
import Cidre.Workspaces.Overview
import Cidre.Workspaces.SwitchRun
import Cidre.Floating.Positions
import Cidre.Workspace.Restore
import Cidre.A11y.KeyGrabs
import Cidre.Floating.Resize
import Cidre.Layout.Resizing
import Cidre.Ui.MruJumps
import Cidre.Workspaces.ScratchFocus
import Cidre.Layout.InsertPosition
import Cidre.Layout.Previous
import Cidre.Liquid.RuleEngine
import Cidre.Outputs.FrameClock
import Cidre.Outputs.NameMatching
import Cidre.Recovery.Snapshot
import Cidre.Ui.ActionPalette
import Cidre.Utils.Transaction
